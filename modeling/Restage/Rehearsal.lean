import Restage.Discovery.Loop
import Restage.Rehearsal.Script

/-!
# Rehearsals

A rehearsal is the whole service with a scripted processor and a clock that is moved by hand. After
every step it is run to rest: workers go on until they have to wait, the processor says what it has
to say, outcomes are applied, and sweeps come to their end. The order is fixed, so a rehearsal
always ends the same way.
-/

namespace Restage

/-- A slice that the processor is busy with. -/
structure Running where
  home : UInt32
  number : Nat
  slice : SliceRef
  behaviour : Behaviour
  released : Bool
  deriving DecidableEq

/-- The start of a turn of the processor: the slice's key and the status of its job. -/
structure Turn where
  key : String
  jobStatus : Option JobStatus
  deriving DecidableEq

/-- A service in rehearsal. -/
structure Rehearsal where
  settings : Settings
  /-- The clock that ages are measured by. -/
  now : Instant
  script : Script
  group : Group
  disk : Disk := {}
  store : Store := {}
  outage : Outage := {}
  pace : Pace := .idle
  /-- The clock that the discovery loop waits by, in milliseconds. -/
  clock : Nat := 0
  /-- When the discovery loop runs next, if there is one. -/
  due : Option Nat := none
  running : List Running := []
  /-- How often each key was processed. -/
  turnsOf : List (String × Nat) := []
  /-- Whether a sweep is to come. -/
  sweepWanted : Bool := false
  turns : List Turn := []
  calls : List StoreCall := []

namespace Rehearsal

/-! ## Running to rest -/

/-- Lets every worker go on until it has to wait. -/
def workEach (floor : Floor) : List Manager → Floor × List Manager
  | [] => (floor, [])
  | manager :: rest =>
      let (floor, manager) := manager.work floor (manager.workBound floor)
      let (floor, rest) := workEach floor rest
      (floor, manager :: rest)

/-- The processor begins with a slice. -/
def beginTurn (rehearsal : Rehearsal) (home : UInt32) (flight : Flight) : Rehearsal :=
  match rehearsal.group.floor.slices[flight.slice]? with
  | none => rehearsal
  | some slice =>
      let key := slice.key.render
      let time := (rehearsal.turnsOf.lookup key).getD 0
      let status := (rehearsal.group.floor.descriptorOf? flight.slice).map fun descriptor =>
        descriptor.job.status
      { rehearsal with
        running := rehearsal.running ++
          [⟨home, flight.number, flight.slice,
            rehearsal.script.turn slice.piece.bucket.toInt time, false⟩]
        turnsOf := (key, time + 1) :: rehearsal.turnsOf.filter fun (other, _) => other ≠ key
        turns := rehearsal.turns ++ [⟨key, status⟩] }

/-- Whether the processor is busy with a flight. -/
def knows (rehearsal : Rehearsal) (flight : Flight) : Bool :=
  rehearsal.running.any fun running => running.number = flight.number

/-- The processor begins with every slice that was handed to it. -/
def beginAll (rehearsal : Rehearsal) : Rehearsal :=
  rehearsal.group.managers.foldl
    (fun rehearsal manager =>
      (manager.flights.filter fun flight => !rehearsal.knows flight).foldl
        (fun rehearsal flight => rehearsal.beginTurn manager.home.id flight) rehearsal)
    rehearsal

/-- What the processor says by now of a slice it is busy with. -/
def says? (rehearsal : Rehearsal) (running : Running) : Option Outcome :=
  let tokenCancelled := ((rehearsal.group.floor.slices[running.slice]?).map
    Slice.tokenCancelled).getD false
  running.behaviour.says? running.released tokenCancelled

/-- Applies what the processor said. -/
def finish (rehearsal : Rehearsal) (said : Running × Outcome) : Rehearsal :=
  let (running, outcome) := said
  let group := rehearsal.group
  let landed := (group.manager? running.home).bind fun manager =>
    manager.land? group.floor running.number outcome
  { rehearsal with
    running := rehearsal.running.filter fun other => other.number ≠ running.number
    group := match landed with
      | some (floor, manager) => group.put floor manager
      | none => group }

/-- Workers, then the processor, then what it said, until nothing moves, for at most `fuel`
rounds. -/
def flow (rehearsal : Rehearsal) : Nat → Rehearsal
  | 0 => rehearsal
  | fuel + 1 =>
      let (floor, managers) := workEach rehearsal.group.floor rehearsal.group.managers
      let rehearsal := beginAll { rehearsal with group := ⟨floor, managers⟩ }
      match rehearsal.running.filterMap fun running =>
          (rehearsal.says? running).map fun outcome => (running, outcome) with
      | [] => rehearsal
      | said => flow (said.foldl finish rehearsal) fuel

/-- A number of rounds after which nothing moves: every round but the last ends a turn. -/
def flowBound (rehearsal : Rehearsal) : Nat :=
  let floor := rehearsal.group.floor
  rehearsal.group.managers.foldl
    (fun sum manager =>
      sum + manager.flights.length + 1
        + ((floor.queues[manager.queue]?).map fun queue => queue.waiting.length).getD 0)
    1

/-- Brings a sweep that is to come to its end. -/
def sweep (rehearsal : Rehearsal) : Rehearsal :=
  if rehearsal.sweepWanted then
    let (disk, group, _) :=
      rehearsal.group.sweep .nowhere rehearsal.now rehearsal.disk
    { rehearsal with disk := disk, group := group, sweepWanted := false }
  else rehearsal

/-- Runs everything to rest. -/
def settle (rehearsal : Rehearsal) : Rehearsal :=
  let rehearsal := (rehearsal.flow rehearsal.flowBound).sweep
  rehearsal.flow rehearsal.flowBound

/-! ## Releasing -/

/-- The key of a slice that the processor is busy with. -/
def keyOf (rehearsal : Rehearsal) (running : Running) : String :=
  ((rehearsal.group.floor.slices[running.slice]?).map fun slice => slice.key.render).getD ""

def bucketOf? (rehearsal : Rehearsal) (running : Running) : Option Int :=
  (rehearsal.group.floor.slices[running.slice]?).map fun slice => slice.piece.bucket.toInt

/-- Those that wait to be released. -/
def waiting (rehearsal : Rehearsal) : List Running :=
  rehearsal.running.filter fun running => running.behaviour.holds ∧ ¬ running.released

/-- Releases what has one of the given numbers. -/
def releaseNumbers (rehearsal : Rehearsal) (numbers : List Nat) : Rehearsal :=
  { rehearsal with
    running := rehearsal.running.map fun running =>
      if running.number ∈ numbers then { running with released := true } else running }

/-- Releases everything that waits; the answer is how many that are. -/
def releaseAll (rehearsal : Rehearsal) : Rehearsal × Nat :=
  let numbers := rehearsal.waiting.map Running.number
  (rehearsal.releaseNumbers numbers, numbers.length)

/-- Releases that slice of a bucket which has the least key and has waited longest; the answer is
how many that are. -/
def releaseOne (rehearsal : Rehearsal) (bucket : Int) : Rehearsal × Nat :=
  let candidates := (rehearsal.waiting.filter fun running =>
    rehearsal.bucketOf? running = some bucket).mergeSort
      fun left right => rehearsal.keyOf left ≤ rehearsal.keyOf right
  match candidates with
  | [] => (rehearsal, 0)
  | running :: _ => (rehearsal.releaseNumbers [running.number], 1)

/-! ## Discovery -/

/-- Runs a cycle of discovery. -/
def cycle (rehearsal : Rehearsal) : Rehearsal × CycleEnd :=
  let (pass, ending) := Discovery.cycle rehearsal.settings rehearsal.now rehearsal.outage
    rehearsal.store rehearsal.group
  ({ rehearsal with
    store := pass.store
    group := pass.group
    calls := rehearsal.calls ++ pass.calls
    sweepWanted := rehearsal.sweepWanted || Discovery.sweepsAfter ending }, ending)

/-- Runs a single cycle. -/
def discover (rehearsal : Rehearsal) : Rehearsal × CycleEnd :=
  let (rehearsal, ending) := rehearsal.cycle
  ({ rehearsal with pace := Discovery.paceAfter rehearsal.pace ending }, ending)

/-- Runs a cycle of the discovery loop and sets the time of the next. -/
def loopOnce (rehearsal : Rehearsal) : Rehearsal :=
  let (rehearsal, ending) := rehearsal.cycle
  let pace := Discovery.loopPaceAfter rehearsal.pace ending
  { rehearsal with
    pace := pace
    due := Discovery.dueAfter rehearsal.settings rehearsal.clock pace ending }

/-- Moves the clock of the loop on. -/
def advance (rehearsal : Rehearsal) (millis : Nat) : Rehearsal :=
  let rehearsal := { rehearsal with clock := rehearsal.clock + millis }
  if Discovery.IsDue rehearsal.due rehearsal.clock then rehearsal.loopOnce else rehearsal

/-- Ends the loop. -/
def shutdown (rehearsal : Rehearsal) : Rehearsal := { rehearsal with due := none }

end Rehearsal

end Restage
