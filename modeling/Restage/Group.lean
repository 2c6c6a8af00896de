import Restage.Manager.Sweep
import Restage.Manager.Worker

/-!
# Groups of managers

A group has one manager for every instance and the floor they share. Managers are kept by ascending
identifier of their instance; where an identifier is given twice, the later instance counts.
-/

namespace Restage

/-- The managers of all instances. -/
structure Group where
  floor : Floor
  managers : List Manager

namespace Group

/-- A manager put in its place among the others. -/
def insert (manager : Manager) : List Manager → List Manager
  | [] => [manager]
  | other :: rest =>
      if manager.home.id < other.home.id then manager :: other :: rest
      else if manager.home.id = other.home.id then manager :: rest
      else other :: insert manager rest

/-- A group with one more instance. -/
def addInstance (recency : Span) (limit : Nat) (group : Group) (home : Instance) : Group :=
  let (floor, queue) := group.floor.addQueue
  { floor := floor, managers := insert (.ofInstance home recency limit queue) group.managers }

/-- The group of some instances. -/
def ofInstances (recency : Span) (limit : Nat) (homes : List Instance) : Group :=
  homes.foldl (addInstance recency limit) ⟨{}, []⟩

/-- The manager of an instance. -/
def manager? (group : Group) (id : UInt32) : Option Manager :=
  group.managers.find? fun manager => manager.home.id = id

/-- The same group with a manager in place of the one of its instance. -/
def put (group : Group) (floor : Floor) (manager : Manager) : Group where
  floor := floor
  managers := group.managers.map fun other =>
    if other.home.id = manager.home.id then manager else other

/-! ## Jobs -/

/-- The complaint about an instance without a manager. -/
def noManager (id : UInt32) : JobFault :=
  .retriable ("No restore job manager for instance " ++ toString id.toNat)

/-- Submits a slice of a job on an instance. -/
def submit (group : Group) (id : UInt32) (slice : SliceRef) (descriptor : Descriptor) :
    Group × Except JobFault Standing :=
  match group.manager? id with
  | none => (group, .error (noManager id))
  | some manager =>
      let (floor, manager, answer) := manager.submit group.floor slice descriptor
      (group.put floor manager, answer)

/-- Gives a job's slices on every instance another descriptor to read. -/
def updateJob (group : Group) (descriptor : Descriptor) : Group :=
  { group with
    floor := group.managers.foldl (fun floor manager => manager.updateJob floor descriptor)
      group.floor }

/-- Removes a job from some managers; the answer is on how many it was. -/
def removeFrom (floor : Floor) (job : TimeId) : List Manager → Floor × List Manager × Nat
  | [] => (floor, [], 0)
  | manager :: rest =>
      let (floor, manager, known) := manager.removeJob floor job
      let (floor, rest, count) := removeFrom floor job rest
      (floor, manager :: rest, count + if known then 1 else 0)

/-- Removes a job from every instance; the answer is on how many it was. -/
def removeJob (group : Group) (job : TimeId) : Group × Nat :=
  let (floor, managers, count) := removeFrom group.floor job group.managers
  (⟨floor, managers⟩, count)

/-! ## Starting and stopping -/

def start (group : Group) : Group :=
  { group with managers := group.managers.map fun manager => manager.start.1 }

def stop (group : Group) : Group :=
  { group with managers := group.managers.map Manager.stop }

/-! ## Sweeping -/

/-- What came of the sweeps of all instances. -/
structure Cleanup where
  answer : Except Fault Nat
  /-- Sweeps whose end was not waited for any more. -/
  abandoned : Nat

/-- Waits for sweeps one after the other and adds up what they answer. Directories that could not be
deleted are collected; any other fault is answered at once. -/
def gather (deleted : Nat) (refused : List Path) : List (Except Fault Nat) → Cleanup
  | [] => ⟨if refused = [] then .ok deleted else .error (.cleanupFailed refused), 0⟩
  | .ok count :: rest => gather (deleted + count) refused rest
  | .error (.cleanupFailed more) :: rest => gather deleted (refused ++ more) rest
  | .error fault :: rest => ⟨.error fault, rest.length⟩

/-- Sweeps for some managers, one after the other. -/
def sweepEach (trouble : Trouble) (now : Instant) (disk : Disk) (floor : Floor) :
    List Manager → Disk × Floor × List Manager × List (Except Fault Nat)
  | [] => (disk, floor, [], [])
  | manager :: rest =>
      let (sweep, answer) := manager.sweep trouble now disk floor
      let (disk, floor, rest, answers) := sweepEach trouble now sweep.disk sweep.floor rest
      (disk, floor, sweep.manager :: rest, answer :: answers)

/-- Sweeps the staging directories of all instances. -/
def sweep (trouble : Trouble) (now : Instant) (disk : Disk) (group : Group) :
    Disk × Group × Cleanup :=
  let (disk, floor, managers, answers) := sweepEach trouble now disk group.floor group.managers
  (disk, ⟨floor, managers⟩, gather 0 [] answers)

end Group

end Restage
