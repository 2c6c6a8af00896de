import Restage.Disk.Tree
import Restage.Rehearsal.Command

/-!
# The desk

The desk is where a rehearsal is directed from. It knows what the names in commands mean, and it
numbers fatal failures in the order in which they are shown for the first time, so that a failure
that turns up again can be told from another one that says the same.
-/

namespace Restage

/-- A rehearsal with names. All names are kept in ascending order. -/
structure Desk where
  rehearsal : Rehearsal
  jobs : List (String × Descriptor) := []
  slices : List (String × SliceRef) := []
  queues : List (String × QueueRef) := []
  trackers : List (String × TrackerRef) := []
  failures : List (String × FatalFailure) := []
  /-- The serial numbers of the fatal failures that were shown. -/
  shown : List Nat := []

namespace Desk

/-! ## Names and numbers -/

/-- A value put under a name. -/
def putName {α : Type} (name : String) (value : α) : List (String × α) → List (String × α)
  | [] => [(name, value)]
  | (other, old) :: rest =>
      if name < other then (name, value) :: (other, old) :: rest
      else if name = other then (name, value) :: rest
      else (other, old) :: putName name value rest

def floor (desk : Desk) : Floor := desk.rehearsal.group.floor

def setRehearsal (desk : Desk) (rehearsal : Rehearsal) : Desk := { desk with rehearsal := rehearsal }

def setGroup (desk : Desk) (group : Group) : Desk :=
  desk.setRehearsal { desk.rehearsal with group := group }

def setFloor (desk : Desk) (floor : Floor) : Desk :=
  desk.setGroup { desk.rehearsal.group with floor := floor }

def setStore (desk : Desk) (store : Store) : Desk :=
  desk.setRehearsal { desk.rehearsal with store := store }

/-- The identifier of a job that is mentioned. -/
def jobId? (desk : Desk) : JobMention → Option TimeId
  | .id id => some id
  | .named name => (desk.jobs.lookup name).map fun descriptor => descriptor.job.id

/-- The number that a fatal failure is shown under. -/
def numberOf (desk : Desk) (failure : FatalFailure) : Desk × Nat :=
  match desk.shown.findIdx? (· == failure.serial) with
  | some index => (desk, index)
  | none => ({ desk with shown := desk.shown ++ [failure.serial] }, desk.shown.length)

/-- The failure of a name, which is made when it is missing. -/
def failureFor (desk : Desk) (name : Option String) (message : String) : Desk × FatalFailure :=
  match name.bind fun name => desk.failures.lookup name with
  | some failure => (desk, failure)
  | none =>
      let (floor, serial) := desk.floor.mint
      let failure : FatalFailure := ⟨serial, message⟩
      let desk := desk.setFloor floor
      match name with
      | some name => ({ desk with failures := putName name failure desk.failures }, failure)
      | none => (desk, failure)

/-! ## Replies -/

def replyFailure (desk : Desk) (fault : JobFault) : Desk × Reply :=
  match fault with
  | .retriable _ => (desk, .failure fault none)
  | .fatal failure =>
      let (desk, number) := desk.numberOf failure
      (desk, .failure fault (some number))

def replyStanding (desk : Desk) : Except JobFault Standing → Desk × Reply
  | .ok standing => (desk, .standing standing)
  | .error fault => desk.replyFailure fault

/-- A change of the floor, and whether anything moved. -/
def replyMoved (desk : Desk) (change : Floor × Bool) : Desk × Reply :=
  (desk.setFloor change.1, .flag change.2)

def replySwept (desk : Desk) : Except Fault Nat → Desk × Reply
  | .ok count => (desk, .count count)
  | .error fault => (desk, .fault fault)

/-! ## Naming -/

def nameJob (desk : Desk) (name : String) (job : Job) : Desk × Reply :=
  let (floor, descriptor) := desk.floor.describe job
  ({ desk.setFloor floor with jobs := putName name descriptor desk.jobs }, .job job)

/-- The staging directory of an instance, or a general one. -/
def stagingOf (desk : Desk) (home : Option UInt32) : Path :=
  match home.bind desk.rehearsal.group.manager? with
  | some manager => manager.home.stagingDir
  | none => ⟨"/staging"⟩

def nameSlice (desk : Desk) (name : String) (job : Option JobMention) (home : Option UInt32)
    (upload : String) (recipe : Recipe) : Desk × Reply :=
  let recipe := { recipe with job := job.bind desk.jobId? }
  let recipe := if recipe.staging.isSome then recipe
    else recipe.stagedAt (desk.stagingOf home) upload
  match recipe.build with
  | .error fault => (desk, .fault fault)
  | .ok piece =>
      let (floor, slice) := desk.floor.addSlice (Slice.ofPiece piece)
      ({ desk.setFloor floor with slices := putName name slice desk.slices }, .key piece.key)

/-- Nobody holds a tracker any more. -/
def letGo (floor : Floor) (tracker : TrackerRef) : Floor :=
  floor.modifyTracker tracker fun found => { found with held := false }

def nameTracker (desk : Desk) (name : String) (descriptor : Descriptor) (queue : QueueRef) :
    Desk × Reply :=
  let floor := match desk.trackers.lookup name with
    | some old => letGo desk.floor old
    | none => desk.floor
  let (floor, tracker) := floor.addTracker
    { descriptor := descriptor, members := [], fatal := none, queue := queue, held := true }
  ({ desk.setFloor floor with trackers := putName name tracker desk.trackers }, .nothing)

/-! ## Slices, trackers and queues -/

def onSlice (desk : Desk) (slice : SliceRef) : SliceCommand → Desk × Reply
  | .show =>
      match desk.floor.slices[slice]? with
      | some found => (desk, .slice found (desk.floor.descriptorOf? slice).isSome)
      | none => (desk, .nothing)
  | .failure =>
      match (desk.floor.slices[slice]?).bind Slice.failure with
      | some fault => desk.replyFailure fault
      | none => (desk, .nothing)
  | .descriptor =>
      match desk.floor.descriptorOf? slice with
      | some descriptor =>
          let names := desk.jobs.filter fun (_, other) => other.serial = descriptor.serial
          (desk, .reads descriptor.job (names.map Prod.fst))
      | none => (desk, .nothing)
  | .submit => desk.replyMoved (desk.floor.submit slice)
  | .retry => desk.replyMoved (desk.floor.retry slice)
  | .complete => desk.replyMoved (desk.floor.complete slice)
  | .cancel => desk.replyMoved (desk.floor.cancel slice)
  | .failRetriably message => desk.replyMoved (desk.floor.fail slice (.retriable message))
  | .failFatally name message =>
      let (desk, failure) := desk.failureFor name message
      desk.replyMoved (desk.floor.fail slice (.fatal failure))
  | .noteReplica replica status =>
      (desk.setFloor (desk.floor.noteReplica slice replica status), .nothing)
  | .applyOutcome replica outcome =>
      (desk.setFloor (desk.floor.applyOutcome slice replica outcome), .nothing)
  | .enqueue name =>
      match desk.queues.lookup name with
      | some queue => (desk.setFloor (desk.floor.enqueue queue slice), .nothing)
      | none => (desk, .unknown name)
  | .register name =>
      match desk.trackers.lookup name with
      | some tracker => desk.replyMoved (desk.floor.register slice tracker)
      | none => (desk, .unknown name)
  | .track name =>
      match desk.trackers.lookup name with
      | some tracker =>
          let (floor, answer) := desk.floor.enrol tracker slice
          (desk.setFloor floor).replyStanding answer
      | none => (desk, .unknown name)
  | .handIn home name =>
      match desk.jobs.lookup name with
      | some descriptor =>
          let (group, answer) := desk.rehearsal.group.submit home slice descriptor
          (desk.setGroup group).replyStanding answer
      | none => (desk, .unknown name)

def onTracker (desk : Desk) (name : String) (tracker : TrackerRef) : TrackerCommand → Desk × Reply
  | .drop =>
      ({ desk.setFloor (letGo desk.floor tracker) with
        trackers := desk.trackers.filter fun (other, _) => other ≠ name }, .flag true)
  | .fail failure message =>
      let (desk, failure) := desk.failureFor failure message
      (desk.setFloor (desk.floor.recordFatal tracker failure), .nothing)
  | .update job =>
      match desk.jobs.lookup job with
      | some descriptor =>
          (desk.setFloor (desk.floor.modifyTracker tracker fun found =>
            { found with descriptor := descriptor }), .nothing)
      | none => (desk, .unknown job)
  | .cancelAll =>
      let (floor, count) := desk.floor.cancelAll tracker
      (desk.setFloor floor, .count count)

/-- A drained slice as it is shown: its key and its first name. -/
def drained? (desk : Desk) (slice : SliceRef) : Option (SliceKey × Option String) :=
  (desk.floor.slices[slice]?).map fun found =>
    (found.key, (desk.slices.find? fun (_, other) => other = slice).map Prod.fst)

/-- Takes slices from the head of a queue. -/
def drain (desk : Desk) (queue : QueueRef) (limit : Option Nat) : Desk × Reply :=
  let waiting := ((desk.floor.queues[queue]?).map Queue.waiting).getD []
  let taken := waiting.take (limit.getD waiting.length)
  (desk.setFloor (desk.floor.modifyQueue queue fun found =>
    { found with waiting := found.waiting.drop taken.length }),
    .drained (taken.filterMap desk.drained?))

/-- Closes a queue; the reply is whether it was open. -/
def closeQueue (desk : Desk) (queue : QueueRef) : Desk × Reply :=
  let isOpen := (desk.floor.queues[queue]?).any fun found => !found.closed
  (desk.setFloor (desk.floor.modifyQueue queue fun found =>
    { found with waiting := [], closed := true }), .flag isOpen)

/-! ## Instances -/

def onManager (desk : Desk) (manager : Manager) : ManagerCommand → Desk × Reply
  | .updateJob name =>
      match desk.jobs.lookup name with
      | some descriptor => (desk.setFloor (manager.updateJob desk.floor descriptor), .nothing)
      | none => (desk, .unknown name)
  | .removeJob job =>
      match desk.jobId? job with
      | some job =>
          let (floor, manager, known) := manager.removeJob desk.floor job
          (desk.setGroup (desk.rehearsal.group.put floor manager), .flag known)
      | none => (desk, .unknown "job")
  | .progress job =>
      match (desk.jobId? job).bind (manager.progress? desk.floor) with
      | some progress => (desk, .progress progress)
      | none => (desk, .nothing)
  | .start =>
      let (manager, fresh) := manager.start
      (desk.setGroup (desk.rehearsal.group.put desk.floor manager), .flag fresh)
  | .stop => (desk.setGroup (desk.rehearsal.group.put desk.floor manager.stop), .nothing)
  | .isObsolete path =>
      let rehearsal := desk.rehearsal
      (desk, .flag (rehearsal.disk.IsObsolete path manager.recency rehearsal.now))
  | .sweep =>
      let rehearsal := desk.rehearsal
      let (sweep, answer) := manager.sweep .nowhere rehearsal.now rehearsal.disk desk.floor
      (desk.setRehearsal { rehearsal with
        disk := sweep.disk
        group := rehearsal.group.put sweep.floor sweep.manager }).replySwept answer

def onGroup (desk : Desk) : ManagerCommand → Desk × Reply
  | .updateJob name =>
      match desk.jobs.lookup name with
      | some descriptor => (desk.setGroup (desk.rehearsal.group.updateJob descriptor), .nothing)
      | none => (desk, .unknown name)
  | .removeJob job =>
      match desk.jobId? job with
      | some job =>
          let (group, count) := desk.rehearsal.group.removeJob job
          (desk.setGroup group, .count count)
      | none => (desk, .unknown "job")
  | .start => (desk.setGroup desk.rehearsal.group.start, .nothing)
  | .stop => (desk.setGroup desk.rehearsal.group.stop, .nothing)
  | .sweep =>
      let rehearsal := desk.rehearsal
      let (disk, group, cleanup) := rehearsal.group.sweep .nowhere rehearsal.now rehearsal.disk
      (desk.setRehearsal { rehearsal with disk := disk, group := group }).replySwept cleanup.answer
  | .progress _ | .isObsolete _ => (desk, .unknown "instance")

/-! ## Store and discovery -/

def onStore (desk : Desk) : StoreCommand → Desk × Reply
  | .insertJob name =>
      match desk.jobs.lookup name with
      | some descriptor =>
          (desk.setStore (desk.rehearsal.store.insertJob descriptor.job), .nothing)
      | none => (desk, .unknown name)
  | .insertRecord job record =>
      match desk.jobId? job with
      | some job =>
          (desk.setStore (desk.rehearsal.store.insertRecord { record with job := job }), .nothing)
      | none => (desk, .unknown "job")
  | .job job =>
      match (desk.jobId? job).bind desk.rehearsal.store.job? with
      | some job => (desk, .job job)
      | none => (desk, .nothing)
  | .updateStatus job status =>
      match (desk.jobId? job).map fun job => desk.rehearsal.store.updateStatus job status with
      | some (.ok store) => (desk.setStore store, .nothing)
      | some (.error fault) => (desk, .fault fault)
      | none => (desk, .unknown "job")
  | .recentJobs days =>
      match desk.rehearsal.store.recentJobs? desk.rehearsal.now days with
      | some jobs => (desk, .jobs jobs)
      | none => (desk, .outOfCalendar)
  | .recordsOf job =>
      (desk, .records (((desk.jobId? job).map desk.rehearsal.store.recordsOf).getD []))
  | .outage outage => (desk.setRehearsal { desk.rehearsal with outage := outage }, .nothing)

/-- Runs several cycles with nothing between them. -/
def discover (rehearsal : Rehearsal) : Nat → Rehearsal × List (CycleEnd × Pace)
  | 0 => (rehearsal, [])
  | count + 1 =>
      let (rehearsal, ending) := rehearsal.discover
      let (last, rest) := discover rehearsal count
      (last, (ending, rehearsal.pace) :: rest)

/-! ## Commands -/

/-- Follows a command. What it sets going has not come to rest yet. -/
def follow (desk : Desk) : Command → Desk × Reply
  | .job name job => desk.nameJob name job
  | .withStatus name job status =>
      match desk.jobs.lookup job with
      | some descriptor => desk.nameJob name (descriptor.job.withStatus status)
      | none => (desk, .unknown job)
  | .slice name job home upload recipe => desk.nameSlice name job home upload recipe
  | .queue name =>
      let (floor, queue) := desk.floor.addQueue
      ({ desk.setFloor floor with queues := putName name queue desk.queues }, .nothing)
  | .drain name limit =>
      match desk.queues.lookup name with
      | some queue => desk.drain queue limit
      | none => (desk, .unknown name)
  | .closeQueue name =>
      match desk.queues.lookup name with
      | some queue => desk.closeQueue queue
      | none => (desk, .unknown name)
  | .tracker name job queue =>
      match desk.jobs.lookup job, desk.queues.lookup queue with
      | some descriptor, some queue => desk.nameTracker name descriptor queue
      | _, _ => (desk, .unknown job)
  | .onSlice name command =>
      match desk.slices.lookup name with
      | some slice => desk.onSlice slice command
      | none => (desk, .unknown name)
  | .onTracker name command =>
      match desk.trackers.lookup name with
      | some tracker => desk.onTracker name tracker command
      | none => (desk, .unknown name)
  | .onManager home command =>
      match desk.rehearsal.group.manager? home with
      | some manager => desk.onManager manager command
      | none => (desk, .unknown "instance")
  | .onGroup command => desk.onGroup command
  | .onStore command => desk.onStore command
  | .release bucket =>
      let (rehearsal, count) := match bucket with
        | some bucket => desk.rehearsal.releaseOne bucket
        | none => desk.rehearsal.releaseAll
      (desk.setRehearsal rehearsal, .count count)
  | .discover times =>
      let (rehearsal, cycles) := discover desk.rehearsal times
      (desk.setRehearsal rehearsal, .cycles cycles)
  | .run => (desk.setRehearsal desk.rehearsal.loopOnce, .nothing)
  | .advance millis => (desk.setRehearsal (desk.rehearsal.advance millis), .nothing)
  | .shutdown => (desk.setRehearsal desk.rehearsal.shutdown, .flag true)
  | .listRoot root => (desk, .lines (desk.rehearsal.disk.tree root))
  | .putDisk disk => (desk.setRehearsal { desk.rehearsal with disk := disk }, .nothing)

/-- Follows a command and runs everything to rest. What the processor and the store were asked
before is forgotten. -/
def perform (desk : Desk) (command : Command) : Desk × Reply :=
  let (desk, reply) := (desk.setRehearsal { desk.rehearsal with turns := [], calls := [] }).follow
    command
  (desk.setRehearsal desk.rehearsal.settle, reply)

/-! ## Looking around -/

/-- A tracker as it is shown. -/
structure TrackerView where
  job : Job
  count : Nat
  progress : Progress
  /-- The fatal failure and the number it is shown under. -/
  fatal : Option (FatalFailure × Nat)

/-- What is to be seen of a tracker. -/
def viewTracker (desk : Desk) (ref : TrackerRef) : Desk × Option TrackerView :=
  match desk.floor.trackers[ref]? with
  | none => (desk, none)
  | some tracker =>
      let view (fatal : Option (FatalFailure × Nat)) : TrackerView :=
        ⟨tracker.descriptor.job, tracker.members.length, desk.floor.progress ref, fatal⟩
      match tracker.fatal with
      | none => (desk, some (view none))
      | some failure =>
          let (desk, number) := desk.numberOf failure
          (desk, some (view (some (failure, number))))

/-- What is to be seen of some trackers. -/
def viewTrackers (desk : Desk) :
    List (String × TrackerRef) → Desk × List (String × TrackerView)
  | [] => (desk, [])
  | (name, ref) :: rest =>
      match desk.viewTracker ref with
      | (desk, some view) =>
          let (desk, views) := desk.viewTrackers rest
          (desk, (name, view) :: views)
      | (desk, none) => desk.viewTrackers rest

end Desk

end Restage
