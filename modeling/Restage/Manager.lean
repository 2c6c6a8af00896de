import Restage.Floor.Enrol
import Restage.Instance

/-!
# Managers

The manager of an instance has a tracker for every job it was given a slice of, one queue for all
of them, and a worker that takes slices from the queue to the processor. At most `limit` slices
are with the processor at a time: each holds a permit, and so does the worker between being
granted one and passing its slice on.
-/

namespace Restage

/-- What the worker of a manager is doing. -/
inductive Worker where
  /-- It has not been started. -/
  | unborn
  /-- It waits for a slice. -/
  | idle
  /-- It has a slice and waits for a permit. -/
  | waiting (slice : SliceRef)
  /-- It has a slice and a permit. -/
  | ready (slice : SliceRef)
  /-- It has been stopped. -/
  | gone
  deriving DecidableEq, Repr, Inhabited

/-- The slice in a worker's hand. -/
def Worker.hand : Worker → List SliceRef
  | waiting slice | ready slice => [slice]
  | _ => []

/-- A slice that is with the processor. Its number is its own among all that ever were. -/
structure Flight where
  number : Nat
  slice : SliceRef
  deriving DecidableEq, Repr, Inhabited

/-- The restore work of one instance. -/
structure Manager where
  home : Instance
  /-- The age up to which job directories are kept. -/
  recency : Span
  /-- How many slices may be with the processor at a time. -/
  limit : Nat
  /-- The trackers, each under its job. -/
  jobs : List (TimeId × TrackerRef)
  queue : QueueRef
  worker : Worker
  /-- Permits that nobody holds. -/
  free : Nat
  flights : List Flight
  /-- The slots of the slices that are with the processor. -/
  active : List Slot
  /-- Whether the manager was told to stop. -/
  stopping : Bool

namespace Manager

/-- The manager of an instance, which uses a queue of its own. -/
def ofInstance (home : Instance) (recency : Span) (limit : Nat) (queue : QueueRef) : Manager where
  home := home
  recency := recency
  limit := limit
  jobs := []
  queue := queue
  worker := .unborn
  free := limit
  flights := []
  active := []
  stopping := false

/-! ## Jobs -/

/-- The tracker of a job. -/
def tracker? (manager : Manager) (job : TimeId) : Option TrackerRef := manager.jobs.lookup job

/-- The tracker of a descriptor's job, which is made when it is missing. -/
def trackerFor (manager : Manager) (floor : Floor) (descriptor : Descriptor) :
    Floor × Manager × TrackerRef :=
  match manager.tracker? descriptor.job.id with
  | some tracker => (floor, manager, tracker)
  | none =>
      let (floor, tracker) := floor.addTracker
        { descriptor := descriptor, members := [], fatal := none, queue := manager.queue,
          held := true }
      (floor, { manager with jobs := manager.jobs ++ [(descriptor.job.id, tracker)] }, tracker)

/-- The complaint about a slice of another job. -/
def foreignSlice (key : SliceKey) (job : TimeId) : JobFault :=
  .retriable ("Slice " ++ key.render ++ " does not belong to job " ++ job.render)

/-- Submits a slice of a job. -/
def submit (manager : Manager) (floor : Floor) (slice : SliceRef) (descriptor : Descriptor) :
    Floor × Manager × Except JobFault Standing :=
  match floor.slices[slice]? with
  | none => (floor, manager, .error (.retriable "Unknown slice"))
  | some found =>
      if found.piece.job ≠ descriptor.job.id then
        (floor, manager, .error (foreignSlice found.key descriptor.job.id))
      else
        let (floor, manager, tracker) := manager.trackerFor floor descriptor
        let (floor, answer) := floor.enrol tracker slice
        (floor, manager, answer)

/-- Gives a job's slices another descriptor to read. -/
def updateJob (manager : Manager) (floor : Floor) (descriptor : Descriptor) : Floor :=
  match manager.tracker? descriptor.job.id with
  | some tracker => floor.modifyTracker tracker fun found => { found with descriptor := descriptor }
  | none => floor

/-- Lets go of a job and cancels its slices. The answer is whether there was such a job. -/
def removeJob (manager : Manager) (floor : Floor) (job : TimeId) : Floor × Manager × Bool :=
  match manager.tracker? job with
  | none => (floor, manager, false)
  | some tracker =>
      let (floor, _) := floor.cancelAll tracker
      (floor.modifyTracker tracker fun found => { found with held := false },
        { manager with jobs := manager.jobs.filter fun (other, _) => other ≠ job }, true)

/-- The progress of a job. -/
def progress? (manager : Manager) (floor : Floor) (job : TimeId) : Option Progress :=
  (manager.tracker? job).map floor.progress

/-- How many slices wait for a permit. -/
def queuedCount (manager : Manager) (floor : Floor) : Nat :=
  match floor.queues[manager.queue]? with
  | some queue => queue.counted
  | none => 0

/-- How many slices are known to be with the processor. -/
def activeCount (manager : Manager) : Nat := manager.active.length

end Manager

end Restage
