import Restage.Floor.Moves

/-!
# Submitting slices to trackers

`Floor.enrol` takes a slice into a tracker at most once. The same slice may be submitted again and
again: the answer then says how far it has come, and a retriable failure is tried once more. After
a fatal failure every submission gets that failure.
-/

namespace Restage

/-- The answer to a submission. -/
inductive Standing where
  /-- The slice is new and was queued. -/
  | created
  /-- The slice is known and not completed. -/
  | pending
  | completed
  deriving DecidableEq, Repr, Inhabited

/-- The word a standing is reported as. -/
def Standing.word : Standing → String
  | created => "CREATED"
  | pending => "PENDING"
  | completed => "COMPLETED"

/-- How many slices of a job are in each state. -/
structure Progress where
  created : Nat := 0
  pending : Nat := 0
  completed : Nat := 0
  failed : Nat := 0
  cancelled : Nat := 0
  deriving DecidableEq, Repr, Inhabited

/-- The number of slices in any state. -/
def Progress.total (progress : Progress) : Nat :=
  progress.created + progress.pending + progress.completed + progress.failed + progress.cancelled

namespace Floor

/-- Binds a slice to a tracker; the answer is whether it is the slice's tracker now. -/
def register (floor : Floor) (slice : SliceRef) (tracker : TrackerRef) : Floor × Bool :=
  match floor.slices[slice]? with
  | none => (floor, false)
  | some found =>
      let (bound, owned) := found.bind tracker
      (floor.modifySlice slice fun _ => bound, owned)

/-- The standing of a slice that its tracker knows. A failed one is tried once more. -/
def revisit (floor : Floor) (known : SliceRef) : Floor × Standing :=
  match floor.stateOf? known with
  | some .completed => (floor, .completed)
  | some .failed => ((floor.retry known).1, .pending)
  | _ => (floor, .pending)

/-- Puts a slice among those of a tracker. -/
def addMember (floor : Floor) (tracker : TrackerRef) (slot : Slot) (slice : SliceRef) : Floor :=
  floor.modifyTracker tracker fun found =>
    { found with members := found.members ++ [(slot, slice)] }

/-- The complaint about a slice that belongs to another tracker. -/
def boundElsewhere (key : SliceKey) : JobFault :=
  .retriable ("Slice " ++ key.render ++ " is already registered with another tracker")

/-- Takes a slice that a tracker does not know. -/
def enrolNew (floor : Floor) (tracker : TrackerRef) (slice : SliceRef) (found : Slice) :
    Floor × Except JobFault Standing :=
  match floor.register slice tracker with
  | (floor, true) =>
      (((floor.addMember tracker found.slot slice).submit slice).1, .ok .created)
  | (floor, false) => (floor, .error (boundElsewhere found.key))

/-- Submits a slice to a tracker. -/
def enrol (floor : Floor) (tracker : TrackerRef) (slice : SliceRef) :
    Floor × Except JobFault Standing :=
  match floor.trackers[tracker]?, floor.slices[slice]? with
  | some owner, some found =>
      match owner.fatal with
      | some failure => (floor, .error (.fatal failure))
      | none =>
          match owner.members.lookup found.slot with
          | some known =>
              let (floor, standing) := floor.revisit known
              (floor, .ok standing)
          | none => floor.enrolNew tracker slice found
  | _, _ => (floor, .error (.retriable "Unknown slice"))

/-- How many of some slices are in a state. -/
def countIn (floor : Floor) (slices : List SliceRef) (state : SliceState) : Nat :=
  slices.countP fun slice => floor.stateOf? slice = some state

/-- The progress of a tracker's job. -/
def progress (floor : Floor) (tracker : TrackerRef) : Progress :=
  let slices := floor.membersOf tracker
  { created := floor.countIn slices .created
    pending := floor.countIn slices .pending
    completed := floor.countIn slices .completed
    failed := floor.countIn slices .failed
    cancelled := floor.countIn slices .cancelled }

end Floor

end Restage
