import Restage.Floor
import Restage.Outcome

/-!
# Moves of slices

What happens to a slice where others see it. A slice that begins or begins again is put into its
tracker's queue in the same move. A fatal failure is told to the tracker, which keeps the first
one and cancels what has not ended.
-/

namespace Restage.Floor

/-- Puts a slice that has just begun in its place and into its tracker's queue. -/
def queueBegun (floor : Floor) (slice : SliceRef) (begun : Slice) (keeper : TrackerRef) : Floor :=
  let floor := floor.modifySlice slice fun _ => begun
  match floor.trackers[keeper]? with
  | some tracker => floor.enqueue tracker.queue slice
  | none => floor

/-- Moves a slice with a held tracker by `change`, and queues it. The answer is whether it
moved. -/
def queueBy (floor : Floor) (slice : SliceRef) (change : Slice → Option Slice) : Floor × Bool :=
  match floor.slices[slice]? with
  | none => (floor, false)
  | some found =>
      match floor.keeper? found, change found with
      | some keeper, some begun => (floor.queueBegun slice begun keeper, true)
      | _, _ => (floor, false)

/-- Hands a new slice to the queue. -/
def submit (floor : Floor) (slice : SliceRef) : Floor × Bool := floor.queueBy slice Slice.begin?

/-- Hands a slice that failed, but not for good, to the queue again. -/
def retry (floor : Floor) (slice : SliceRef) : Floor × Bool := floor.queueBy slice Slice.reopen?

/-- Moves a slice by `change`. The answer is whether it moved. -/
def moveBy (floor : Floor) (slice : SliceRef) (change : Slice → Option Slice) : Floor × Bool :=
  match (floor.slices[slice]?).bind change with
  | some moved => (floor.modifySlice slice fun _ => moved, true)
  | none => (floor, false)

/-- Marks a slice completed. -/
def complete (floor : Floor) (slice : SliceRef) : Floor × Bool :=
  floor.moveBy slice Slice.complete?

/-- Cancels a slice. -/
def cancel (floor : Floor) (slice : SliceRef) : Floor × Bool := floor.moveBy slice Slice.cancel?

/-- Cancels slices one after the other; the answer is how many were not at an end before. -/
def cancelEach (floor : Floor) : List SliceRef → Floor × Nat
  | [] => (floor, 0)
  | slice :: rest =>
      let (floor, moved) := floor.cancel slice
      let (floor, count) := floor.cancelEach rest
      (floor, count + if moved then 1 else 0)

/-- Cancels all slices of a tracker. -/
def cancelAll (floor : Floor) (tracker : TrackerRef) : Floor × Nat :=
  floor.cancelEach (floor.membersOf tracker)

/-- Tells a tracker of a fatal failure. The first one is kept and ends the job; any other is
ignored. -/
def recordFatal (floor : Floor) (tracker : TrackerRef) (failure : FatalFailure) : Floor :=
  match floor.trackers[tracker]? with
  | none => floor
  | some found =>
      match found.fatal with
      | none =>
          ((floor.modifyTracker tracker fun found =>
            { found with fatal := some failure }).cancelAll tracker).1
      | some kept => if kept.serial = failure.serial then (floor.cancelAll tracker).1 else floor

/-- Tells the tracker that a slice is bound to of the slice's failure, when that is fatal. -/
def report (floor : Floor) (slice : SliceRef) (cause : JobFault) : Floor :=
  match cause, (floor.slices[slice]?).bind floor.keeper? with
  | .fatal failure, some keeper => floor.recordFatal keeper failure
  | _, _ => floor

/-- Marks a slice failed. A fatal failure counts for the job even when the slice is at its end
already. -/
def fail (floor : Floor) (slice : SliceRef) (cause : JobFault) : Floor × Bool :=
  let (floor, moved) := floor.moveBy slice fun found => found.fail? cause
  (floor.report slice cause, moved)

/-- Notes what has become of a slice on a replica. -/
def noteReplica (floor : Floor) (slice : SliceRef) (replica : String) (status : ReplicaStatus) :
    Floor :=
  floor.modifySlice slice fun found => found.setReplicaStatus replica status

/-- Applies what the processor of a replica says about a slice. -/
def applyOutcome (floor : Floor) (slice : SliceRef) (replica : String) : Outcome → Floor
  | .success =>
      match floor.complete slice with
      | (floor, true) => floor.noteReplica slice replica .succeeded
      | (floor, false) => floor
  | .retriable detail =>
      ((floor.noteReplica slice replica .failed).fail slice (.retriable detail)).1
  | .fatal detail =>
      let (floor, serial) := (floor.noteReplica slice replica .failed).mint
      (floor.fail slice (.fatal ⟨serial, detail⟩)).1

end Restage.Floor
