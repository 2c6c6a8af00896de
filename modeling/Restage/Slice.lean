import Restage.Slice.Piece
import Restage.Text.Quoted

/-!
# Slices and their states

A slice begins CREATED, waits and is worked on as PENDING, and ends COMPLETED, FAILED or
CANCELLED. Each move below has no result when the state does not allow it. The only way out of an
ended state is `Slice.reopen?`, from a retriable failure back to PENDING.
-/

namespace Restage

/-- How far a slice has come. -/
inductive SliceState where
  | created
  | pending
  | completed
  | failed
  | cancelled
  deriving DecidableEq, Repr, Inhabited

namespace SliceState

def IsTerminal (state : SliceState) : Prop :=
  state = completed ∨ state = failed ∨ state = cancelled

instance (state : SliceState) : Decidable state.IsTerminal :=
  inferInstanceAs (Decidable (_ ∨ _))

/-- The word a state is reported as. -/
def word : SliceState → String
  | created => "CREATED"
  | pending => "PENDING"
  | completed => "COMPLETED"
  | failed => "FAILED"
  | cancelled => "CANCELLED"

/-- The name of a state in a quotation of its slice. -/
def title : SliceState → String
  | created => "Created"
  | pending => "Pending"
  | completed => "Completed"
  | failed => "Failed"
  | cancelled => "Cancelled"

end SliceState

/-- What has become of a slice on one replica. -/
inductive ReplicaStatus where
  | pending
  | succeeded
  | failed
  deriving DecidableEq, Repr, Inhabited

namespace ReplicaStatus

/-- The word a replica's status is reported as. -/
def word : ReplicaStatus → String
  | pending => "PENDING"
  | succeeded => "SUCCEEDED"
  | failed => "FAILED"

end ReplicaStatus

/-- The number of a slice in its table. -/
abbrev SliceRef := Nat

/-- The number of a tracker in its table. -/
abbrev TrackerRef := Nat

/-- The number of a queue in its table. -/
abbrev QueueRef := Nat

/-- A slice: its unchanging piece and what has happened to it. `owner` is the tracker it was
first bound to, whether or not that tracker is still held by anyone. -/
structure Slice where
  piece : Piece
  state : SliceState
  failure : Option JobFault
  owner : Option TrackerRef
  replicaStatus : List (String × ReplicaStatus)
  tokenCancelled : Bool

namespace Slice

/-- A slice as it is built: CREATED, bound to nothing, every replica waiting. -/
def ofPiece (piece : Piece) : Slice where
  piece := piece
  state := .created
  failure := none
  owner := none
  replicaStatus := piece.replicas.map fun replica => (replica, .pending)
  tokenCancelled := false

def key (slice : Slice) : SliceKey := slice.piece.key

def slot (slice : Slice) : Slot := slice.piece.slot

/-! ## Moves -/

/-- CREATED to PENDING. -/
def begin? (slice : Slice) : Option Slice :=
  if slice.state = .created then some { slice with state := .pending } else none

/-- FAILED by a retriable failure to PENDING, which forgets the failure. -/
def reopen? (slice : Slice) : Option Slice :=
  match slice.failure with
  | some (.retriable _) =>
      if slice.state = .failed then some { slice with state := .pending, failure := none } else none
  | _ => none

/-- To COMPLETED, from any state that has not ended. A completed slice completes again. -/
def complete? (slice : Slice) : Option Slice :=
  if slice.state = .completed then some slice
  else if slice.state.IsTerminal then none
  else some { slice with state := .completed }

/-- To FAILED with its cause, from any state that has not ended. -/
def fail? (slice : Slice) (cause : JobFault) : Option Slice :=
  if slice.state.IsTerminal then none
  else some { slice with state := .failed, failure := some cause }

/-- To CANCELLED, from any state that has not ended, and the processor is told. -/
def cancel? (slice : Slice) : Option Slice :=
  if slice.state.IsTerminal then none
  else some { slice with state := .cancelled, tokenCancelled := true }

/-- Binds a slice to a tracker. The first tracker stays its owner; the answer is whether that is
the one given. -/
def bind (slice : Slice) (tracker : TrackerRef) : Slice × Bool :=
  match slice.owner with
  | none => ({ slice with owner := some tracker }, true)
  | some owner => (slice, owner = tracker)

/-- A status put under a replica's name, in its place if the name is known. -/
def putStatus (replica : String) (status : ReplicaStatus) :
    List (String × ReplicaStatus) → List (String × ReplicaStatus)
  | [] => [(replica, status)]
  | (name, old) :: rest =>
      if name = replica then (name, status) :: rest
      else (name, old) :: putStatus replica status rest

def setReplicaStatus (slice : Slice) (replica : String) (status : ReplicaStatus) : Slice :=
  { slice with replicaStatus := putStatus replica status slice.replicaStatus }

/-! ## Showing a slice -/

/-- The text a slice is quoted as in logs. -/
def quotation (slice : Slice) : String :=
  "RestoreSlice \x7b slice_id: " ++ Text.Quoted.quote false slice.piece.sliceId
    ++ ", job_id: " ++ slice.piece.job.render
    ++ ", bucket_id: " ++ toString slice.piece.bucket.toInt
    ++ ", target_path_in_staging: " ++ Text.Quoted.quote true slice.piece.target.text
    ++ ", state: " ++ slice.state.title ++ " \x7d"

end Slice

end Restage
