import Restage.Fault
import Restage.Job
import Restage.Slice.Piece

/-!
# The job store

The store holds the jobs that clients want done and the slices they consist of. Here it is kept in
memory.
-/

namespace Restage

/-- Jobs with different identifiers, and recorded slices in the order in which they came. -/
structure Store where
  jobs : List Job := []
  records : List SliceRecord := []

namespace Store

/-- A job put in place of the one with its identifier. -/
def insertInto (job : Job) : List Job → List Job
  | [] => [job]
  | other :: rest => if other.id = job.id then job :: rest else other :: insertInto job rest

def insertJob (store : Store) (job : Job) : Store := { store with jobs := insertInto job store.jobs }

def insertRecord (store : Store) (record : SliceRecord) : Store :=
  { store with records := store.records ++ [record] }

/-- The job with an identifier. -/
def job? (store : Store) (id : TimeId) : Option Job := store.jobs.find? fun job => job.id = id

/-- Whether a job's embedded instant is not before a cut-off. -/
def IsRecent (cutoff : Instant) (job : Job) : Prop :=
  ∃ created ∈ job.createdAt?, cutoff.nanos ≤ created.nanos

instance (cutoff : Instant) (job : Job) : Decidable (IsRecent cutoff job) := by
  unfold IsRecent
  exact match h : job.createdAt? with
    | none => .isFalse (by simp)
    | some created => decidable_of_iff (cutoff.nanos ≤ created.nanos) (by simp)

/-- The embedded instant as a number, for sorting. -/
def birth (job : Job) : Int :=
  match job.createdAt? with
  | some created => created.nanos
  | none => 0

/-- The jobs made within the last days, the oldest first; none when the calendar has no name for
the day at which they begin. -/
def recentJobs? (store : Store) (now : Instant) (days : UInt32) : Option (List Job) :=
  (now.minus? (Span.ofDays days.toNat)).map fun cutoff =>
    (store.jobs.filter fun job => IsRecent cutoff job).mergeSort
      fun left right => birth left ≤ birth right

/-- The recorded slices of a job. -/
def recordsOf (store : Store) (job : TimeId) : List SliceRecord :=
  store.records.filter fun record => record.job = job

/-- Records another status for a job. -/
def updateStatus (store : Store) (id : TimeId) (status : JobStatus) : Except Fault Store :=
  match store.job? id with
  | none => .error (.invalidInput ("Unknown restore job " ++ id.render))
  | some job => .ok (store.insertJob (job.withStatus status))

end Store

end Restage
