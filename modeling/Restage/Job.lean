import Restage.TimeId.Spelling

/-!
# Restore jobs

A job restores one table. Its descriptor is a value: a change of status makes a new one.
-/

namespace Restage

/-- How far a job has come. -/
inductive JobStatus where
  | created
  | staged
  | succeeded
  | failed
  | aborted
  deriving DecidableEq, Repr, Inhabited

namespace JobStatus

/-- The word a status is recorded as. -/
def word : JobStatus → String
  | created => "CREATED"
  | staged => "STAGED"
  | succeeded => "SUCCEEDED"
  | failed => "FAILED"
  | aborted => "ABORTED"

/-- Every status, in the order a job may pass through them. -/
def all : List JobStatus := [created, staged, succeeded, failed, aborted]

/-- A finished job takes no further work. -/
def IsTerminal (status : JobStatus) : Prop :=
  status = succeeded ∨ status = failed ∨ status = aborted

instance (status : JobStatus) : Decidable status.IsTerminal :=
  inferInstanceAs (Decidable (_ ∨ _))

/-- The text with its ASCII letters in upper case; all other characters stay. -/
def upperCased (text : String) : String := text.map Char.toUpper

/-- The status a word stands for, in any case; otherwise the complaint about it. -/
def parse (text : String) : Except String JobStatus :=
  match all.find? fun status => status.word == upperCased text with
  | some status => .ok status
  | none => .error ("Unknown restore job status: " ++ upperCased text)

end JobStatus

/-- The descriptor of a job, as the job store records it. -/
structure Job where
  id : TimeId
  keyspace : String
  table : String
  agent : Option String
  status : JobStatus
  expireAt : Instant
  deriving DecidableEq

namespace Job

/-- The instant embedded in the job's identifier. -/
def createdAt? (job : Job) : Option Instant := job.id.createdAt?

def IsTerminal (job : Job) : Prop := job.status.IsTerminal

instance (job : Job) : Decidable job.IsTerminal := inferInstanceAs (Decidable (_ ∨ _))

/-- A job has expired from the very instant it names on. -/
def IsExpired (job : Job) (now : Instant) : Prop := job.expireAt.nanos ≤ now.nanos

instance (job : Job) (now : Instant) : Decidable (job.IsExpired now) :=
  inferInstanceAs (Decidable (_ ≤ _))

/-- The same job with another status. -/
def withStatus (job : Job) (status : JobStatus) : Job := { job with status := status }

end Job

end Restage
