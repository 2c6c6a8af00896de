import Restage.Rehearsal

/-!
# Commands of a rehearsal

A rehearsal is directed by commands, which refer to jobs, slices, queues and trackers by the names
they were given, and every command has a reply.
-/

namespace Restage

/-- A job, by its name or by its identifier. -/
inductive JobMention where
  | named (name : String)
  | id (id : TimeId)
  deriving DecidableEq

/-- What may be done with a single slice. -/
inductive SliceCommand where
  | show
  | failure
  | descriptor
  | submit
  | retry
  | complete
  | cancel
  | failRetriably (message : String)
  /-- Failures with one name are one failure. -/
  | failFatally (failure : Option String) (message : String)
  | noteReplica (replica : String) (status : ReplicaStatus)
  | applyOutcome (replica : String) (outcome : Outcome)
  | enqueue (queue : String)
  | register (tracker : String)
  | track (tracker : String)
  | handIn (home : UInt32) (job : String)
  deriving DecidableEq

/-- What may be done with a single tracker. -/
inductive TrackerCommand where
  | drop
  | fail (failure : Option String) (message : String)
  | update (job : String)
  | cancelAll
  deriving DecidableEq

/-- What may be done with one instance, and mostly with all of them as well. -/
inductive ManagerCommand where
  | updateJob (job : String)
  | removeJob (job : JobMention)
  | progress (job : JobMention)
  | start
  | stop
  | isObsolete (path : Path)
  | sweep
  deriving DecidableEq

/-- What may be done with the job store. -/
inductive StoreCommand where
  | insertJob (job : String)
  | insertRecord (job : JobMention) (record : SliceRecord)
  | job (job : JobMention)
  | updateStatus (job : JobMention) (status : JobStatus)
  | recentJobs (days : UInt32)
  | recordsOf (job : JobMention)
  | outage (outage : Outage)
  deriving DecidableEq

/-- A command. -/
inductive Command where
  | job (name : String) (job : Job)
  | withStatus (name job : String) (status : JobStatus)
  /-- Builds a slice. Where the recipe says nothing of it, it is staged on an instance. -/
  | slice (name : String) (job : Option JobMention) (home : Option UInt32) (upload : String)
      (recipe : Recipe)
  | queue (name : String)
  | drain (queue : String) (limit : Option Nat)
  | closeQueue (queue : String)
  | tracker (name job queue : String)
  | onSlice (slice : String) (command : SliceCommand)
  | onTracker (tracker : String) (command : TrackerCommand)
  | onManager (home : UInt32) (command : ManagerCommand)
  | onGroup (command : ManagerCommand)
  | onStore (command : StoreCommand)
  | release (bucket : Option Int)
  | discover (times : Nat)
  | run
  | advance (millis : Nat)
  | shutdown
  | listRoot (root : Path)
  | putDisk (disk : Disk)

/-- The reply to a command. -/
inductive Reply where
  | nothing
  | flag (value : Bool)
  | count (value : Nat)
  | key (key : SliceKey)
  | standing (standing : Standing)
  /-- A failure, and the number that a fatal one is shown under. -/
  | failure (fault : JobFault) (number : Option Nat)
  | fault (fault : Fault)
  | slice (slice : Slice) (hasJob : Bool)
  /-- The job that a slice reads, and the names of that very descriptor. -/
  | reads (job : Job) (names : List String)
  | drained (slices : List (SliceKey × Option String))
  | progress (progress : Progress)
  | job (job : Job)
  | jobs (jobs : List Job)
  | records (records : List SliceRecord)
  | cycles (cycles : List (CycleEnd × Pace))
  | outOfCalendar
  | lines (lines : List String)
  /-- Something that the command mentions was never named. -/
  | unknown (what : String)

end Restage
