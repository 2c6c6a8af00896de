import Restage.Discovery.Pace
import Restage.Group
import Restage.Store

/-!
# A cycle of discovery

A cycle asks the store for the recent jobs and takes each by its class. A finished job is let go
of. An expired one is marked ABORTED and let go of. Every other job is active: its slices are
given to every instance that holds one of their replicas, and when one of them meets the job's
fatal failure the job is marked FAILED.

A store that does not answer is only a fault of the cycle when it does not name the jobs.
-/

namespace Restage

/-- A question that discovery asks the store. -/
inductive StoreCall where
  | recentJobs (days : UInt32)
  | recordsOf (job : TimeId)
  | updateStatus (job : TimeId) (status : JobStatus)
  deriving DecidableEq

/-- The text a question is logged as. -/
def StoreCall.render : StoreCall → String
  | recentJobs days => "find_recent_jobs " ++ toString days.toNat
  | recordsOf job => "find_slices " ++ job.render
  | updateStatus job status => "update_status " ++ job.render ++ " " ++ status.word

/-- Which questions the store does not answer. -/
structure Outage where
  jobs : Bool := false
  records : Bool := false
  update : Bool := false
  deriving DecidableEq, Repr, Inhabited

/-- The fault of a store that does not answer. -/
def Outage.fault : Fault := .invalidInput "job store unavailable"

/-- How a cycle ends. -/
inductive CycleEnd where
  | finished (report : CycleReport)
  | failed (fault : Fault)
  /-- The calendar has no name for the day from which on jobs are recent. -/
  | outOfCalendar

namespace Discovery

/-- How far a cycle has come. -/
structure Pass where
  store : Store
  group : Group
  report : CycleReport := {}
  calls : List StoreCall := []

namespace Pass

/-- Notes a question. -/
def ask (pass : Pass) (call : StoreCall) : Pass := { pass with calls := pass.calls ++ [call] }

/-- Marks a job in the store. A store that does not take it is not asked again. -/
def mark (outage : Outage) (pass : Pass) (job : TimeId) (status : JobStatus) : Pass :=
  let pass := pass.ask (.updateStatus job status)
  if outage.update then pass
  else { pass with store := (pass.store.updateStatus job status).toOption.getD pass.store }

/-- Lets go of a finished job. -/
def dropFinished (pass : Pass) (job : Job) : Pass :=
  let (group, count) := pass.group.removeJob job.id
  { pass with
    group := group
    report := { pass.report with
      removedJobs := pass.report.removedJobs + if 0 < count then 1 else 0 } }

/-- Aborts an expired job. -/
def abort (outage : Outage) (pass : Pass) (job : Job) : Pass :=
  let pass := pass.mark outage job.id .aborted
  { pass with
    group := (pass.group.removeJob job.id).1
    report := { pass.report with abortedJobs := pass.report.abortedJobs + 1 } }

end Pass

/-! ## Submitting -/

/-- The slice that a record stands for on an instance. -/
def pieceAt (home : Instance) (record : SliceRecord) : Except Fault Piece :=
  ((Recipe.ofRecord record).stagedAt home.stagingDir record.upload).build

/-- Gives a record's slice to those managers whose instances hold it, until one answers with a fatal
failure. The answer is how many slices are new. -/
def submitRecord (descriptor : Descriptor) (record : SliceRecord) (floor : Floor) :
    List Manager → Floor × List Manager × Except FatalFailure Nat
  | [] => (floor, [], .ok 0)
  | manager :: rest =>
      let next (floor : Floor) (manager : Manager) (fresh : Nat) :=
        let (floor, rest, answer) := submitRecord descriptor record floor rest
        (floor, manager :: rest, answer.map (fresh + ·))
      if manager.home.Holds record.replicas then
        match pieceAt manager.home record with
        | .error _ => next floor manager 0
        | .ok piece =>
            let (floor, slice) := floor.addSlice (Slice.ofPiece piece)
            match manager.submit floor slice descriptor with
            | (floor, manager, .ok .created) => next floor manager 1
            | (floor, manager, .error (.fatal failure)) => (floor, manager :: rest, .error failure)
            | (floor, manager, _) => next floor manager 0
      else next floor manager 0

/-- Gives the slices of some records to the managers, until one answers with a fatal failure. -/
def submitRecords (descriptor : Descriptor) (floor : Floor) (managers : List Manager) :
    List SliceRecord → Floor × List Manager × Except FatalFailure Nat
  | [] => (floor, managers, .ok 0)
  | record :: rest =>
      match submitRecord descriptor record floor managers with
      | (floor, managers, .error failure) => (floor, managers, .error failure)
      | (floor, managers, .ok fresh) =>
          let (floor, managers, answer) := submitRecords descriptor floor managers rest
          (floor, managers, answer.map (fresh + ·))

namespace Pass

/-- Marks an active job FAILED, in the store and for its slices. -/
def giveUp (outage : Outage) (pass : Pass) (job : Job) : Pass :=
  let pass := pass.mark outage job.id .failed
  let (floor, descriptor) := pass.group.floor.describe (job.withStatus .failed)
  { pass with
    group := { pass.group with floor := floor }.updateJob descriptor
    report := { pass.report with failedJobs := pass.report.failedJobs + 1 } }

/-- Submits the slices of an active job. -/
def submitAll (outage : Outage) (pass : Pass) (job : Job) (descriptor : Descriptor) : Pass :=
  match submitRecords descriptor pass.group.floor pass.group.managers
      (pass.store.recordsOf job.id) with
  | (floor, managers, .ok fresh) =>
      { pass with
        group := ⟨floor, managers⟩
        report := { pass.report with submittedSlices := pass.report.submittedSlices + fresh } }
  | (floor, managers, .error _) =>
      { pass with group := ⟨floor, managers⟩ }.giveUp outage job

/-- Works on an active job. -/
def workOn (outage : Outage) (pass : Pass) (job : Job) : Pass :=
  let (floor, descriptor) := pass.group.floor.describe job
  let pass := { pass with
    group := { pass.group with floor := floor }.updateJob descriptor
    report := { pass.report with activeJobs := pass.report.activeJobs + 1 } }
  let pass := pass.ask (.recordsOf job.id)
  if outage.records then
    { pass with
      report := { pass.report with lookupFailures := pass.report.lookupFailures + 1 } }
  else pass.submitAll outage job descriptor

/-- Comes to a job. -/
def visit (outage : Outage) (now : Instant) (pass : Pass) (job : Job) : Pass :=
  if job.IsTerminal then pass.dropFinished job
  else if job.IsExpired now then pass.abort outage job
  else pass.workOn outage job

end Pass

/-- Runs a cycle. -/
def cycle (settings : Settings) (now : Instant) (outage : Outage) (store : Store) (group : Group) :
    Pass × CycleEnd :=
  let pass : Pass := { store := store, group := group, calls := [.recentJobs settings.recencyDays] }
  if outage.jobs then (pass, .failed Outage.fault)
  else
    match store.recentJobs? now settings.recencyDays with
    | none => (pass, .outOfCalendar)
    | some jobs =>
        let pass := jobs.foldl (Pass.visit outage now) pass
        (pass, .finished pass.report)

end Discovery

end Restage
