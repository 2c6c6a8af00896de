import Restage.Config.Settings

/-!
# Reports and the pace of discovery

A cycle of discovery ends in a `CycleReport`, a count of what it met and did. The report decides
the pace: while any job still needs attention the next cycle comes soon, otherwise late.
-/

namespace Restage

/-- What a cycle met and did. -/
structure CycleReport where
  activeJobs : Nat := 0
  removedJobs : Nat := 0
  abortedJobs : Nat := 0
  failedJobs : Nat := 0
  submittedSlices : Nat := 0
  lookupFailures : Nat := 0
  deriving DecidableEq, Repr, Inhabited

namespace CycleReport

/-- Whether any job still needs attention. Jobs that are let go of need none. -/
def FoundWork (report : CycleReport) : Prop := 0 < report.activeJobs

instance (report : CycleReport) : Decidable report.FoundWork := inferInstanceAs (Decidable (_ < _))

end CycleReport

/-- How soon the next cycle comes. -/
inductive Pace where
  | active
  | idle
  deriving DecidableEq, Repr, Inhabited

namespace Pace

/-- The pace after a cycle that ended in a report. -/
def after (report : CycleReport) : Pace := if report.FoundWork then active else idle

/-- The wait before the next cycle. -/
def delay (settings : Settings) : Pace → Span
  | active => settings.activeDelay
  | idle => settings.idleDelay

/-- The name a pace is reported as. -/
def title : Pace → String
  | active => "Active"
  | idle => "Idle"

end Pace

end Restage
