import Restage.Clock
import Restage.Fault

/-!
# Settings of the restore jobs

Seven numbers, each with a default. `Settings.check` is the gate they pass: a job's directory must
not become old enough to be deleted while the job's record is alive, so the recency window has to
be shorter than the lifetime of the records, and the lifetime at least fourteen days.
-/

namespace Restage

/-- What a configuration may say about restore jobs, and the defaults of what it does not say. -/
structure Settings where
  activeMillis : UInt64 := 300000
  idleMillis : UInt64 := 600000
  recencyDays : UInt32 := 5
  concurrency : UInt64 := 20
  ttlSeconds : UInt64 := 7776000
  slowThresholdSeconds : UInt64 := 600
  slowReportSeconds : UInt64 := 60
  deriving DecidableEq, Repr, Inhabited

/-- Values that replace defaults where they are present. -/
structure Overrides where
  activeMillis : Option UInt64 := none
  idleMillis : Option UInt64 := none
  recencyDays : Option UInt32 := none
  concurrency : Option UInt64 := none
  ttlSeconds : Option UInt64 := none
  slowThresholdSeconds : Option UInt64 := none
  slowReportSeconds : Option UInt64 := none
  deriving DecidableEq, Repr, Inhabited

namespace Settings

/-- Settings with the values that are present put over their own. -/
def override (settings : Settings) (values : Overrides) : Settings where
  activeMillis := values.activeMillis.getD settings.activeMillis
  idleMillis := values.idleMillis.getD settings.idleMillis
  recencyDays := values.recencyDays.getD settings.recencyDays
  concurrency := values.concurrency.getD settings.concurrency
  ttlSeconds := values.ttlSeconds.getD settings.ttlSeconds
  slowThresholdSeconds := values.slowThresholdSeconds.getD settings.slowThresholdSeconds
  slowReportSeconds := values.slowReportSeconds.getD settings.slowReportSeconds

/-- The least lifetime of job records: fourteen days. -/
def leastTtlSeconds : UInt64 := 1209600

/-- The most slices that may be processed at once. -/
def mostConcurrency : UInt64 := 2305843009213693951

/-- The recency window in seconds. A 32-bit count of days keeps it below 2^64. -/
def recencySeconds (settings : Settings) : UInt64 := settings.recencyDays.toUInt64 * 86400

theorem toNat_recencySeconds (settings : Settings) :
    settings.recencySeconds.toNat = settings.recencyDays.toNat * 86400 := by
  have small := settings.recencyDays.toNat_lt
  have days : (86400 : UInt64).toNat = 86400 := rfl
  rw [recencySeconds, UInt64.toNat_mul, UInt32.toNat_toUInt64, days]
  exact Nat.mod_eq_of_lt (by omega)

/-- The age up to which a job's directory is kept. -/
def recency (settings : Settings) : Span := Span.ofSeconds settings.recencySeconds.toNat

/-- How long to wait after a cycle that found work. -/
def activeDelay (settings : Settings) : Span := Span.ofMillis settings.activeMillis.toNat

/-- How long to wait after a cycle that found none. -/
def idleDelay (settings : Settings) : Span := Span.ofMillis settings.idleMillis.toNat

/-- Refuses settings that break a rule: the lifetime first, then the window, then the bound on
concurrency. -/
def check (settings : Settings) : Except Fault Settings :=
  if settings.ttlSeconds < leastTtlSeconds then
    .error (.config ("restore_job_tables_ttl_seconds cannot be less than "
      ++ toString leastTtlSeconds.toNat))
  else if settings.ttlSeconds ≤ settings.recencySeconds then
    .error (.config ("job_discovery_minimum_recency_days (in seconds) must be less than "
      ++ "restore_job_tables_ttl_seconds (" ++ toString settings.ttlSeconds.toNat ++ ")"))
  else if settings.concurrency = 0 ∨ mostConcurrency < settings.concurrency then
    .error (.config ("slice_process_max_concurrency must be between 1 and "
      ++ toString mostConcurrency.toNat ++ ", got " ++ toString settings.concurrency.toNat))
  else .ok settings

end Settings

end Restage
