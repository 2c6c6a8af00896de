import Restage.Discovery.Cycle
import Restage.Proofs.Job.Recency

/-!
# How far a cycle looks back

A cycle asks the store for the jobs of the recency window, and the store subtracts the window from
the clock. The check of settings bounds the window by the lifetime of the records alone, which may
be as long as a word of 64 bits allows, while the calendar ends some 264000 years before our era.
So the check keeps a cycle within the calendar for every lifetime up to that length
(`Discovery.cycle_within_calendar`), and for longer ones it may accept a window with which no cycle
is possible (`Discovery.cycle_beyond_calendar`).
-/

namespace Restage

variable {settings accepted : Settings} {now : Instant} {span : Span} {store : Store} {group : Group}
  {outage : Outage}

/-- A reading of the clock from the years 1970 to 9999. -/
def Instant.Ordinary (now : Instant) : Prop :=
  0 ≤ now.nanos ∧ now.nanos < 253402300800 * 1000000000

instance (now : Instant) : Decidable now.Ordinary := inferInstanceAs (Decidable (_ ∧ _))

/-- The calendar has no name for the day at which the recency window begins. -/
def Settings.Overlooks (settings : Settings) (now : Instant) : Prop :=
  now.nanos - settings.recency.nanos < Instant.calendarStart

instance (settings : Settings) (now : Instant) : Decidable (settings.Overlooks now) :=
  inferInstanceAs (Decidable (_ < _))

theorem Instant.Ordinary.minus?_eq_none_iff (ordinary : now.Ordinary) :
    now.minus? span = none ↔ now.nanos - span.nanos < Instant.calendarStart := by
  obtain ⟨-, before⟩ := ordinary
  rw [Instant.minus?, ite_eq_right_iff, Instant.InCalendar, Instant.calendarStart,
    Instant.calendarStop]
  simp only [reduceCtorEq, imp_false]
  omega

theorem Settings.nanos_recency (settings : Settings) :
    settings.recency.nanos = settings.recencyDays.toNat * 86400 * 1000000000 := by
  rw [settings.recency_eq, Span.ofDays, Span.ofSeconds]

/-- The store tells the recent jobs unless the window begins before the calendar. -/
theorem Store.recentJobs?_eq_none_iff (ordinary : now.Ordinary) :
    store.recentJobs? now settings.recencyDays = none ↔ settings.Overlooks now := by
  rw [Store.recentJobs?, Option.map_eq_none_iff, ← settings.recency_eq,
    ordinary.minus?_eq_none_iff, Settings.Overlooks]

namespace Discovery

theorem cycle_eq_outOfCalendar_iff :
    (cycle settings now outage store group).2 = .outOfCalendar ↔
      outage.jobs = false ∧ store.recentJobs? now settings.recencyDays = none := by
  rw [cycle]
  cases outage.jobs with
  | true => simp
  | false => cases store.recentJobs? now settings.recencyDays <;> simp

/-- With accepted settings a cycle whose store answers is cut short exactly when the window begins
before the calendar. That never happens when the lifetime of the records, or the window, is no longer
than the years that the calendar has before 1970, and it always does when the window is longer than
those that it has before the year 10000. -/
theorem cycle_within_calendar (accept : settings.check = .ok accepted) (ordinary : now.Ordinary) :
    (∀ store : Store, store.recentJobs? now settings.recencyDays = none ↔
      settings.Overlooks now) ∧
    (∀ outage store group, (cycle settings now outage store group).2 = .outOfCalendar ↔
      outage.jobs = false ∧ settings.Overlooks now) ∧
    (settings.ttlSeconds.toNat ≤ 8334601228801 → ¬ settings.Overlooks now) ∧
    (settings.recencyDays.toNat ≤ 96465292 → ¬ settings.Overlooks now) ∧
    (99398189 ≤ settings.recencyDays.toNat → settings.Overlooks now) := by
  have window := settings.nanos_recency
  have shorter := Settings.recency_lt_lifetime accept
  have records : settings.lifetime.nanos = settings.ttlSeconds.toNat * 1000000000 := rfl
  obtain ⟨start, stop⟩ := ordinary
  refine ⟨?store, ?cycle, ?lifetime, ?brief, ?long⟩
  case store =>
    intro store
    exact Store.recentJobs?_eq_none_iff ⟨start, stop⟩
  case cycle =>
    intro outage store group
    rw [cycle_eq_outOfCalendar_iff, Store.recentJobs?_eq_none_iff ⟨start, stop⟩]
  case lifetime =>
    intro bounded
    rw [Settings.Overlooks, Instant.calendarStart]
    omega
  case brief =>
    intro days
    rw [Settings.Overlooks, Instant.calendarStart]
    omega
  case long =>
    intro days
    rw [Settings.Overlooks, Instant.calendarStart]
    omega

end Discovery

/-- Settings with a window that begins a day before the calendar if it ends on 1 January 1970. -/
def Settings.farSighted : Settings := { recencyDays := 96465293, ttlSeconds := 8334601315201 }

/-- Settings with a window of some 274000 years. -/
def Settings.boundless : Settings := { recencyDays := 100000000, ttlSeconds := 10000000000000 }

namespace Discovery

/-- The same settings are accepted, allow no cycle on 1 January 1970 and allow one a day later. -/
theorem cycle_within_calendar_farSighted :
    Settings.farSighted.check = .ok .farSighted ∧
      (∀ store group, (cycle .farSighted ⟨0⟩ {} store group).2 = .outOfCalendar) ∧
      ∀ store group, (cycle .farSighted ⟨86400000000000⟩ {} store group).2 ≠ .outOfCalendar := by
  have accept : Settings.farSighted.check = .ok .farSighted := by decide
  obtain ⟨-, early, -⟩ := @cycle_within_calendar _ _ ⟨0⟩ accept (by decide)
  obtain ⟨-, later, -⟩ := @cycle_within_calendar _ _ ⟨86400000000000⟩ accept (by decide)
  refine ⟨accept, ?_, ?_⟩
  · intro store group
    exact (early {} store group).mpr ⟨rfl, by decide⟩
  · intro store group ended
    exact absurd ((later {} store group).mp ended).2 (by decide)

/-- Settings that are accepted, with which in January 2026 no store tells its recent jobs and every
cycle is cut short. -/
theorem cycle_beyond_calendar :
    Settings.boundless.check = .ok .boundless ∧
      (Instant.ofMillis 1767225600000).Ordinary ∧
      (Instant.ofMillis 1767225600000).minus? Settings.boundless.recency = none ∧
      ∀ store : Store, store.recentJobs? (.ofMillis 1767225600000) 100000000 = none ∧
        ∀ group, (cycle .boundless (.ofMillis 1767225600000) {} store group).2 =
          .outOfCalendar := by
  have ordinary : (Instant.ofMillis 1767225600000).Ordinary := by decide
  refine ⟨by decide, ordinary, by decide, ?_⟩
  intro store
  have nothing : store.recentJobs? (.ofMillis 1767225600000) 100000000 = none :=
    (@Store.recentJobs?_eq_none_iff .boundless _ store ordinary).mpr (by decide)
  refine ⟨nothing, ?_⟩
  intro group
  exact cycle_eq_outOfCalendar_iff.mpr ⟨rfl, nothing⟩

end Discovery

end Restage
