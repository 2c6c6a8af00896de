import Restage.Proofs.Job.Names

/-!
# The instant in an identifier

The ticks of a version 1 identifier are its three fields put together again (`TimeId.ticks_ofTicks`),
so an identifier that is made of a millisecond embeds that millisecond for as long as the ticks fit
their sixty bits. It embeds the first tick of the millisecond (`TimeId.ofMillis_least`).

Ticks before the Unix epoch wrap around to milliseconds that no identifier is made of
(`TimeId.unixTicks_cases`), so they do not come into it.
-/

namespace Restage

namespace TimeId

variable {id : TimeId} {millis : Int} {low middle high rest : Nat}

/-! ## Fields -/

/-- The number with the fields of version 1 in their places. -/
def layout (low middle high rest : Nat) : Nat :=
  low * 0x1000000000000000000000000 + middle * 0x100000000000000000000 + 0x10000000000000000000
    + high * 0x10000000000000000 + rest

/-- Fields that fit their places leave each other alone. -/
theorem layout_fields (middles : middle < 0x10000) (highs : high < 0x1000)
    (rests : rest < 0x10000000000000000) :
    layout low middle high rest / 0x1000000000000000000000000 = low ∧
      layout low middle high rest / 0x100000000000000000000 % 0x10000 = middle ∧
      layout low middle high rest / 0x10000000000000000000 % 16 = 1 ∧
      layout low middle high rest / 0x10000000000000000 % 0x1000 = high := by
  unfold layout
  omega

theorem toNat_ofTicks (count clockSequence node : Nat) :
    ∃ rest < 0x10000000000000000, (ofTicks count clockSequence node).toNat =
      layout (count % 0x100000000) (count / 0x100000000 % 0x10000)
        (count / 0x1000000000000 % 0x1000) rest := by
  refine ⟨0x8000000000000000 + clockSequence % 0x4000 * 0x1000000000000 + node % 0x1000000000000,
    by omega, ?_⟩
  rw [ofTicks, ofNat, layout]
  simp only
  rw [Nat.mod_eq_of_lt (by omega)]
  omega

/-- What is stored of a tick count, and where. -/
theorem fields_ofTicks (count clockSequence node : Nat) :
    (ofTicks count clockSequence node).toNat / 0x1000000000000000000000000 =
        count % 0x100000000 ∧
      (ofTicks count clockSequence node).toNat / 0x100000000000000000000 % 0x10000 =
        count / 0x100000000 % 0x10000 ∧
      (ofTicks count clockSequence node).toNat / 0x10000000000000000000 % 16 = 1 ∧
      (ofTicks count clockSequence node).toNat / 0x10000000000000000 % 0x1000 =
        count / 0x1000000000000 % 0x1000 := by
  obtain ⟨rest, small, number⟩ := toNat_ofTicks count clockSequence node
  rw [number]
  exact layout_fields (Nat.mod_lt (count / 0x100000000) (by decide))
    (Nat.mod_lt (count / 0x1000000000000) (by decide)) small

theorem isTimeBased_ofTicks (count clockSequence node : Nat) :
    (ofTicks count clockSequence node).IsTimeBased :=
  (fields_ofTicks count clockSequence node).2.2.1

/-- The low sixty bits of a tick count are stored. -/
theorem ticks_ofTicks (count clockSequence node : Nat) :
    (ofTicks count clockSequence node).ticks = count % 0x1000000000000000 := by
  obtain ⟨low, middle, -, high⟩ := fields_ofTicks count clockSequence node
  rw [ticks, low, middle, high]
  have upper : count / 0x1000000000000 = count / 0x100000000 / 0x10000 := by omega
  have all : count / 0x1000000000000000 = count / 0x1000000000000 / 0x1000 := by omega
  clear low middle high
  omega

theorem ticks_lt (id : TimeId) : id.ticks < 0x1000000000000000 := by
  have small := id.isLt
  unfold ticks
  omega

theorem unixTicks_lt (id : TimeId) : id.unixTicks < 0x10000000000000000 :=
  Nat.mod_lt _ (by decide)

/-! ## Milliseconds -/

/-- The embedded instant is the ticks in whole milliseconds; the words it is computed in never
overflow. -/
theorem unixMillis?_eq (timed : id.IsTimeBased) :
    id.unixMillis? = some ((id.unixTicks / 10000 : Nat) : Int) := by
  have bound := id.unixTicks_lt
  have whole : id.unixTicks / 10000000 * 1000 + id.unixTicks % 10000000 * 100 / 1000000 =
      id.unixTicks / 10000 := by
    omega
  rw [unixMillis?, if_pos timed]
  simp only [whole]
  exact if_pos ⟨by omega, by omega⟩

/-- Every time-based identifier embeds an instant that the calendar names, also where the ticks have
wrapped around. -/
theorem born (timed : id.IsTimeBased) :
    ∃ millis, id.unixMillis? = some millis ∧ id.createdAt? = some (.ofMillis millis) := by
  have millis := unixMillis?_eq timed
  refine ⟨_, millis, ?_⟩
  rw [createdAt?, millis, Option.bind_some, Instant.ofMillis?]
  refine if_pos ?_
  have bound := id.unixTicks_lt
  simp only [Instant.InCalendar, Instant.ofMillis, Instant.calendarStart, Instant.calendarStop]
  omega

/-- Ticks before the Unix epoch count as ones far behind every instant that fits the field. -/
theorem unixTicks_cases (id : TimeId) :
    epochTicks ≤ id.ticks ∧ id.unixTicks + epochTicks = id.ticks ∨
      id.ticks < epochTicks ∧ 0x1000000000000000 ≤ id.unixTicks := by
  have small := id.ticks_lt
  simp only [unixTicks, epochTicks]
  omega

/-- The millisecond of the last tick that fits the field. -/
def lastMillis : Int := 103072857660684

theorem ticks_ofMillis (start : 0 ≤ millis) (stop : millis ≤ lastMillis) :
    ((ofMillis millis).ticks : Int) = epochTicks + millis * 10000 := by
  rw [ofMillis, ticks_ofTicks, ticksOfMillis]
  simp only [epochTicks, lastMillis] at *
  omega

theorem isTimeBased_ofMillis (millis : Int) : (ofMillis millis).IsTimeBased :=
  isTimeBased_ofTicks _ _ _

theorem unixMillis?_ofMillis (start : 0 ≤ millis) (stop : millis ≤ lastMillis) :
    (ofMillis millis).unixMillis? = some millis := by
  have count := ticks_ofMillis start stop
  rw [unixMillis?_eq (isTimeBased_ofMillis millis), Option.some_inj]
  rcases (ofMillis millis).unixTicks_cases with ⟨-, since⟩ | ⟨before, -⟩ <;> omega

/-- An identifier that embeds a millisecond has no fewer ticks than the one that is made of it. -/
theorem ofMillis_least (stop : millis ≤ lastMillis) (timed : id.IsTimeBased)
    (born : id.unixMillis? = some millis) : (ofMillis millis).ticks ≤ id.ticks := by
  rw [unixMillis?_eq timed, Option.some_inj] at born
  have count := ticks_ofMillis (by omega) stop
  rcases id.unixTicks_cases with ⟨-, since⟩ | ⟨-, wrapped⟩
  · omega
  · rw [lastMillis] at stop
    omega

/-- Instants before the epoch are taken for the epoch. -/
theorem ofMillis_of_neg (before : millis < 0) : ofMillis millis = ofMillis 0 := by
  have epoch : millis.toNat = 0 := by omega
  rw [ofMillis, ofMillis, ticksOfMillis, ticksOfMillis, epoch]
  rfl

/-- From the epoch to the last millisecond whose ticks fit the field, an identifier that is made of
a millisecond embeds it, survives in the name of a directory, and has the fewest ticks of all
identifiers that embed the same. So later milliseconds have more ticks, and no two of them have the
same identifier. -/
theorem millis_carried (start : 0 ≤ millis) (stop : millis ≤ lastMillis) :
    (ofMillis millis).unixMillis? = some millis ∧ (ofMillis millis).version = 1 ∧
      JobDir.id? (JobDir.name (ofMillis millis)) = some (ofMillis millis) ∧
      (∀ id : TimeId, id.version = 1 → id.unixMillis? = some millis →
        (ofMillis millis).ticks ≤ id.ticks) ∧
      (∀ earlier, 0 ≤ earlier → earlier < millis →
        (ofMillis earlier).ticks < (ofMillis millis).ticks) ∧
      (∀ other, 0 ≤ other → other ≤ lastMillis → ofMillis other = ofMillis millis →
        other = millis) ∧
      (∀ before < 0, ofMillis before = ofMillis 0) ∧
      epochTicks + lastMillis * 10000 < 2 ^ 60 ∧
      2 ^ 60 ≤ epochTicks + (lastMillis + 1) * 10000 := by
  have timed := isTimeBased_ofMillis millis
  refine ⟨unixMillis?_ofMillis start stop, timed, JobDir.id?_name timed, ?least, ?grow, ?differ,
    fun before => ofMillis_of_neg, by decide, by decide⟩
  case least => exact fun id => ofMillis_least stop
  case grow =>
    intro earlier since later
    have lower := ticks_ofMillis since (by omega)
    have upper := ticks_ofMillis start stop
    omega
  case differ =>
    intro other since fits same
    have born := unixMillis?_ofMillis since fits
    rw [same, unixMillis?_ofMillis start stop] at born
    exact (Option.some.inj born).symm

/-- A name of November 2023 is read back, and no identifier of that millisecond has fewer ticks. -/
theorem millis_carried_november :
    JobDir.name (ofMillis 1700000000123) = "restore-04c284b0-833b-11ee-8000-000000000000" ∧
      JobDir.id? "restore-04c284b0-833b-11ee-8000-000000000000" =
        some (ofMillis 1700000000123) ∧
      (ofMillis 1700000000123).unixMillis? = some 1700000000123 ∧
      ∀ id : TimeId, id.version = 1 → id.unixMillis? = some 1700000000123 →
        139192928001230000 ≤ id.ticks := by
  obtain ⟨born, -, read, least, -⟩ := @millis_carried 1700000000123 (by decide) (by decide)
  have named : JobDir.name (ofMillis 1700000000123) =
      "restore-04c284b0-833b-11ee-8000-000000000000" := by
    decide
  have count : (ofMillis 1700000000123).ticks = 139192928001230000 := by decide
  rw [named] at read
  rw [count] at least
  exact ⟨named, read, born, least⟩

/-- One millisecond later the ticks wrap around. -/
example : (ofMillis (lastMillis + 1)).unixMillis? = some 1832455114570955 := by decide

end TimeId

end Restage
