import Restage.Proofs.Disk.Children
import Restage.Proofs.Job.Recency

/-!
# Obsolete directories

`Disk.isObsolete_iff` says what is asked of a path, in whole milliseconds. Rounding decides nothing
there: a window of any length down to the nanosecond is outlived exactly when its whole milliseconds
are (`Span.nanos_lt_iff`), and the words in which ages are computed have room for every age
(`JobDir.computedExactly`). `Disk.obsolete_exactly` puts this together.
-/

namespace Restage

variable {disk : Disk} {path : Path} {id : TimeId} {name : String} {created : Int}
  {recency : Span} {now : Instant}

/-! ## Windows and instants -/

/-- A whole number of milliseconds is longer than a span when it is longer than the whole
milliseconds of the span. -/
theorem Span.nanos_lt_iff (span : Span) (age : Int) :
    (span.nanos : Int) < age * 1000000 ↔ (span.millis : Int) < age := by
  rw [Span.millis]
  omega

@[simp]
theorem Span.millis_ofMillis (millis : Nat) : (Span.ofMillis millis).millis = millis :=
  Nat.mul_div_cancel millis (by decide)

theorem Span.millis_mono {shorter longer : Span} (within : shorter.nanos ≤ longer.nanos) :
    shorter.millis ≤ longer.millis :=
  Nat.div_le_div_right within

theorem Instant.millis_mono {earlier later : Instant} (since : earlier.nanos ≤ later.nanos) :
    earlier.millis ≤ later.millis :=
  Int.ediv_le_ediv (by decide) since

/-- The instant in an identifier is its ticks in whole milliseconds, for which a signed word of 64
bits has room. -/
theorem TimeId.unixMillis?_bounds (born : id.unixMillis? = some created) :
    created = (id.unixTicks / 10000 : Nat) ∧ created < 2 ^ 63 := by
  have timed : id.IsTimeBased := by
    rw [TimeId.unixMillis?] at born
    exact (Option.ite_none_right_eq_some.mp born).1
  have ticks := id.unixTicks_lt
  rw [TimeId.unixMillis?_eq timed] at born
  have same := Option.some.inj born
  omega

/-! ## Ages in words -/

namespace JobDir

/-- The age of a directory in whole milliseconds, in a signed word of 128 bits. -/
def ageWord (now : Instant) (created : Int) : BitVec 128 :=
  BitVec.ofInt 128 now.millis - BitVec.ofInt 128 created

/-- The whole milliseconds of a window, in such a word. -/
def windowWord (recency : Span) : BitVec 128 := BitVec.ofInt 128 recency.millis

/-- Nothing is lost to the words in which an age is compared with a window. -/
structure ComputedExactly (recency : Span) (now : Instant) (created : Int) : Prop where
  instant : (BitVec.ofInt 64 created).toInt = created
  window : (windowWord recency).toInt = recency.millis
  difference : ¬ (BitVec.ofInt 128 now.millis).ssubOverflow (BitVec.ofInt 128 created)
  age : (ageWord now created).toInt = now.millis - created

/-- The age that an identifier gives at a 64-bit reading of the clock does not overflow, nor does a
window that has 64 bits of seconds. -/
theorem computedExactly (lasts : recency.seconds < 2 ^ 64)
    (reads : -2 ^ 63 ≤ now.millis ∧ now.millis < 2 ^ 63)
    (born : id.unixMillis? = some created) : ComputedExactly recency now created := by
  obtain ⟨ticks, small⟩ := TimeId.unixMillis?_bounds born
  have start : 0 ≤ created := ticks ▸ Int.natCast_nonneg _
  have brief : recency.millis < 2 ^ 127 := by
    rw [Span.seconds] at lasts
    rw [Span.millis]
    omega
  have reading : (BitVec.ofInt 128 now.millis).toInt = now.millis := by
    apply BitVec.toInt_ofInt_eq_self <;> omega
  have birth : (BitVec.ofInt 128 created).toInt = created := by
    apply BitVec.toInt_ofInt_eq_self <;> omega
  have difference : ¬ (BitVec.ofInt 128 now.millis).ssubOverflow (BitVec.ofInt 128 created) := by
    rw [BitVec.ssubOverflow, reading, birth, Bool.or_eq_true, decide_eq_true_iff,
      decide_eq_true_iff]
    omega
  constructor
  case instant => apply BitVec.toInt_ofInt_eq_self <;> omega
  case window => apply BitVec.toInt_ofInt_eq_self <;> omega
  case difference => exact difference
  case age => rw [ageWord, BitVec.toInt_sub_of_not_ssubOverflow difference, reading, birth]

theorem isOutdated_iff_exists : IsOutdated name recency now ↔
    ∃ id created, id? name = some id ∧ id.unixMillis? = some created ∧
      (recency.millis : Int) < now.millis - created := by
  cases born : (id? name).bind TimeId.unixMillis? with
  | none =>
      rw [IsOutdated, born]
      refine iff_of_false not_false ?_
      rintro ⟨id, created, read, millis, -⟩
      rw [read, Option.bind_some, millis] at born
      cases born
  | some created =>
      rw [isOutdated_iff born]
      obtain ⟨id, read, millis⟩ := Option.bind_eq_some_iff.mp born
      constructor
      · intro old
        exact ⟨id, created, read, millis, old⟩
      · rintro ⟨other, millis', read', born', old⟩
        rw [read', Option.bind_some, born'] at born
        rwa [← Option.some.inj born]

end JobDir

/-! ## Paths -/

/-- A path is obsolete when it leads to a folder, its last name is that of a job's directory, and
the job is older than the window. -/
theorem Disk.isObsolete_iff : disk.IsObsolete path recency now ↔
    disk.entryAt? path = some .folder ∧ ∃ name id created, path.fileName? = some name ∧
      JobDir.id? name = some id ∧ id.unixMillis? = some created ∧
      (recency.millis : Int) < now.millis - created := by
  rw [Disk.IsObsolete]
  split
  · next entry last there named =>
      have folder : entry.IsFolder ↔ entry = .folder := by
        cases entry <;> simp [Entry.IsFolder]
      rw [JobDir.isOutdated_iff_exists, there, named, folder]
      simp only [Option.some.injEq, exists_and_left, exists_eq_left']
  · next missing =>
      refine iff_of_false not_false ?_
      rintro ⟨there, name, -, -, named, -⟩
      exact missing _ _ there named

/-- An obsolete directory stays so as time goes by, and is so for every shorter window. -/
theorem Disk.IsObsolete.mono {shorter : Span} {later : Instant}
    (obsolete : disk.IsObsolete path recency now) (within : shorter.nanos ≤ recency.nanos)
    (since : now.nanos ≤ later.nanos) : disk.IsObsolete path shorter later := by
  rw [Disk.isObsolete_iff] at obsolete ⊢
  obtain ⟨folder, name, id, created, named, read, born, old⟩ := obsolete
  have window := Span.millis_mono within
  have reading := Instant.millis_mono since
  exact ⟨folder, name, id, created, named, read, born, by omega⟩

/-- Whether a path is an obsolete directory is an exact test of its age, and the test never
overflows. The age is compared with the whole window, though it is computed in milliseconds. -/
theorem Disk.obsolete_exactly (disk : Disk) (path : Path) (lasts : recency.seconds < 2 ^ 64)
    (reads : -2 ^ 63 ≤ now.millis ∧ now.millis < 2 ^ 63) :
    (∀ id created, TimeId.unixMillis? id = some created →
      JobDir.ComputedExactly recency now created) ∧
    (disk.IsObsolete path recency now ↔ disk.entryAt? path = some .folder ∧
      ∃ name id created, path.fileName? = some name ∧ JobDir.id? name = some id ∧
        id.unixMillis? = some created ∧
        (recency.nanos : Int) < (now.millis - created) * 1000000) ∧
    (disk.IsObsolete path recency now → ∀ (shorter : Span) (later : Instant),
      shorter.nanos ≤ recency.nanos → now.nanos ≤ later.nanos →
        disk.IsObsolete path shorter later) ∧
    (∀ name id, path.fileName? = some name → JobDir.id? name = some id →
      now.nanos ≤ id.unixTicks * 100 → ¬ disk.IsObsolete path recency now) ∧
    (disk.IsObsolete path (.ofMillis recency.millis) now ↔
      disk.IsObsolete path recency now) := by
  refine ⟨?words, ?exact, ?mono, ?young, ?cut⟩
  case words =>
    intro id created born
    exact JobDir.computedExactly lasts reads born
  case exact =>
    rw [Disk.isObsolete_iff]
    simp only [Span.nanos_lt_iff]
  case mono =>
    intro obsolete shorter later within since
    exact obsolete.mono within since
  case young =>
    intro name id named read early obsolete
    obtain ⟨-, name', id', created, named', read', born, old⟩ := Disk.isObsolete_iff.mp obsolete
    obtain rfl := Option.some.inj (named.symm.trans named')
    obtain rfl := Option.some.inj (read.symm.trans read')
    have ticks := (TimeId.unixMillis?_bounds born).1
    rw [Instant.millis] at old
    omega
  case cut => rw [Disk.isObsolete_iff, Disk.isObsolete_iff, Span.millis_ofMillis]

/-- A window of half a millisecond is outlived a millisecond after the directory was made, and for
good. When the directory is made no window is. -/
theorem Disk.obsolete_exactly_aging :
    (⟨500000⟩ : Span).seconds < 2 ^ 64 ∧
      ¬ Disk.aging.IsObsolete .aging ⟨0⟩ ⟨3000000⟩ ∧
      Disk.aging.IsObsolete .aging ⟨500000⟩ ⟨4000000⟩ ∧
      ∀ later : Instant, 4000000 ≤ later.nanos → Disk.aging.IsObsolete .aging ⟨0⟩ later := by
  have stands := JobDir.stands_aging
  have born : (TimeId.ofMillis 3).unixMillis? = some 3 := by decide
  have read : JobDir.id? (JobDir.name (TimeId.ofMillis 3)) = some (.ofMillis 3) :=
    JobDir.id?_name (by decide)
  have lasts : (⟨500000⟩ : Span).seconds < 2 ^ 64 := by decide
  obtain ⟨-, exact, mono, -⟩ :=
    @Disk.obsolete_exactly ⟨500000⟩ ⟨4000000⟩ .aging .aging lasts (by decide)
  obtain ⟨-, -, -, young, -⟩ :=
    @Disk.obsolete_exactly ⟨0⟩ ⟨3000000⟩ .aging .aging (by decide) (by decide)
  have obsolete : Disk.aging.IsObsolete .aging ⟨500000⟩ ⟨4000000⟩ :=
    exact.mpr ⟨stands.folder, _, _, 3, stands.named, read, born, by decide⟩
  refine ⟨lasts, young _ _ stands.named read (by decide), obsolete, ?_⟩
  intro later since
  exact mono obsolete ⟨0⟩ later (by decide) since

end Restage
