import Restage.TimeId.Spelling
import Mathlib.Algebra.Order.Ring.Nat
import Mathlib.Data.List.Induction

/-!
# Spellings are read exactly

`TimeId.SpelledBy` says what the spellings of an identifier are: its 32 digits, bare or in groups of
8-4-4-4-12, and the groups in braces or behind the marker, every letter in either case.
`TimeId.ofChars?_eq_some_iff` says that these texts are read as the identifier, and no others.

The four forms have different lengths, so a text can only be read in one of them. Digits are read
from the left and written from the right, so `Text.Hex.read?_eq_some_iff` goes by induction on the
last one.
-/

namespace Restage

/-! ## Digits -/

namespace Text.Hex

variable {c : Char} {value number : Nat} {row : List Char}

theorem digit_ne_slash : ∀ value < 16, digit value ≠ '/' := by decide

theorem toNat_digit_lt : ∀ value < 16, (digit value).toNat < 103 := by decide

theorem digit_mod (number : Nat) : digit (number % 16) = digit number := by
  rw [digit, digit, Nat.mod_mod]

theorem toLower_digit : ∀ value < 16, (digit value).toLower = digit value := by decide

theorem map_toLower_digits (width number : Nat) :
    (digits width number).map Char.toLower = digits width number := by
  induction width generalizing number with
  | zero => rfl
  | succ width ih =>
      have last := toLower_digit (number % 16) (Nat.mod_lt _ (by decide))
      rw [digit_mod] at last
      rw [digits, List.map_append, ih, List.map_singleton, last]

theorem slash_notMem_digits (width number : Nat) : '/' ∉ digits width number := by
  induction width generalizing number with
  | zero => exact List.not_mem_nil
  | succ width ih =>
      have last := digit_ne_slash (number % 16) (Nat.mod_lt _ (by decide))
      rw [digit_mod] at last
      rw [digits, List.mem_append, List.mem_singleton, not_or]
      exact ⟨ih _, Ne.symm last⟩

/-- The lowest digits stand at the end. -/
theorem digits_add (upper lower number : Nat) :
    digits (upper + lower) number = digits upper (number / 16 ^ lower) ++ digits lower number := by
  induction lower generalizing number with
  | zero => rw [Nat.add_zero, Nat.pow_zero, Nat.div_one, digits, List.append_nil]
  | succ lower ih =>
      rw [← Nat.add_assoc, digits, digits, ih, Nat.div_div_eq_div_mul, ← Nat.pow_succ',
        List.append_assoc]

/-- Among the characters that come before `g`, those with the value of a digit are the digit and
its capital. -/
theorem value?_ofNat : ∀ code < 103, ∀ value < 16,
    value? (Char.ofNat code) = some value ↔ (Char.ofNat code).toLower = digit value := by decide

theorem bounds_of_value? (read : value? c = some value) : c.toNat < 103 ∧ value < 16 := by
  simp only [value?] at read
  split at read
  · cases read
    omega
  · split at read
    · cases read
      omega
    · split at read
      · cases read
        omega
      · cases read

theorem toNat_lt_of_toLower (small : value < 16) (folded : c.toLower = digit value) :
    c.toNat < 103 := by
  by_cases upper : c.val ≥ 'A'.val ∧ c.val ≤ 'Z'.val
  · have last : c.toNat ≤ 90 := upper.2
    omega
  · have same : c.toLower = c := dif_neg upper
    rw [← same, folded]
    exact toNat_digit_lt value small

/-- A value is read off the digit that it is written as, and off its capital. -/
theorem value?_eq_some_iff : value? c = some value ↔ value < 16 ∧ c.toLower = digit value := by
  have char : c = Char.ofNat c.toNat := (Char.ofNat_toNat c).symm
  constructor
  · intro read
    obtain ⟨code, small⟩ := bounds_of_value? read
    have exact' := value?_ofNat c.toNat code value small
    rw [← char] at exact'
    exact ⟨small, exact'.mp read⟩
  · rintro ⟨small, folded⟩
    have exact' := value?_ofNat c.toNat (toNat_lt_of_toLower small folded) value small
    rw [← char] at exact'
    exact exact'.mpr folded

theorem go_append (high : Nat) (left right : List Char) :
    read?.go high (left ++ right) = (read?.go high left).bind fun number =>
      read?.go number right := by
  induction left generalizing high with
  | nil => rfl
  | cons c rest ih =>
      rw [List.cons_append, read?.go, read?.go]
      cases value? c with
      | none => rfl
      | some low => exact ih _

theorem read?_concat_eq_some_iff : read? (row ++ [c]) = some number ↔
    ∃ high low, read? row = some high ∧ value? c = some low ∧ high * 16 + low = number := by
  unfold read?
  rw [go_append, Option.bind_eq_some_iff]
  refine exists_congr fun high => ?_
  rw [read?.go]
  cases value? c with
  | none => simp
  | some low => simp [read?.go]

/-- A number is read off its digits, in either case, and off nothing else. -/
theorem read?_eq_some_iff : read? row = some number ↔
    number < 16 ^ row.length ∧ row.map Char.toLower = digits row.length number := by
  induction row using List.reverseRecOn generalizing number with
  | nil =>
      rw [List.length_nil, Nat.pow_zero, Nat.lt_one_iff, List.map_nil, digits, and_iff_left rfl]
      exact ⟨fun read => (Option.some.inj read).symm, fun zero => congrArg some zero.symm⟩
  | append_singleton row c ih =>
      rw [read?_concat_eq_some_iff, List.length_append, List.length_singleton, List.map_append,
        List.map_singleton, digits, List.append_singleton_inj, Nat.pow_succ]
      constructor
      · rintro ⟨high, low, upper, last, rfl⟩
        obtain ⟨small, folded⟩ := value?_eq_some_iff.mp last
        obtain ⟨bound, same⟩ := ih.mp upper
        have highest : (high * 16 + low) / 16 = high := by omega
        have lowest : (high * 16 + low) % 16 = low := by omega
        refine ⟨by omega, ?_, ?_⟩
        · rw [highest, same]
        · rw [← digit_mod, lowest, folded]
      · rintro ⟨bound, same, folded⟩
        refine ⟨number / 16, number % 16, ih.mpr ⟨by omega, same⟩, ?_, by omega⟩
        rw [value?_eq_some_iff, digit_mod]
        exact ⟨by omega, folded⟩

end Text.Hex

/-! ## Rows and groups -/

namespace TimeId

variable {id : TimeId} {row text : List Char}

/-- The digits of an identifier, each in either case. -/
def SpelledOut (id : TimeId) (row : List Char) : Prop := row.map Char.toLower = id.hexDigits

/-- A row in groups of 8-4-4-4-12. -/
inductive Grouped : List Char → List Char → Prop
  | intro {first second third fourth fifth : List Char} (eight : first.length = 8)
    (four : second.length = 4) (four' : third.length = 4) (four'' : fourth.length = 4)
    (twelve : fifth.length = 12) :
    Grouped (first ++ second ++ third ++ fourth ++ fifth)
      (first ++ '-' :: second ++ '-' :: third ++ '-' :: fourth ++ '-' :: fifth)

/-- What groups may stand in: nothing, braces, or what follows the marker. -/
inductive Wrapped (part : List Char) : List Char → Prop
  | alone : Wrapped part part
  | braced : Wrapped part ('{' :: part ++ ['}'])
  | marked {marker : List Char} (urn : marker.map Char.toLower = "urn:uuid:".toList) :
    Wrapped part (marker ++ part)

/-- The spellings of an identifier. -/
inductive SpelledBy (id : TimeId) : List Char → Prop
  | bare {row : List Char} (digits : id.SpelledOut row) : SpelledBy id row
  | grouped {row part text : List Char} (digits : id.SpelledOut row) (groups : Grouped row part)
    (wrapped : Wrapped part text) : SpelledBy id text

theorem SpelledOut.length (digits : id.SpelledOut row) : row.length = 32 := by
  have long := congrArg List.length digits
  rwa [List.length_map, hexDigits, Text.Hex.length_digits] at long

theorem ofHexDigits?_eq_some_iff : ofHexDigits? row = some id ↔ id.SpelledOut row := by
  have small : id.toNat < 16 ^ 32 := id.isLt
  have number : ∀ value, ofNat? value = some id ↔ value = id.toNat := by
    intro value
    rw [ofNat?]
    constructor
    · intro made
      split at made
      · rw [← Option.some.inj made]
      · cases made
    · rintro rfl
      rw [dif_pos id.isLt]
  unfold ofHexDigits?
  constructor
  · intro read
    split at read
    · next full =>
        obtain ⟨value, digits, made⟩ := Option.bind_eq_some_iff.mp read
        obtain rfl := (number value).mp made
        rw [Text.Hex.read?_eq_some_iff, full] at digits
        exact digits.2
    · cases read
  · intro digits
    have full := digits.length
    rw [if_pos full, Option.bind_eq_some_iff]
    refine ⟨id.toNat, ?_, (number _).mpr rfl⟩
    rw [Text.Hex.read?_eq_some_iff, full]
    exact ⟨small, digits⟩

theorem spelledOut_hexDigits (id : TimeId) : id.SpelledOut id.hexDigits :=
  Text.Hex.map_toLower_digits _ _

theorem length_hyphenate (full : row.length = 32) : (hyphenate row).length = 36 := by
  simp [hyphenate, full]

theorem mem_of_mem_hyphenate {c : Char} (inside : c ∈ hyphenate row) : c = '-' ∨ c ∈ row := by
  simp only [hyphenate, List.mem_append, List.mem_cons] at inside
  have kept : ∀ start count, c ∈ (row.drop start).take count → c ∈ row := fun _ _ taken =>
    List.mem_of_mem_drop (List.mem_of_mem_take taken)
  rcases inside with (((first | rfl | second) | rfl | third) | rfl | fourth) | rfl | last
  · exact .inr (List.mem_of_mem_take first)
  · exact .inl rfl
  · exact .inr (kept 8 4 second)
  · exact .inl rfl
  · exact .inr (kept 12 4 third)
  · exact .inl rfl
  · exact .inr (kept 16 4 fourth)
  · exact .inl rfl
  · exact .inr (List.mem_of_mem_drop last)

theorem take_append_drop_add (row : List Char) (start count : Nat) :
    (row.drop start).take count ++ row.drop (start + count) = row.drop start := by
  rw [← List.drop_drop, List.take_append_drop]

/-- A full row is in groups where it is hyphenated. -/
theorem grouped_iff : Grouped row text ↔ row.length = 32 ∧ hyphenate row = text := by
  constructor
  · rintro ⟨eight, four, four', four'', twelve⟩
    refine ⟨by simp [eight, four, four', four'', twelve], ?_⟩
    simp [hyphenate, List.drop_append, List.drop_eq_nil_of_le, eight, four, four', four'']
  · rintro ⟨full, rfl⟩
    have groups := @Grouped.intro (row.take 8) ((row.drop 8).take 4) ((row.drop 12).take 4)
      ((row.drop 16).take 4) (row.drop 20) (by simp [full]) (by simp [full]) (by simp [full])
      (by simp [full]) (by simp [full])
    rw [List.append_assoc, take_append_drop_add row 16 4, List.append_assoc,
      take_append_drop_add row 12 4, List.append_assoc, take_append_drop_add row 8 4,
      List.take_append_drop] at groups
    exact groups

theorem Grouped.length (groups : Grouped row text) : text.length = 36 := by
  obtain ⟨full, rfl⟩ := grouped_iff.mp groups
  exact length_hyphenate full

theorem dehyphenate?_eq_some_iff : dehyphenate? text = some row ↔ Grouped row text := by
  rw [grouped_iff]
  constructor
  · intro found
    simp only [dehyphenate?] at found
    split at found
    · next fits =>
        obtain rfl := Option.some.inj found
        refine ⟨?_, fits.2⟩
        simp [fits.1]
    · cases found
  · rintro ⟨full, rfl⟩
    have groups : (hyphenate row).take 8 ++ ((hyphenate row).drop 9).take 4
        ++ ((hyphenate row).drop 14).take 4 ++ ((hyphenate row).drop 19).take 4
        ++ (hyphenate row).drop 24 = row.take 8 ++ ((row.drop 8).take 4
          ++ ((row.drop 12).take 4 ++ ((row.drop 16).take 4 ++ row.drop 20))) := by
      simp [hyphenate, full, List.drop_append, List.drop_take]
    rw [take_append_drop_add row 16 4, take_append_drop_add row 12 4, take_append_drop_add row 8 4,
      List.take_append_drop] at groups
    simp only [dehyphenate?, groups, length_hyphenate full, and_self, if_true]

/-! ## Identifiers -/

theorem length_of_urn {marker : List Char} (urn : marker.map Char.toLower = "urn:uuid:".toList) :
    marker.length = 9 :=
  (List.length_map Char.toLower).symm.trans (congrArg List.length urn)

theorem Wrapped.length {part : List Char} (wrapped : Wrapped part text) (long : part.length = 36) :
    text.length = 36 ∨ text.length = 38 ∨ text.length = 45 := by
  cases wrapped with
  | alone => exact .inl long
  | braced => exact .inr (.inl (by simp [long]))
  | marked urn => exact .inr (.inr (by rw [List.length_append, length_of_urn urn, long]))

/-- The length of a text tells what the groups in it stand in. -/
theorem hyphenatedPart?_eq_some_iff {part : List Char} (long : part.length = 36) :
    hyphenatedPart? text = some part ↔ Wrapped part text := by
  unfold hyphenatedPart?
  constructor
  · intro found
    split at found
    · cases found
      exact .alone
    · split at found
      · next braces =>
          obtain ⟨size, first, last⟩ := braces
          obtain ⟨rest, rfl⟩ := List.head?_eq_some_iff.mp first
          have spelled : rest ≠ [] := fun none => by simp [none] at size
          rw [List.getLast?_cons_of_ne_nil spelled] at last
          obtain ⟨inner, rfl⟩ := List.getLast?_eq_some_iff.mp last
          have inside : inner = part := by simpa using found
          rw [inside]
          exact .braced
      · split at found
        · next urn =>
            rw [← List.take_append_drop 9 text, Option.some.inj found]
            exact .marked urn.2
        · cases found
  · intro wrapped
    cases wrapped with
    | alone => exact if_pos long
    | braced =>
        have size : ('{' :: part ++ ['}']).length = 38 := by simp [long]
        rw [if_neg (by omega), if_pos ⟨size, rfl, List.getLast?_concat⟩, List.cons_append,
          List.drop_one, List.tail_cons, List.dropLast_concat]
    | @marked marker urn =>
        have nine := length_of_urn urn
        have size : (marker ++ part).length = 45 := by rw [List.length_append, nine, long]
        rw [if_neg (by omega), if_neg (by omega), List.take_left' nine, List.drop_left' nine,
          if_pos ⟨size, urn⟩]

/-- The spellings of an identifier are read as it, and nothing else is. -/
theorem ofChars?_eq_some_iff : ofChars? text = some id ↔ id.SpelledBy text := by
  unfold ofChars?
  constructor
  · intro read
    split at read
    · exact .bare (ofHexDigits?_eq_some_iff.mp read)
    · obtain ⟨part, found, read⟩ := Option.bind_eq_some_iff.mp read
      obtain ⟨row, groups, digits⟩ := Option.bind_eq_some_iff.mp read
      have groups := dehyphenate?_eq_some_iff.mp groups
      exact .grouped (ofHexDigits?_eq_some_iff.mp digits) groups
        ((hyphenatedPart?_eq_some_iff groups.length).mp found)
  · intro spelled
    cases spelled with
    | bare digits =>
        rw [if_pos digits.length]
        exact ofHexDigits?_eq_some_iff.mpr digits
    | grouped digits groups wrapped =>
        have size := wrapped.length groups.length
        rw [if_neg (by omega), (hyphenatedPart?_eq_some_iff groups.length).mpr wrapped,
          Option.bind_some, dehyphenate?_eq_some_iff.mpr groups, Option.bind_some]
        exact ofHexDigits?_eq_some_iff.mpr digits

/-- An identifier is written in one of its spellings. -/
theorem spelledBy_render (id : TimeId) : id.SpelledBy id.render.toList := by
  have digits := id.spelledOut_hexDigits
  rw [render, String.toList_ofList]
  exact .grouped digits (grouped_iff.mpr ⟨digits.length, rfl⟩) .alone

/-- An identifier is read back from its written form. -/
theorem ofChars?_render (id : TimeId) : ofChars? id.render.toList = some id :=
  ofChars?_eq_some_iff.mpr id.spelledBy_render

/-- The version is the thirteenth digit. -/
theorem isTimeBased_iff (id : TimeId) : id.IsTimeBased ↔ id.hexDigits[12]? = some '1' := by
  have one : ∀ value < 16, value = 1 ↔ Text.Hex.digit value = '1' := by decide
  have row : id.hexDigits = Text.Hex.digits 12 (id.toNat / 16 ^ 20) ++
      ([Text.Hex.digit (id.toNat / 16 ^ 19)] ++ Text.Hex.digits 19 id.toNat) := by
    rw [hexDigits, Text.Hex.digits_add 12 20, Text.Hex.digits_add 1 19]
    rfl
  have twelve : (Text.Hex.digits 12 (id.toNat / 16 ^ 20)).length = 12 :=
    Text.Hex.length_digits _ _
  rw [row, List.getElem?_append_right (by rw [twelve]), twelve, Nat.sub_self,
    List.singleton_append, List.getElem?_cons_zero, Option.some_inj, ← Text.Hex.digit_mod]
  exact one _ (Nat.mod_lt _ (by decide))

end TimeId

end Restage
