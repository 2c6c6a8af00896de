import Restage.Proofs.TimeId.Ticks

/-!
# Instants computed in words

The instant in an identifier is computed in words: the epoch is subtracted in 64 bits, where it may
wrap around, the fraction of a second is made nanoseconds in 32 bits, and the milliseconds of both
parts are added up and read as a signed number. `TimeId.millisWord` takes these steps with a fault
for each that has too little room. Of the five only the subtraction ever wraps around
(`TimeId.toNat_sinceWord`), so the computation ends well for every identifier.

`TimeId.decoded_without_loss` puts this together with what is asked of an identifier: its version
alone decides whether it embeds an instant, and the calendar names every instant embedded.
-/

namespace Restage

/-- The first nanosecond of a year, by the Gregorian rule for leap years. -/
def Instant.startOfYear (year : Int) : Int :=
  (365 * (year - 1970) + (year - 1969) / 4 - (year - 1901) / 100 + (year - 1601) / 400)
    * 86400 * 1000000000

/-- A year in four has a day more, but only each fourth one of the years that end a century. -/
theorem Instant.startOfYear_succ (year : Int) : startOfYear (year + 1) = startOfYear year +
    (if year % 4 = 0 ∧ (year % 100 = 0 → year % 400 = 0) then 366 else 365)
      * 86400 * 1000000000 := by
  unfold startOfYear
  split <;> omega

example : Instant.startOfYear 1970 = 0 := rfl

namespace TimeId

/-! ## The steps -/

/-- What has too little room. -/
inductive Overflow where
  /-- The nanoseconds of a fraction of a second. -/
  | nanos
  /-- The milliseconds of the whole seconds. -/
  | wholeMillis
  /-- All milliseconds together. -/
  | millis
  /-- All milliseconds together, with a sign. -/
  | sign
  deriving DecidableEq

/-- The ticks since the Unix epoch, which wrap around where there are none. -/
def sinceWord (id : TimeId) : BitVec 64 := BitVec.ofNat 64 id.ticks - BitVec.ofNat 64 epochTicks

def secondsWord (id : TimeId) : BitVec 64 := id.sinceWord / 10000000#64

/-- The ticks since the last whole second. -/
def fractionWord (id : TimeId) : BitVec 32 := (id.sinceWord % 10000000#64).setWidth 32

def wholeMillisWord (id : TimeId) : BitVec 64 := id.secondsWord * 1000#64

/-- The whole milliseconds since the last whole second. -/
def restMillisWord (id : TimeId) : BitVec 64 := (id.fractionWord * 100#32 / 1000000#32).setWidth 64

/-- The milliseconds since the Unix epoch, or the first step that has too little room. -/
def millisWord (id : TimeId) : Except Overflow (BitVec 64) :=
  if id.fractionWord.umulOverflow 100#32 then .error .nanos
  else if id.secondsWord.umulOverflow 1000#64 then .error .wholeMillis
  else if id.wholeMillisWord.uaddOverflow id.restMillisWord then .error .millis
  else if (id.wholeMillisWord + id.restMillisWord).msb then .error .sign
  else .ok (id.wholeMillisWord + id.restMillisWord)

/-! ## Room for every step -/

theorem toNat_sinceWord (id : TimeId) : id.sinceWord.toNat = id.unixTicks := by
  have small := id.ticks_lt
  have count : (BitVec.ofNat 64 id.ticks).toNat = id.ticks := by
    rw [BitVec.toNat_ofNat]
    exact Nat.mod_eq_of_lt (by omega)
  have epoch : (BitVec.ofNat 64 epochTicks).toNat = epochTicks := rfl
  rw [sinceWord, BitVec.toNat_sub, count, epoch, Nat.add_comm]
  rfl

theorem toNat_secondsWord (id : TimeId) : id.secondsWord.toNat = id.unixTicks / 10000000 := by
  rw [secondsWord, BitVec.toNat_udiv, toNat_sinceWord]
  rfl

theorem toNat_fractionWord (id : TimeId) : id.fractionWord.toNat = id.unixTicks % 10000000 := by
  have small : id.unixTicks % 10000000 < 2 ^ 32 := by omega
  rw [fractionWord, BitVec.toNat_setWidth, BitVec.toNat_umod, toNat_sinceWord]
  exact Nat.mod_eq_of_lt small

theorem not_umulOverflow_secondsWord (id : TimeId) : ¬ id.secondsWord.umulOverflow 1000#64 := by
  have bound := id.unixTicks_lt
  rw [BitVec.umulOverflow, decide_eq_true_iff, toNat_secondsWord, BitVec.toNat_ofNat]
  omega

theorem toNat_wholeMillisWord (id : TimeId) :
    id.wholeMillisWord.toNat = id.unixTicks / 10000000 * 1000 := by
  have room := id.not_umulOverflow_secondsWord
  rw [wholeMillisWord, BitVec.toNat_mul_of_not_umulOverflow room, toNat_secondsWord]
  rfl

theorem not_umulOverflow_fractionWord (id : TimeId) : ¬ id.fractionWord.umulOverflow 100#32 := by
  rw [BitVec.umulOverflow, decide_eq_true_iff, toNat_fractionWord, BitVec.toNat_ofNat]
  omega

theorem toNat_restMillisWord (id : TimeId) :
    id.restMillisWord.toNat = id.unixTicks % 10000000 / 10000 := by
  have room := id.not_umulOverflow_fractionWord
  have millis : (id.fractionWord * 100#32 / 1000000#32).toNat =
      id.unixTicks % 10000000 / 10000 := by
    rw [BitVec.toNat_udiv, BitVec.toNat_mul_of_not_umulOverflow room, toNat_fractionWord]
    exact Nat.mul_div_mul_right _ 10000 (by decide)
  rw [restMillisWord, BitVec.toNat_setWidth, millis]
  exact Nat.mod_eq_of_lt (by omega)

/-- Rounding the parts and adding them up is rounding the whole. -/
theorem toNat_add_restMillisWord (id : TimeId) :
    id.wholeMillisWord.toNat + id.restMillisWord.toNat = id.unixTicks / 10000 := by
  rw [toNat_wholeMillisWord, toNat_restMillisWord]
  omega

theorem not_uaddOverflow_wholeMillisWord (id : TimeId) :
    ¬ id.wholeMillisWord.uaddOverflow id.restMillisWord := by
  have bound := id.unixTicks_lt
  rw [BitVec.uaddOverflow, decide_eq_true_iff, toNat_add_restMillisWord]
  omega

/-- No step has too little room, whatever the identifier. -/
theorem millisWord_eq_ok (id : TimeId) : ∃ word, id.millisWord = .ok word ∧
    word.toInt = (id.unixTicks / 10000 : Nat) := by
  have bound := id.unixTicks_lt
  have nanos := id.not_umulOverflow_fractionWord
  have whole := id.not_umulOverflow_secondsWord
  have carryless := id.not_uaddOverflow_wholeMillisWord
  have sum : (id.wholeMillisWord + id.restMillisWord).toNat = id.unixTicks / 10000 := by
    rw [BitVec.toNat_add_of_not_uaddOverflow carryless, toNat_add_restMillisWord]
  have signless : (id.wholeMillisWord + id.restMillisWord).msb = false := by
    rw [BitVec.msb_eq_false_iff_two_mul_lt, sum]
    omega
  refine ⟨id.wholeMillisWord + id.restMillisWord, ?_, ?_⟩
  · rw [millisWord, if_neg nanos, if_neg whole, if_neg carryless, signless]
    rfl
  · rw [BitVec.toInt_eq_toNat_of_msb signless, sum]

/-! ## Version and ticks -/

theorem unixTicks_eq (id : TimeId) :
    (id.unixTicks : Int) = ((id.ticks : Int) - 122192928000000000) % 2 ^ 64 := by
  have small := id.ticks_lt
  rw [unixTicks, epochTicks]
  omega

theorem unixMillis?_eq_ite (id : TimeId) : id.unixMillis? =
    if id.version = 1 then some ((id.unixTicks / 10000 : Nat) : Int) else none := by
  split
  · next timed => exact unixMillis?_eq timed
  · next untimed => exact if_neg untimed

theorem createdAt?_eq_ite (id : TimeId) : id.createdAt? =
    if id.version = 1 then some (.ofMillis (id.unixTicks / 10000 : Nat)) else none := by
  have millis := id.unixMillis?_eq_ite
  split at millis
  · next timed =>
      obtain ⟨created, told, named⟩ := born timed
      rw [if_pos timed, named, Option.some.inj (told.symm.trans millis)]
  · next untimed => rw [if_neg untimed, createdAt?, millis, Option.bind_none]

/-- The identifier with another variant, clock sequence and node, which make up its low 64 bits. -/
def withTail (id : TimeId) (tail : Nat) : TimeId :=
  ofNat (id.toNat / 0x10000000000000000 * 0x10000000000000000 + tail % 0x10000000000000000)

theorem head_withTail (id : TimeId) (tail : Nat) :
    (id.withTail tail).toNat / 0x10000000000000000 = id.toNat / 0x10000000000000000 := by
  have small := id.isLt
  rw [withTail, ofNat]
  simp only
  omega

/-- Version and ticks stand in the high 64 bits. -/
theorem version_withTail (id : TimeId) (tail : Nat) :
    (id.withTail tail).version = id.version ∧ (id.withTail tail).unixTicks = id.unixTicks := by
  have head := id.head_withTail tail
  have ticks : (id.withTail tail).ticks = id.ticks := by
    unfold ticks
    omega
  refine ⟨?_, by rw [unixTicks, unixTicks, ticks]⟩
  unfold version
  omega

/-! ## Instants -/

/-- An identifier embeds an instant when its version is 1, whatever its variant, clock sequence and
node, and the calendar names all these instants. The instant is the sixty-bit count of ticks, taken
from the Unix epoch on modulo 2^64, in whole milliseconds, and the words that it is computed in have
room for it whatever the identifier. -/
theorem decoded_without_loss (id : TimeId) :
    id.ticks < 2 ^ 60 ∧
      (∃ word, id.millisWord = .ok word ∧
        word.toInt = ((id.ticks : Int) - 122192928000000000) % 2 ^ 64 / 10000 ∧
        id.unixMillis? = (if id.version = 1 then some word.toInt else none) ∧
        id.createdAt? = (if id.version = 1 then some (.ofMillis word.toInt) else none)) ∧
      (id.unixMillis?.isSome ↔ id.version = 1) ∧
      (id.createdAt?.isSome ↔ id.version = 1) ∧
      (∀ tail, (id.withTail tail).unixMillis? = id.unixMillis? ∧
        (id.withTail tail).createdAt? = id.createdAt?) ∧
      Instant.calendarStart = Instant.startOfYear (-262143) ∧
      Instant.calendarStop = Instant.startOfYear (262142 + 1) := by
  have millis := id.unixMillis?_eq_ite
  have created := id.createdAt?_eq_ite
  refine ⟨id.ticks_lt, ?words, ?millis, ?created, ?tail, by decide, by decide⟩
  case words =>
    obtain ⟨word, computed, value⟩ := id.millisWord_eq_ok
    refine ⟨word, computed, ?_, ?_, ?_⟩
    · rw [value, Int.natCast_ediv, unixTicks_eq]
      rfl
    · rw [value, millis]
    · rw [value, created]
  case millis =>
    rw [millis]
    exact Option.isSome_ite
  case created =>
    rw [created]
    exact Option.isSome_ite
  case tail =>
    intro tail
    obtain ⟨version, ticks⟩ := id.version_withTail tail
    constructor
    · rw [unixMillis?_eq_ite, millis, version, ticks]
    · rw [createdAt?_eq_ite, created, version, ticks]

/-- The latest of all instants is embedded by the last tick before the Unix epoch. -/
example : (ofTicks (epochTicks - 1) 0 0).createdAt? = some (.ofMillis 1844674407370955) := by decide

end TimeId

end Restage
