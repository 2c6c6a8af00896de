import Restage.Clock
import Restage.Text.Hex

/-!
# Time-based identifiers

A job is named by a 128-bit identifier. Version 1 identifiers embed the instant they were made
at: sixty bits that count ticks of 100 ns since the Gregorian reform, spread over three fields of
the number. The version is a nibble of its own and is read whatever the variant bits say. Bounds
and weights of fields are written in base sixteen, a digit to a nibble.

`TimeId.unixMillis?` is the embedded instant in Unix milliseconds, and `TimeId.ofMillis` is the
least identifier of a millisecond. Ticks before the Unix epoch wrap modulo 2^64.
-/

namespace Restage

/-- A 128-bit identifier. -/
structure TimeId where
  toNat : Nat
  isLt : toNat < 0x100000000000000000000000000000000
  deriving DecidableEq

namespace TimeId

instance : Inhabited TimeId := ⟨⟨0, by decide⟩⟩

/-- The identifier of the low 128 bits of a number. -/
def ofNat (number : Nat) : TimeId :=
  ⟨number % 0x100000000000000000000000000000000, Nat.mod_lt _ (by decide)⟩

/-- The identifier of a number, when it has at most 128 bits. -/
def ofNat? (number : Nat) : Option TimeId :=
  if small : number < 0x100000000000000000000000000000000 then some ⟨number, small⟩ else none

/-! ## Fields -/

/-- The version nibble. -/
def version (id : TimeId) : Nat := id.toNat / 0x10000000000000000000 % 16

/-- Whether the identifier says that it embeds an instant. -/
def IsTimeBased (id : TimeId) : Prop := id.version = 1

instance (id : TimeId) : Decidable id.IsTimeBased := inferInstanceAs (Decidable (_ = _))

/-- The embedded sixty-bit count of 100 ns ticks: the low 32 bits stand first in the number,
then the middle 16, then the high 12 beside the version. -/
def ticks (id : TimeId) : Nat :=
  id.toNat / 0x10000000000000000 % 0x1000 * 0x1000000000000
    + id.toNat / 0x100000000000000000000 % 0x10000 * 0x100000000
    + id.toNat / 0x1000000000000000000000000

/-- The ticks between the Gregorian reform and the Unix epoch. -/
def epochTicks : Nat := 122192928000000000

/-- The embedded ticks counted from the Unix epoch, modulo 2^64. -/
def unixTicks (id : TimeId) : Nat :=
  (id.ticks + (0x10000000000000000 - epochTicks)) % 0x10000000000000000

/-! ## The embedded instant -/

/-- The embedded instant in whole Unix milliseconds; none for an identifier that embeds none, and
none were the count to overflow the words it is computed in. -/
def unixMillis? (id : TimeId) : Option Int :=
  if id.IsTimeBased then
    let wholeSeconds := id.unixTicks / 10000000 * 1000
    let restMillis := id.unixTicks % 10000000 * 100 / 1000000
    if wholeSeconds < 0x10000000000000000 ∧ wholeSeconds + restMillis < 0x8000000000000000 then
      some (wholeSeconds + restMillis : Nat)
    else none
  else none

/-- The embedded instant as the calendar names it. -/
def createdAt? (id : TimeId) : Option Instant :=
  id.unixMillis?.bind Instant.ofMillis?

/-! ## Making identifiers -/

/-- The version 1 identifier of a tick count, of which the low sixty bits are stored, with the
given clock sequence and node. -/
def ofTicks (ticks clockSequence node : Nat) : TimeId :=
  ofNat (ticks % 0x100000000 * 0x1000000000000000000000000
    + ticks / 0x100000000 % 0x10000 * 0x100000000000000000000
    + 0x10000000000000000000
    + ticks / 0x1000000000000 % 0x1000 * 0x10000000000000000
    + 0x8000000000000000
    + clockSequence % 0x4000 * 0x1000000000000
    + node % 0x1000000000000)

/-- The tick count of a Unix millisecond, modulo 2^64; instants before the epoch count as it. -/
def ticksOfMillis (millis : Int) : Nat :=
  (epochTicks + millis.toNat * 10000) % 0x10000000000000000

/-- The least identifier of a Unix millisecond. -/
def ofMillis (millis : Int) : TimeId := ofTicks (ticksOfMillis millis) 0 0

end TimeId

end Restage
