/-!
# Reading bits

A compressed stream is read bit by bit, the low bit of each byte first, while the bytes it stands
for are written behind one another. Both positions survive a fault, so that what was written
before it is still there.
-/

namespace Restage.Deflate

/-- Why a stream cannot be read on. -/
inductive Fault where
  | corrupt
  | truncated
  deriving DecidableEq, Repr, Inhabited

/-- How many bits are read and what is written. -/
structure Progress where
  position : Nat
  out : ByteArray

/-- An action that reads from a stream. -/
abbrev Reading := ReaderT ByteArray (EStateM Fault Progress)

namespace Reading

/-- The next bit. -/
def bit : Reading Nat := do
  let progress ← get
  match (← read)[progress.position / 8]? with
  | none => throw .truncated
  | some byte =>
      set { progress with position := progress.position + 1 }
      pure (byte.toNat >>> (progress.position % 8) % 2)

/-- The number in the next bits, of which the first counts one. -/
def bits : Nat → Reading Nat
  | 0 => pure 0
  | count + 1 => do
      let low ← bit
      let high ← bits count
      pure (low + 2 * high)

/-- Skips what is left of a byte that was begun. -/
def align : Reading Unit :=
  modify fun progress => { progress with position := (progress.position + 7) / 8 * 8 }

/-- Writes a byte. -/
def emit (byte : UInt8) : Reading Unit :=
  modify fun progress => { progress with out := progress.out.push byte }

/-- Writes again what was written `distance` bytes before, `count` times. Before the first byte
stand zeros. -/
def repeatBack (distance : Nat) : Nat → Reading Unit
  | 0 => pure ()
  | count + 1 => do
      let out := (← get).out
      emit (if distance ≤ out.size then out[out.size - distance]?.getD 0 else 0)
      repeatBack distance count

/-- Copies bytes as they are. -/
def copy : Nat → Reading Unit
  | 0 => pure ()
  | count + 1 => do
      emit (← bits 8).toUInt8
      copy count

end Reading

end Restage.Deflate
