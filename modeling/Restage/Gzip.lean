import Restage.Deflate
import Restage.Gzip.Crc

/-!
# Compressed files

A compressed file has a head, a compressed stream, and a checksum and size behind it. It is read
lazily: whoever stops before its end never learns what is wrong there. So decoding has no single
verdict but a `Content`: the bytes that can be read, and whether reading beyond them ends or
fails.
-/

namespace Restage.Gzip

/-- What can be read of a compressed file. -/
structure Content where
  bytes : ByteArray
  /-- Whether all is read behind the bytes; otherwise reading on fails. -/
  isWhole : Bool

/-- A number of `count` bytes, the low byte first. -/
def numberAt (bytes : ByteArray) (start : Nat) : Nat → Option Nat
  | 0 => some 0
  | count + 1 => do
      let low ← bytes[start]?
      let high ← numberAt bytes (start + 1) count
      some (low.toNat + 256 * high)

/-- The position behind the next zero byte, which `fuel` bytes may precede. -/
def behindZero (bytes : ByteArray) (start : Nat) : Nat → Option Nat
  | 0 => none
  | fuel + 1 => do
      let byte ← bytes[start]?
      if byte = 0 then some (start + 1) else behindZero bytes (start + 1) fuel

/-- The most bytes a name or a comment in the head may have. -/
def mostHeadText : Nat := 65535

/-- The position behind the head, none when there is no proper head. -/
def headEnd? (bytes : ByteArray) : Option Nat := do
  let magic ← numberAt bytes 0 3
  let flags ← bytes[3]?
  let _ ← numberAt bytes 4 6
  if magic = 0x088B1F ∧ flags.toNat < 32 then
    let behind ← if has flags 4 then do
        let size ← numberAt bytes 10 2
        if 12 + size ≤ bytes.size then some (12 + size) else none
      else some 10
    let behind ← if has flags 8 then behindZero bytes behind (mostHeadText + 1) else some behind
    let behind ← if has flags 16 then behindZero bytes behind (mostHeadText + 1) else some behind
    if has flags 2 then
      let given ← numberAt bytes behind 2
      if given = (crc (bytes.extract 0 behind)).toNat % 65536 then some (behind + 2) else none
    else some behind
  else none
where
  /-- Whether a flag is set. -/
  has (flags : UInt8) (flag : Nat) : Bool := flags.toNat / flag % 2 == 1

/-- The most bytes that are decoded at once. A fault hides what was decoded together with it. -/
def chunk : Nat := 32768

/-- What can be read of a file. -/
def decode (bytes : ByteArray) : Content :=
  match headEnd? bytes with
  | none => ⟨ByteArray.empty, false⟩
  | some start =>
      match Deflate.inflate bytes start with
      | (.broken .corrupt, _, out) => ⟨out.extract 0 ((out.size - 1) / chunk * chunk), false⟩
      | (.broken .truncated, _, out) => ⟨out, false⟩
      | (.complete, behind, out) =>
          let trusted := numberAt bytes behind 4 == some (crc out).toNat
            && numberAt bytes (behind + 4) 4 == some (out.size % 0x100000000)
          ⟨out, trusted⟩

end Restage.Gzip
