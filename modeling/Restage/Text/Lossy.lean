/-!
# Texts out of any bytes

Bytes that are no UTF-8 are shown with the replacement character, one for each longest beginning of
a character that is not finished.
-/

namespace Restage.Text.Lossy

/-- The bytes a lead byte asks for behind it, and the range of the first of them; none for a byte
that leads nothing. -/
def expected? (lead : UInt8) : Option (Nat × UInt8 × UInt8) :=
  if lead < 0x80 then some (0, 0, 0)
  else if lead < 0xC2 then none
  else if lead < 0xE0 then some (1, 0x80, 0xBF)
  else if lead = 0xE0 then some (2, 0xA0, 0xBF)
  else if lead = 0xED then some (2, 0x80, 0x9F)
  else if lead < 0xF0 then some (2, 0x80, 0xBF)
  else if lead = 0xF0 then some (3, 0x90, 0xBF)
  else if lead < 0xF4 then some (3, 0x80, 0xBF)
  else if lead = 0xF4 then some (3, 0x80, 0x8F)
  else none

/-- The number in the low bits of a lead byte that `more` bytes follow. -/
def leadValue (lead : UInt8) : Nat → Nat
  | 0 => lead.toNat
  | 1 => lead.toNat % 32
  | 2 => lead.toNat % 16
  | _ => lead.toNat % 8

/-- Where decoding stands: `missing` bytes of a character begun with `value` are to come, the first
of them between `low` and `high`. -/
structure Reading where
  missing : Nat
  value : Nat
  low : UInt8
  high : UInt8

def replacement : Char := Char.ofNat 0xFFFD

/-- Begins a character. -/
def begin (byte : UInt8) : Reading × List Char :=
  match expected? byte with
  | none => (⟨0, 0, 0, 0⟩, [replacement])
  | some (0, _, _) => (⟨0, 0, 0, 0⟩, [Char.ofNat byte.toNat])
  | some (missing, low, high) => (⟨missing, leadValue byte missing, low, high⟩, [])

/-- Takes one byte. -/
def step (reading : Reading) (byte : UInt8) : Reading × List Char :=
  match reading.missing with
  | 0 => begin byte
  | missing + 1 =>
      if reading.low ≤ byte ∧ byte ≤ reading.high then
        let value := reading.value * 64 + byte.toNat % 64
        if missing = 0 then (⟨0, 0, 0, 0⟩, [Char.ofNat value])
        else (⟨missing, value, 0x80, 0xBF⟩, [])
      else
        let (next, shown) := begin byte
        (next, replacement :: shown)

/-- The characters of some bytes. -/
def decodeFrom (reading : Reading) : List UInt8 → List Char
  | [] => if reading.missing = 0 then [] else [replacement]
  | byte :: rest =>
      let (next, shown) := step reading byte
      shown ++ decodeFrom next rest

def decode (bytes : List UInt8) : String := String.ofList (decodeFrom ⟨0, 0, 0, 0⟩ bytes)

end Restage.Text.Lossy
