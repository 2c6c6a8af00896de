/-!
# Base 64

Bytes in the standard alphabet, padded to groups of four characters. Reading wants the padding
and refuses characters outside the alphabet.
-/

namespace Restage.Text.Base64

/-- The character of a six-bit value. -/
def digit (value : Nat) : Char :=
  if value < 26 then Char.ofNat (65 + value)
  else if value < 52 then Char.ofNat (71 + value)
  else if value < 62 then Char.ofNat (value - 4)
  else if value = 62 then '+'
  else '/'

/-- The six-bit value of a character. -/
def value? (c : Char) : Option Nat :=
  let code := c.toNat
  if 65 ≤ code ∧ code ≤ 90 then some (code - 65)
  else if 97 ≤ code ∧ code ≤ 122 then some (code - 71)
  else if 48 ≤ code ∧ code ≤ 57 then some (code + 4)
  else if c == '+' then some 62
  else if c == '/' then some 63
  else none

/-- The characters of three bytes, of two, and of one at the end. -/
def encodeBytes : List UInt8 → List Char
  | a :: b :: c :: rest =>
      let word := a.toNat * 65536 + b.toNat * 256 + c.toNat
      digit (word / 262144) :: digit (word / 4096 % 64) :: digit (word / 64 % 64)
        :: digit (word % 64) :: encodeBytes rest
  | [a, b] =>
      let word := a.toNat * 65536 + b.toNat * 256
      [digit (word / 262144), digit (word / 4096 % 64), digit (word / 64 % 64), '=']
  | [a] =>
      let word := a.toNat * 65536
      [digit (word / 262144), digit (word / 4096 % 64), '=', '=']
  | [] => []

def encode (bytes : ByteArray) : String := String.ofList (encodeBytes bytes.toList)

/-- Reads groups of four characters behind the bytes that are there; only the last group may be
padded. -/
def decodeChars? (out : ByteArray) : List Char → Option ByteArray
  | [] => some out
  | [a, b, '=', '='] => do
      let word := (← value? a) * 64 + (← value? b)
      some (out.push (word / 16).toUInt8)
  | [a, b, c, '='] => do
      let word := (← value? a) * 4096 + (← value? b) * 64 + (← value? c)
      some ((out.push (word / 1024).toUInt8).push (word / 4 % 256).toUInt8)
  | a :: b :: c :: d :: rest =>
      match value? a, value? b, value? c, value? d with
      | some a, some b, some c, some d =>
          let word := a * 262144 + b * 4096 + c * 64 + d
          decodeChars? (((out.push (word / 65536).toUInt8).push (word / 256 % 256).toUInt8).push
            (word % 256).toUInt8) rest
      | _, _, _, _ => none
  | _ => none

def decode? (text : String) : Option ByteArray := decodeChars? ByteArray.empty text.toList

end Restage.Text.Base64
