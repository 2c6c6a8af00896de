import Restage.Text.Unseen
import Restage.Text.Hex

/-!
# Quoted texts

A text in double quotes, with an escape for each character that would end the quotation or not
show in it. A quoted path escapes the apostrophe as well.
-/

namespace Restage.Text.Quoted

/-- The hexadecimal digits of a code point, without leading zeros. -/
def codeDigits (code : Nat) : List Char :=
  match (Hex.digits 6 code).dropWhile (· == '0') with
  | [] => ['0']
  | digits => digits

/-- A character inside a quotation. -/
def escape (apostrophes : Bool) (c : Char) : List Char :=
  if c.toNat = 0 then ['\\', '0']
  else if c == '\t' then ['\\', 't']
  else if c == '\n' then ['\\', 'n']
  else if c == '\r' then ['\\', 'r']
  else if c == '\\' then ['\\', '\\']
  else if c.toNat = 34 then ['\\', c]
  else if c.toNat = 39 && apostrophes then ['\\', c]
  else if isUnseen c then ['\\', 'u', '{'] ++ codeDigits c.toNat ++ ['}']
  else [c]

/-- A text in quotes. -/
def quote (apostrophes : Bool) (text : String) : String :=
  String.ofList (Char.ofNat 34 :: text.toList.flatMap (escape apostrophes) ++ [Char.ofNat 34])

end Restage.Text.Quoted
