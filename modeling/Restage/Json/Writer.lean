import Restage.Json

/-!
# Writing JSON

The compact form: no blanks, and in texts only what must be escaped is.
-/

namespace Restage.Json

/-- A character inside a text. -/
def writeChar (c : Char) : List Char :=
  if c == Char.ofNat 34 then ['\\', Char.ofNat 34]
  else if c == '\\' then ['\\', '\\']
  else if c == '\n' then ['\\', 'n']
  else if c == '\r' then ['\\', 'r']
  else if c == '\t' then ['\\', 't']
  else if c == Char.ofNat 8 then ['\\', 'b']
  else if c == Char.ofNat 12 then ['\\', 'f']
  else if c.toNat < 32 then
    ['\\', 'u', '0', '0', if c.toNat < 16 then '0' else '1', lowDigit c.toNat]
  else [c]
where
  /-- The last hexadecimal digit of a code below 32. -/
  lowDigit (code : Nat) : Char :=
    if code % 16 < 10 then Char.ofNat (48 + code % 16) else Char.ofNat (87 + code % 16)

/-- A text in its quotes, written behind what is there. -/
def writeText (out : String) (value : String) : String :=
  (value.foldl (fun out c => (writeChar c).foldl String.push out)
    (out.push (Char.ofNat 34))).push (Char.ofNat 34)

mutual

/-- A value, written behind what is there. -/
def write (out : String) : Json → String
  | .null => out ++ "null"
  | .bool true => out ++ "true"
  | .bool false => out ++ "false"
  | .number lexeme => out ++ lexeme
  | .text (some value) => writeText out value
  | .text none => out ++ "null"
  | .array items => (writeItems (out.push '[') true items).push ']'
  | .object members => (writeMembers (out.push '{') true members).push '}'

/-- The items of an array, with commas between them. -/
def writeItems (out : String) (first : Bool) : List Json → String
  | [] => out
  | item :: rest =>
      writeItems (write (if first then out else out.push ',') item) false rest

/-- The members of an object, with commas between them. -/
def writeMembers (out : String) (first : Bool) : List (Option String × Json) → String
  | [] => out
  | (name, value) :: rest =>
      let named := (writeText (if first then out else out.push ',') (name.getD "")).push ':'
      writeMembers (write named value) false rest

end

/-- The compact form of a value. -/
def render (json : Json) : String := write "" json

end Restage.Json
