import Restage.TimeId

/-!
# Spellings of identifiers

An identifier is written as 32 lower-case hexadecimal digits in hyphenated groups of
8-4-4-4-12. It is read from that form, from the bare digits, from the hyphenated form in braces
and from the hyphenated form behind the `urn:uuid:` marker, digits and marker in either case.
-/

namespace Restage.TimeId

/-- The 32 digits, the highest first. -/
def hexDigits (id : TimeId) : List Char := Text.Hex.digits 32 id.toNat

/-- Hyphens behind the first 8, 12, 16 and 20 of a row of digits. -/
def hyphenate (row : List Char) : List Char :=
  row.take 8 ++ '-' :: (row.drop 8).take 4 ++ '-' :: (row.drop 12).take 4
    ++ '-' :: (row.drop 16).take 4 ++ '-' :: row.drop 20

/-- The row of digits that was hyphenated, none when the hyphens stand elsewhere. -/
def dehyphenate? (text : List Char) : Option (List Char) :=
  let row := text.take 8 ++ (text.drop 9).take 4 ++ (text.drop 14).take 4
    ++ (text.drop 19).take 4 ++ text.drop 24
  if text.length = 36 ∧ hyphenate row = text then some row else none

/-- The written form of an identifier. -/
def render (id : TimeId) : String := String.ofList (hyphenate id.hexDigits)

instance : ToString TimeId := ⟨render⟩

/-- The identifier of a row of exactly 32 digits. -/
def ofHexDigits? (row : List Char) : Option TimeId :=
  if row.length = 32 then (Text.Hex.read? row).bind ofNat? else none

/-- The marker that may stand before the hyphenated form. -/
def urnMarker : List Char := "urn:uuid:".toList

/-- The hyphenated part of a text: all of it, what stands in braces, or what follows the marker,
told apart by length. -/
def hyphenatedPart? (text : List Char) : Option (List Char) :=
  if text.length = 36 then some text
  else if text.length = 38 ∧ text.head? = some '{' ∧ text.getLast? = some '}' then
    some (text.drop 1).dropLast
  else if text.length = 45 ∧ (text.take 9).map Char.toLower = urnMarker then some (text.drop 9)
  else none

/-- Reads any of the four spellings. -/
def ofChars? (text : List Char) : Option TimeId :=
  if text.length = 32 then ofHexDigits? text
  else (hyphenatedPart? text).bind fun hyphenated =>
    (dehyphenate? hyphenated).bind ofHexDigits?

/-- Reads any of the four spellings. -/
def parse? (text : String) : Option TimeId := ofChars? text.toList

end Restage.TimeId
