import Restage.Text.Blank
import Restage.Text.Lossy

/-!
# Headers of archive members

A header is a block of 512 bytes with fields at fixed places. Texts in it end at a zero byte, and
numbers are octal digits with blanks around them, or bytes behind a marked first one.
-/

namespace Restage.Tar

/-- The size that headers have and data is padded to. -/
def blockSize : Nat := 512

/-- The bytes of a text field up to a zero. -/
def untilZero (bytes : List UInt8) : List UInt8 := bytes.takeWhile (· ≠ 0)

/-- The text without the blanks around it. -/
def trimmed (text : List Char) : List Char :=
  ((text.dropWhile Text.isBlankChar).reverse.dropWhile Text.isBlankChar).reverse

/-- The value of digits to a base up to ten, which a plus sign may precede, below 2^64. -/
def number? (base : Nat) (text : List Char) : Option Nat :=
  let digits := match text with
    | '+' :: digits => digits
    | digits => digits
  if digits.isEmpty then none
  else
    (digits.foldlM (fun value c =>
      if c.isDigit && c.toNat - 48 < base then some (value * base + (c.toNat - 48)) else none) 0).filter
        (· < 0x10000000000000000)

/-- The number in an octal field. -/
def octal? (field : List UInt8) : Option Nat :=
  (String.fromUTF8? ⟨(untilZero field).toArray⟩).bind fun text => number? 8 (trimmed text.toList)

/-- The number in a size field: octal, or the last eight bytes when the first one is marked. -/
def size? (field : List UInt8) : Option Nat :=
  match field with
  | first :: _ =>
      if first < 0x80 then octal? field
      else some ((field.drop (field.length - 8)).foldl (fun value byte => value * 256 + byte.toNat) 0)
  | [] => none

/-- The block a member begins with. -/
structure Header where
  bytes : List UInt8

namespace Header

/-- The bytes of a field. -/
def field (header : Header) (start size : Nat) : List UInt8 := (header.bytes.drop start).take size

/-- An empty block marks the end. -/
def IsEnd (header : Header) : Prop := header.bytes.all (· = 0)

instance (header : Header) : Decidable header.IsEnd := inferInstanceAs (Decidable (_ = true))

/-- The sum of all bytes, where those of the checksum itself count as blanks. -/
def sum (header : Header) : Nat :=
  (header.bytes.take 148 ++ header.bytes.drop 156).foldl (fun sum byte => sum + byte.toNat) 256

/-- Whether the checksum is that of the bytes. -/
def IsIntact (header : Header) : Prop :=
  (octal? (header.field 148 8)).map (· % 0x100000000) = some header.sum

instance (header : Header) : Decidable header.IsIntact := inferInstanceAs (Decidable (_ = _))

/-- The letter that says what the member is. -/
def kind (header : Header) : UInt8 := (header.field 156 1).headD 0

/-- Whether the header is of the standard form, which has a field for the beginning of a long
name. -/
def IsStandard (header : Header) : Prop :=
  header.field 257 8 = [117, 115, 116, 97, 114, 0, 48, 48]

instance (header : Header) : Decidable header.IsStandard := inferInstanceAs (Decidable (_ = _))

/-- Whether the header is of the older form with extensions. -/
def IsExtended (header : Header) : Prop :=
  header.field 257 8 = [117, 115, 116, 97, 114, 32, 32, 0]

instance (header : Header) : Decidable header.IsExtended := inferInstanceAs (Decidable (_ = _))

/-- The size of the member's data. -/
def dataSize? (header : Header) : Option Nat := size? (header.field 124 12)

/-- The name in the header. -/
def name (header : Header) : List UInt8 :=
  let name := untilZero (header.field 0 100)
  let lead := untilZero (header.field 345 155)
  if header.IsStandard ∧ lead ≠ [] then lead ++ 47 :: name else name

/-- The target of a link in the header. -/
def link? (header : Header) : Option (List UInt8) :=
  match untilZero (header.field 157 100) with
  | [] => none
  | target => some target

end Header

end Restage.Tar
