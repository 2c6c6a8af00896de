import Restage.Tar.Header

/-!
# Records that extend a header

A member may be preceded by lines that replace fields of its header. A line gives its own length,
a key and a value. A line whose length is wrong is no record.
-/

namespace Restage.Tar

/-- The lines of some bytes. -/
def lines : List UInt8 → List (List UInt8)
  | [] => [[]]
  | byte :: rest =>
      if byte = 10 then [] :: lines rest
      else
        match lines rest with
        | line :: more => (byte :: line) :: more
        | [] => [[byte]]

/-- What replaces a field of a header. -/
structure Record where
  key : List UInt8
  value : List UInt8
  deriving DecidableEq

/-- The record in a line. -/
def record? (line : List UInt8) : Option Record :=
  let length := line.takeWhile (· ≠ 32)
  let rest := (line.drop length.length).drop 1
  if length.length < line.length
      ∧ ((String.fromUTF8? ⟨length.toArray⟩).bind fun text => number? 10 text.toList)
        = some (line.length + 1)
      ∧ 61 ∈ rest then
    some ⟨rest.takeWhile (· ≠ 61), (rest.dropWhile (· ≠ 61)).drop 1⟩
  else none

/-- The lines up to an empty one, each with its record if it is one. -/
def records (bytes : List UInt8) : List (Option Record) :=
  ((lines bytes).takeWhile (· ≠ [])).map record?

/-- The value of the first record with a key. -/
def value? (key : String) (bytes : List UInt8) : Option (List UInt8) :=
  ((records bytes).filterMap id).find? (fun record => record.key == key.toUTF8.toList)
    |>.map Record.value

/-- The value of the record that replaces the size. A line before it that is no record, and a value
that is no number, make it void. -/
def sizeIn? (bytes : List UInt8) : Option Nat :=
  let before := (records bytes).takeWhile fun record => record.map Record.key ≠ some "size".toUTF8.toList
  if before.all Option.isSome then
    (value? "size" bytes).bind fun value =>
      (String.fromUTF8? ⟨value.toArray⟩).bind fun text => number? 10 text.toList
  else none

end Restage.Tar
