import Restage.Tar.Header

/-!
# Files with holes

The header of such a file lists the stretches that are stored, each with its place in the file.
What lies between them reads as zeros.
-/

namespace Restage.Tar

/-- A stretch of a file: where it lies and how long it is. -/
structure Stretch where
  offset : Nat
  length : Nat

/-- The stretch in a field of 24 bytes; an empty field holds none. -/
def stretch? (field : List UInt8) : Option (Option Stretch) :=
  if field.headD 0 = 0 ∨ (field.drop 12).headD 0 = 0 then some none
  else do
    let offset ← octal? (field.take 12)
    let length ← octal? (field.drop 12)
    some (some ⟨offset, length⟩)

/-- Lays stretches out. `out` is the file so far and `used` how much of the stored data it took;
stretches must not overlap, and all but the last fill whole blocks. -/
def layOut? (data : ByteArray) (out : ByteArray) (used : Nat) :
    List Stretch → Option (ByteArray × Nat)
  | [] => some (out, used)
  | stretch :: rest =>
      if stretch.length ≠ 0 ∧ used % blockSize ≠ 0 then none
      else if stretch.offset < out.size ∨ data.size < used + stretch.length then none
      else
        let hole : ByteArray := ⟨Array.replicate (stretch.offset - out.size) 0⟩
        layOut? data (out ++ hole ++ data.extract used (used + stretch.length))
          (used + stretch.length) rest

/-- The bytes of a file with holes whose list fits into its header. -/
def sparseBytes? (header : Header) (data : ByteArray) : Option ByteArray := do
  if header.field 482 1 ≠ [0] then none
  let stretches ← [386, 410, 434, 458].mapM fun start => stretch? (header.field start 24)
  let size ← octal? (header.field 483 12)
  let (out, used) ← layOut? data ByteArray.empty 0 (stretches.filterMap id)
  if out.size = size ∧ used = data.size then some out else none

end Restage.Tar
