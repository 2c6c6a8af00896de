import Restage.Disk
import Restage.Text.Base64

/-!
# Listings of a folder

One line for everything below a folder: a folder with a slash at its end, a link with its target,
and a file with its size and, while it is small, its bytes.
-/

namespace Restage.Disk

/-- The line of an entry under its names. -/
def line (names : List String) : Entry → String
  | .folder => String.intercalate "/" names ++ "/"
  | .link target => String.intercalate "/" names ++ " -> " ++ target
  | .file bytes =>
      String.intercalate "/" names ++ " " ++ toString bytes.size
        ++ (if bytes.size ≤ 64 then " " ++ Text.Base64.encode bytes else "")

/-- The lines of everything below the folder a path leads to, in ascending order; none when it
leads to no folder. -/
def tree (disk : Disk) (path : Path) : List String :=
  match disk.find true path with
  | .ok (place, .folder) =>
      ((disk.below place).map fun (names, entry) => line names entry).mergeSort
        fun left right => left ≤ right
  | _ => []

end Restage.Disk
