import Restage.Disk

/-!
# Trouble with a disk

A folder is deleted piece by piece, what it holds before the folder itself. A disk that refuses one
of the pieces has deleted others before, and these stay deleted. The names in a folder are read
piece by piece, too, and some of them may not be readable.

`Trouble` says what a disk refuses, and in which state it leaves what it refuses to delete.
-/

namespace Restage

/-- What goes wrong on a disk while directories are deleted. -/
structure Trouble where
  /-- The directories whose deletion breaks off. -/
  refuses : Path → Bool
  /-- The places that a deletion which breaks off does not come to. -/
  keeps : Location → Bool
  /-- A folder is deleted only after all it holds. -/
  upward : ∀ {above place : Location}, above <+: place → keeps place = true → keeps above = true
  /-- What is read of the names in the folder at a path; nothing is read of an entry that cannot be
  read. -/
  reads : Path → List String → List (Option String)
  /-- Only names that are there are read, each of them once. -/
  genuine : ∀ path names, List.Sublist ((reads path names).filterMap id) names

/-- Below a place only what is kept stands any more; what stands at it is left alone. -/
def Disk.thin (disk : Disk) (place : Location) (keeps : Location → Bool) : Disk :=
  ⟨disk.entries.filter fun (other, _) => ¬ (place <+: other ∧ other ≠ place ∧ keeps other = false)⟩

namespace Trouble

/-- Nothing goes wrong. -/
def nowhere : Trouble where
  refuses := fun _ => false
  keeps := fun _ => true
  upward := fun _ _ => rfl
  reads := fun _ names => names.map some
  genuine := fun _ names => by simp

/-- Deletes a folder with all it holds. The answer is whether it is gone. A deletion that breaks off
leaves the folder, and of what it held it leaves what is kept. -/
def delete (trouble : Trouble) (disk : Disk) (path : Path) : Disk × Bool :=
  if trouble.refuses path then
    match disk.find false path with
    | .ok (place, _) => (disk.thin place trouble.keeps, false)
    | .error _ => (disk, false)
  else
    match disk.dropFolder path with
    | .ok disk => (disk, true)
    | .error _ => (disk, false)

end Trouble

end Restage
