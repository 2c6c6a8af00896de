import Restage.Path

/-!
# The disk

A disk is a table from places to what stands there. A place is the list of names that leads to it
from the root, so no place has two spellings; `Disk.resolve` finds the place a path means, through
symbolic links. A change that fails leaves the disk alone; deletions that break off half way are
`Trouble.delete`.
-/

namespace Restage

/-- What may stand at a place. -/
inductive Entry where
  | file (bytes : ByteArray)
  | folder
  | link (target : String)

namespace Entry

def IsFile : Entry → Prop
  | file _ => True
  | _ => False

instance : (entry : Entry) → Decidable entry.IsFile
  | file _ => .isTrue trivial
  | folder => .isFalse id
  | link _ => .isFalse id

def IsFolder : Entry → Prop
  | folder => True
  | _ => False

instance : (entry : Entry) → Decidable entry.IsFolder
  | folder => .isTrue trivial
  | file _ => .isFalse id
  | link _ => .isFalse id

end Entry

/-- The names that lead from the root to a place. -/
abbrev Location := List String

/-- Why the disk refuses something. -/
inductive DiskFault where
  | notFound
  | occupied
  | notFolder
  | isFolder
  | nameTooLong
  | tooManyLinks
  | badName
  deriving DecidableEq, Repr, Inhabited

/-- The text a fault is reported with. -/
def DiskFault.message : DiskFault → String
  | notFound => "No such file or directory (os error 2)"
  | occupied => "File exists (os error 17)"
  | notFolder => "Not a directory (os error 20)"
  | isFolder => "Is a directory (os error 21)"
  | nameTooLong => "File name too long (os error 36)"
  | tooManyLinks => "Too many levels of symbolic links (os error 40)"
  | badName => "file name contained an unexpected NUL byte"

/-- What stands on a disk, apart from the root, which is always a folder. -/
structure Disk where
  entries : List (Location × Entry) := []

namespace Disk

/-! ## Places -/

/-- What stands at a place. -/
def get? (disk : Disk) (place : Location) : Option Entry :=
  if place = [] then some .folder else disk.entries.lookup place

/-- Nothing stands at a place any more; what is below it is left alone. -/
def erase (disk : Disk) (place : Location) : Disk :=
  ⟨disk.entries.filter fun (other, _) => other ≠ place⟩

/-- Nothing stands below a place any more; what stands at it is left alone. -/
def eraseBelow (disk : Disk) (place : Location) : Disk :=
  ⟨disk.entries.filter fun (other, _) => ¬ (place <+: other ∧ other ≠ place)⟩

/-- An entry put at a place. -/
def put (disk : Disk) (place : Location) (entry : Entry) : Disk :=
  ⟨(disk.erase place).entries ++ [(place, entry)]⟩

/-- The names in a folder. -/
def namesIn (disk : Disk) (folder : Location) : List String :=
  disk.entries.filterMap fun (place, _) =>
    match folder.isPrefixOf? place with
    | some [name] => some name
    | _ => none

/-- What stands below a folder, each under its names from there. -/
def below (disk : Disk) (folder : Location) : List (Location × Entry) :=
  disk.entries.filterMap fun (place, entry) =>
    match folder.isPrefixOf? place with
    | some (name :: names) => some (name :: names, entry)
    | _ => none

/-! ## Paths -/

/-- The steps a path takes. A slash at the end is a step of its own, which only a folder allows. -/
def stepsOf (text : List Char) : List Component :=
  (if text.head? = some '/' then [.root] else []) ++ (Path.splitSlashes text).map fun part =>
    if part = [] ∨ part = ['.'] then .here else if part = ['.', '.'] then .up else .name part

/-- The most links followed on one path. -/
def mostLinks : Nat := 40

/-- Takes steps from a folder. The last name may be missing, and a link under it is followed only
if asked. -/
def walk (disk : Disk) (followLast : Bool) (links : Nat) (base : Location)
    (steps : List Component) : Except DiskFault Location :=
  match steps with
  | [] => .ok base
  | .root :: rest => disk.walk followLast links [] rest
  | .here :: rest => disk.walk followLast links base rest
  | .up :: rest => disk.walk followLast links base.dropLast rest
  | .name part :: rest =>
      let name := String.ofList part
      let place := base ++ [name]
      if part.any fun c => c.toNat == 0 then .error .badName
      else if 255 < name.utf8ByteSize then .error .nameTooLong
      else
        match disk.get? place with
        | none => if rest = [] then .ok place else .error .notFound
        | some .folder => disk.walk followLast links place rest
        | some (.file _) => if rest = [] then .ok place else .error .notFolder
        | some (.link target) =>
            if rest = [] ∧ ¬ followLast then .ok place
            else
              match links with
              | 0 => .error .tooManyLinks
              | links + 1 => disk.walk followLast links base (stepsOf target.toList ++ rest)
termination_by (links, steps.length)

/-- The place a path means. It need not hold anything. -/
def resolve (disk : Disk) (followLast : Bool) (path : Path) : Except DiskFault Location :=
  if path.text = "" then .error .notFound
  else if 4096 ≤ path.text.utf8ByteSize then .error .nameTooLong
  else disk.walk followLast mostLinks [] (stepsOf path.text.toList)

/-- What a path leads to, at its place. -/
def find (disk : Disk) (followLast : Bool) (path : Path) : Except DiskFault (Location × Entry) := do
  let place ← disk.resolve followLast path
  match disk.get? place with
  | some entry => .ok (place, entry)
  | none => .error .notFound

/-- What a path leads to, a link at its end included. -/
def entryAt? (disk : Disk) (path : Path) : Option Entry :=
  (disk.find false path).toOption.map Prod.snd

/-- What a path leads to behind all links. -/
def entryBehind? (disk : Disk) (path : Path) : Option Entry :=
  (disk.find true path).toOption.map Prod.snd

/-! ## Changes -/

/-- Makes a folder. Its parent has to be there. -/
def makeFolder (disk : Disk) (steps : List Component) : Except DiskFault Disk := do
  let place ← disk.walk false mostLinks [] steps
  match disk.get? place with
  | some _ => .error .occupied
  | none => .ok (disk.put place .folder)

/-- Puts a file in place of what a path leads to, which may be a file or nothing. -/
def putFile (disk : Disk) (path : Path) (bytes : ByteArray) : Except DiskFault Disk := do
  let place ← disk.resolve true path
  match disk.get? place with
  | some .folder => .error .isFolder
  | _ => .ok (disk.put place (.file bytes))

/-- The bytes of the file a path leads to. -/
def contentOf (disk : Disk) (path : Path) : Except DiskFault ByteArray := do
  match ← disk.find true path with
  | (_, .file bytes) => .ok bytes
  | _ => .error .isFolder

/-- Takes a file or a link away. -/
def dropFile (disk : Disk) (path : Path) : Except DiskFault Disk := do
  match ← disk.find false path with
  | (_, .folder) => .error .isFolder
  | (place, _) => .ok (disk.erase place)

/-- Takes a folder away with all it holds. What it holds goes first, and then the folder by its path
once more; it stays, and is empty, when the path led through what it held. -/
def dropFolder (disk : Disk) (path : Path) : Except DiskFault Disk := do
  match ← disk.find false path with
  | (place, .folder) =>
      let emptied := disk.eraseBelow place
      match emptied.resolve false path with
      | .ok place => .ok (emptied.erase place)
      | .error _ => .ok emptied
  | _ => .error .notFolder

/-- Puts a link where nothing stands yet. -/
def makeLink (disk : Disk) (path : Path) (target : String) : Except DiskFault Disk := do
  let place ← disk.resolve false path
  if target = "" then .error .notFound
  else
    match disk.get? place with
    | some _ => .error .occupied
    | none => .ok (disk.put place (.link target))

/-- The names in the folder a path leads to. -/
def list (disk : Disk) (path : Path) : Except DiskFault (List String) := do
  match ← disk.find true path with
  | (place, .folder) => .ok (disk.namesIn place)
  | _ => .error .notFolder

/-- Makes the folder at the end of a path, whose steps are given from the last to the first, and
those above it that are missing. What was made before a refusal stays. -/
def makeFolders (disk : Disk) : List Component → Disk × Option DiskFault
  | [] => (disk, none)
  | last :: before =>
      match disk.makeFolder (last :: before).reverse with
      | .ok disk => (disk, none)
      | .error .notFound =>
          match disk.makeFolders before with
          | (disk, some fault) => (disk, some fault)
          | (disk, none) => settle disk (last :: before).reverse
      | .error _ => settle disk (last :: before).reverse
where
  /-- Makes a folder unless there is one. -/
  settle (disk : Disk) (steps : List Component) : Disk × Option DiskFault :=
    match disk.makeFolder steps with
    | .ok disk => (disk, none)
    | .error fault =>
        match (disk.walk true mostLinks [] steps).toOption.bind disk.get? with
        | some .folder => (disk, none)
        | _ => (disk, some fault)

/-- Makes the folder a path names and those above it that are missing. -/
def makeFoldersAt (disk : Disk) (path : Path) : Disk × Option DiskFault :=
  if 4096 ≤ path.text.utf8ByteSize then (disk, some .nameTooLong)
  else disk.makeFolders path.components.reverse

end Disk

end Restage
