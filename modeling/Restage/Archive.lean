import Restage.Disk
import Restage.Tar

/-!
# Unpacking archives

`Archive.extract` unpacks a compressed archive below a folder and counts the files that are there
afterwards. Members never leave that folder: names with `..` are skipped, and a parent that lies
outside behind a link is refused.
-/

namespace Restage.Archive

/-! ## Members -/

/-- The names that lead from the target folder to a member; none when the member is skipped. -/
def namesOf? (name : String) : Option (List Component) :=
  let steps := Path.componentsOf name.toList
  if Component.up ∈ steps then none
  else
    match steps.filter fun step => step ≠ .root ∧ step ≠ .here with
    | [] => none
    | names => some names

/-- The place some steps lead to from a base, which must exist and lie at or below it. -/
def inside (disk : Disk) (base : Location) (steps : List Component) :
    Except DiskFault Location := do
  let place ← disk.walk true Disk.mostLinks base steps
  match disk.get? place with
  | none => .error .notFound
  | some _ => if base <+: place then .ok place else .error .notFound

/-- Makes the folders on the way that are missing. `before` are the steps taken already. -/
def makeWay (disk : Disk) (base : Location) (before : List Component) :
    List Component → Except DiskFault Disk
  | [] => .ok disk
  | step :: rest => do
      let steps := before ++ [step]
      let present := ((disk.walk false Disk.mostLinks base steps).toOption.bind disk.get?).isSome
      if present then makeWay disk base steps rest
      else
        let _ ← inside disk base before
        let place ← disk.walk false Disk.mostLinks base steps
        makeWay (disk.put place .folder) base steps rest

/-- A folder at a place, where one may stand already, also behind a link. -/
def putFolder (disk : Disk) (base place : Location) (steps : List Component) :
    Except DiskFault Disk :=
  match disk.get? place with
  | none => .ok (disk.put place .folder)
  | some _ =>
      match (disk.walk true Disk.mostLinks base steps).toOption.bind disk.get? with
      | some .folder => .ok disk
      | _ => .error .occupied

/-- A file or a link at a place, in place of any other. -/
def putOver (disk : Disk) (place : Location) (entry : Entry) : Except DiskFault Disk :=
  match disk.get? place with
  | some .folder => .error .isFolder
  | _ => .ok (disk.put place entry)

/-- One more name for a file of the archive, which must lie below the target folder already. -/
def putHardLink (disk : Disk) (base place : Location) (target : String) :
    Except DiskFault Disk := do
  let steps := Disk.stepsOf target.toList
  let _ ← inside disk base steps
  let source ← disk.walk false Disk.mostLinks base steps
  match disk.get? source, disk.get? place with
  | some .folder, _ | none, _ => .error .isFolder
  | some _, some _ => .error .occupied
  | some entry, none => .ok (disk.put place entry)

/-- Unpacks one member below a folder. -/
def unpackMember (disk : Disk) (base : Location) (member : Tar.Member) : Except DiskFault Disk :=
  match namesOf? member.name with
  | none => .ok disk
  | some steps => do
      let disk ← makeWay disk base [] steps.dropLast
      let _ ← inside disk base steps.dropLast
      let place ← disk.walk false Disk.mostLinks base steps
      match member.kind, member.link with
      | .folder, _ => putFolder disk base place steps
      | .hardLink, some target =>
          if target = "" then .error .notFound else putHardLink disk base place target
      | .symbolicLink, some target =>
          if target = "" then .error .notFound else putOver disk place (.link target)
      | .hardLink, none | .symbolicLink, none => .error .notFound
      | .longName, _ | .longLink, _ | .records, _ | .globalRecords, _ => .ok disk
      | .file, _ | .sparse, _ =>
          if member.slashMakesFolder ∧ member.name.toList.getLast? = some '/' then
            putFolder disk base place steps
          else putOver disk place (.file member.bytes)

/-- The order in which members are unpacked: folders last, the greatest name first. -/
def unpackOrder (members : List Tar.Member) : List Tar.Member :=
  members.filter (fun member => member.kind ≠ .folder)
    ++ (members.filter fun member => member.kind = .folder).mergeSort
      fun left right => right.name ≤ left.name

/-- Unpacks members one after the other. What was unpacked before a refusal stays. -/
def unpackAll (disk : Disk) (base : Location) : List Tar.Member → Disk × Bool
  | [] => (disk, true)
  | member :: rest =>
      match unpackMember disk base member with
      | .error _ => (disk, false)
      | .ok disk => unpackAll disk base rest

/-! ## Archives -/

/-- Why an archive is not unpacked. -/
inductive Refusal where
  | noArchive (archive : Path)
  | noFolder (target : Path)
  | noWay (target : Path)
  /-- The file is there, but cannot be opened. -/
  | unopenable (archive : Path)
  | unpackable (archive target : Path)
  deriving DecidableEq, Repr

/-- The text a refusal is reported with. -/
def Refusal.message : Refusal → String
  | noArchive archive => "Archive for extraction is not a file: " ++ archive.text
  | noFolder target => "Extraction path exists but is not a directory: " ++ target.text
  | noWay target => "Failed to create extraction directory: " ++ target.text
  | unopenable archive => "Failed to open archive file: " ++ archive.text
  | unpackable archive target =>
      "Failed to unpack archive " ++ archive.text ++ " to " ++ target.text

/-- The number of files below a folder, links and the archive itself left out. -/
def countFiles (disk : Disk) (archive target : Path) (base : Location) : Nat :=
  (disk.below base).countP fun (names, entry) =>
    entry.IsFile ∧
      target.components ++ names.map (fun name => Component.name name.toList) ≠ archive.components

/-- Unpacks what an archive holds below the folder a path leads to. -/
def unpackBelow (disk : Disk) (archive target : Path) (bytes : ByteArray) :
    Disk × Except Refusal Nat :=
  match disk.find true target, Tar.members? (Gzip.decode bytes) with
  | .ok (base, .folder), some members =>
      match unpackAll disk base (unpackOrder members) with
      | (disk, true) => (disk, .ok (countFiles disk archive target base))
      | (disk, false) => (disk, .error (.unpackable archive target))
  | _, _ => (disk, .error (.unpackable archive target))

/-- Unpacks an archive into a folder, which is made when it is missing. The answer is the number of
files below the folder afterwards. -/
def extract (disk : Disk) (archive target : Path) : Disk × Except Refusal Nat :=
  match disk.entryBehind? archive with
  | some (.file bytes) =>
      match disk.entryBehind? target with
      | some (.file _) | some (.link _) => (disk, .error (.noFolder target))
      | _ =>
          match disk.makeFoldersAt target with
          | (disk, some _) => (disk, .error (.noWay target))
          | (disk, none) => unpackBelow disk archive target bytes
  | _ => (disk, .error (.noArchive archive))

end Restage.Archive
