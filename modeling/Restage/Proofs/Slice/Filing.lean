import Restage.Proofs.Disk.Children
import Restage.Proofs.Slice.Archives

/-!
# Where archives are filed

The archive of a slice is a child of the slice's target, whatever the slice is called and however
its target is spelled. The identifier comes from the job store and may have slashes or be `..`, but
the name that is made of it is one step that is neither (`Piece.ofPart?_archiveName`), and joining
it to the target only adds that step (`Piece.components_archive`).

`Recipe.archive_in_target` says this of the steps of the path and of the disk: when the target leads
to a folder, the archive's path means a child of that folder or nothing.
-/

namespace Restage

/-! ## Parents -/

namespace Path

variable {path : Path} {name : String}

/-- The steps that lead to the folder a path lies in; none for the root and for a path without
steps. -/
def parent? (path : Path) : Option (List Component) :=
  match path.components.getLast? with
  | none | some .root => none
  | some _ => some path.components.dropLast

/-- A name that was joined to a path lies in what the path leads to. -/
theorem parent?_join (spelled : path.text ≠ "") (slashless : '/' ∉ name.toList)
    (named : ofPart? name.toList = some (.name name.toList)) :
    (path.join name).parent? = some path.components := by
  have relative : ¬ Absolute name := fun absolute => slashless (List.mem_of_head? absolute)
  rw [parent?, components_join spelled relative, added_of_slashless slashless named,
    List.getLast?_concat, List.dropLast_concat]

end Path

/-! ## Names -/

/-- A name that ends in the ending of archives and is one step of a path, and not `.` or `..`. -/
structure Piece.IsArchiveName (name : String) : Prop where
  ending : ".tar.gz".toList <:+ name.toList
  slashless : '/' ∉ name.toList
  proper : name ≠ "." ∧ name ≠ ".."

theorem Piece.isArchiveName (piece : Piece) : IsArchiveName piece.archiveName where
  ending := by
    rw [archiveName_eq, String.toList_append]
    exact List.suffix_append _ _
  slashless := piece.slash_notMem_archiveName
  proper := by
    have step := piece.ofPart?_archiveName
    constructor
    · intro dot
      rw [dot] at step
      exact absurd step (by decide)
    · intro dots
      rw [dots] at step
      exact absurd step (by decide)

/-! ## Archives -/

namespace Recipe

variable {recipe : Recipe} {piece : Piece}

/-- The archive of every slice that is built is a child of the slice's target under a name that is
one step of a path. On a disk on which the target leads to a folder, its path means that child of
the folder, unless the name or the path is too much for the disk. -/
theorem archive_in_target (built : recipe.build = .ok piece) :
    piece.archivePath.parent? = some piece.target.components ∧
      piece.archivePath.fileName? = some piece.archiveName ∧
      piece.archivePath.components =
        piece.target.components ++ [.name piece.archiveName.toList] ∧
      Piece.IsArchiveName piece.archiveName ∧
      ∀ (disk : Disk) (root : Location), disk.find true piece.target = .ok (root, .folder) →
        ∀ place, disk.resolve false piece.archivePath = .ok place ↔
          place = root ++ [piece.archiveName] ∧ Disk.Fits piece.archiveName.toList ∧
            piece.archivePath.text.utf8ByteSize < 4096 := by
  have spelled := target_ne_empty built
  have slashless := piece.slash_notMem_archiveName
  have step := piece.ofPart?_archiveName
  refine ⟨Path.parent?_join spelled slashless step, Path.fileName?_join spelled slashless step,
    Piece.components_archive spelled, piece.isArchiveName, ?disk⟩
  intro disk root found place
  exact Disk.resolve_child_iff found slashless step

/-- A slice whose identifier leads up and whose texts lead to the root and up from there. -/
def leadingUp : Recipe where
  sliceId := some "../x"
  job := some (.ofNat 1)
  keyspace := "."
  table := ".."
  staging := some (⟨"/staging"⟩, "/")

/-- Its archive is filed there under a name without slashes. -/
theorem archive_in_target_leadingUp : ∃ piece, leadingUp.build = .ok piece ∧
    piece.target = ⟨"/./.."⟩ ∧ piece.archivePath.parent? = some [.root, .up] ∧
    piece.archivePath.fileName? = some ".._x.tar.gz" ∧
    (Disk.mk []).resolve false piece.archivePath = .ok [".._x.tar.gz"] := by
  obtain ⟨piece, built⟩ : ∃ piece, leadingUp.build = .ok piece := ⟨_, rfl⟩
  obtain ⟨parent, named, -, -, place⟩ := archive_in_target built
  have target : piece.target = ⟨"/./.."⟩ := by
    have absolute : Path.Absolute "/" := by decide
    cases built
    change targetOf ⟨"/staging"⟩ (.ofNat 1) "/" "." ".." = _
    rw [targetOf, Path.join_of_absolute absolute]
    decide
  have called : piece.sliceId = "../x" := by
    cases built
    rfl
  have name : piece.archiveName = ".._x.tar.gz" := by
    rw [← String.toList_inj, Piece.archiveName_eq, String.toList_append, Piece.stem, called,
      if_neg (by decide), Piece.toList_flat]
    decide
  have steps : (Path.mk "/./..").components = [.root, .up] := by decide
  have found : (Disk.mk []).find true piece.target = .ok ([], .folder) := by
    have walked : Disk.stepsOf "/./..".toList = [.root, .here, .here, .up] := by decide
    have leads : (Disk.mk []).Leads true Disk.mostLinks [] (Disk.stepsOf "/./..".toList) [] := by
      rw [walked]
      exact .root (.here (.here (.up .done)))
    rw [target]
    exact Disk.find_eq_ok.mpr ⟨Disk.resolve_of_leads (by decide) (by decide) leads, rfl⟩
  have short : piece.archivePath.text.utf8ByteSize < 4096 := by
    rw [Piece.archivePath, target, name]
    decide
  have fits : Disk.Fits piece.archiveName.toList := by
    rw [name]
    exact ⟨by decide, by decide⟩
  have file := (place _ _ found _).mpr ⟨rfl, fits, short⟩
  rw [target, steps] at parent
  rw [name] at named file
  exact ⟨piece, built, target, parent, named, file⟩

end Recipe

end Restage
