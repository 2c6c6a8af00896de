import Restage.Disk.Obsolete
import Restage.Proofs.Path
import Restage.Proofs.TimeId.Spelling
import Mathlib.Data.List.Basic

/-!
# Names of job directories

The name of a job's directory is read back as the job's identifier (`JobDir.id?_name`), so a sweep
sees in it the instant that the identifier embeds. Only names that begin like it and go on with a
spelling of a time-based identifier are taken for one (`JobDir.names_read_exactly`).

Every directory that lies directly below a staging root under the name counts as one of the job
(`JobDir.fileName?_join`).
-/

namespace Restage

/-! ## Directories -/

namespace JobDir

/-- A directory is one of a job when its name is the marker and a spelling of the job's identifier,
and that is a time-based one. -/
theorem id?_eq_some_iff {text : String} {id : TimeId} : id? text = some id ↔
    (∃ spelling, id.SpelledBy spelling ∧ marker.toList ++ spelling = text.toList) ∧
      id.IsTimeBased := by
  rw [id?, Option.bind_eq_some_iff]
  constructor
  · rintro ⟨spelling, behind, read⟩
    obtain ⟨read, timed⟩ := Option.filter_eq_some_iff.mp read
    exact ⟨⟨spelling, TimeId.ofChars?_eq_some_iff.mp read,
      List.isPrefixOf?_eq_some_iff_append_eq.mp behind⟩, of_decide_eq_true timed⟩
  · rintro ⟨⟨spelling, spelled, behind⟩, timed⟩
    exact ⟨spelling, List.isPrefixOf?_eq_some_iff_append_eq.mpr behind,
      Option.filter_eq_some_iff.mpr ⟨TimeId.ofChars?_eq_some_iff.mpr spelled, decide_eq_true timed⟩⟩

/-- The name of a job's directory says which job it is of. -/
theorem id?_name {id : TimeId} (timed : id.IsTimeBased) : id? (name id) = some id :=
  id?_eq_some_iff.mpr ⟨⟨_, id.spelledBy_render, String.toList_append.symm⟩, timed⟩

/-- Directories of different jobs have different names. -/
theorem name_injective {id other : TimeId} (same : name id = name other) : id = other := by
  rw [name, name, String.append_right_inj] at same
  have read := TimeId.ofChars?_render id
  rw [same, TimeId.ofChars?_render] at read
  exact (Option.some.inj read).symm

/-- The name of a directory is read as an identifier when it is `restore-` and a spelling of the
identifier, and the thirteenth digit of that, the version, is 1. So the name that is made for an
identifier is read back, or not at all. -/
theorem names_read_exactly (text : String) (id : TimeId) :
    (id? text = some id ↔
      (∃ spelling, id.SpelledBy spelling ∧ text = "restore-" ++ String.ofList spelling) ∧
        id.hexDigits[12]? = some '1') ∧
      id? (name id) = if id.hexDigits[12]? = some '1' then some id else none := by
  have spelled : ∀ spelling : List Char, marker.toList ++ spelling = text.toList ↔
      text = marker ++ String.ofList spelling := by
    intro spelling
    rw [← String.toList_inj, String.toList_append, String.toList_ofList, eq_comm]
  constructor
  · rw [id?_eq_some_iff, id.isTimeBased_iff]
    exact and_congr_left' (exists_congr fun spelling => and_congr_right' (spelled spelling))
  · split
    · next timed => exact id?_name (id.isTimeBased_iff.mpr timed)
    · next untimed =>
        rw [← id.isTimeBased_iff] at untimed
        refine Option.eq_none_iff_forall_ne_some.mpr fun other read => ?_
        obtain ⟨⟨spelling, spelled, behind⟩, timed⟩ := id?_eq_some_iff.mp read
        rw [name, String.toList_append, List.append_cancel_left_eq] at behind
        -- the name has one reading, so the identifier that was read is the one that was written
        have written := TimeId.ofChars?_render id
        rw [← behind, TimeId.ofChars?_eq_some_iff.mpr spelled] at written
        exact untimed (Option.some.inj written ▸ timed)

theorem slash_notMem_name (id : TimeId) : '/' ∉ (name id).toList := by
  rw [name, String.toList_append, List.mem_append, not_or, TimeId.render, String.toList_ofList]
  refine ⟨by decide, fun inside => ?_⟩
  rcases TimeId.mem_of_mem_hyphenate inside with hyphen | digit
  · cases hyphen
  · exact Text.Hex.slash_notMem_digits _ _ digit

theorem toList_name (id : TimeId) :
    (name id).toList = 'r' :: ("estore-".toList ++ id.render.toList) := by
  rw [name, String.toList_append]
  rfl

theorem ofPart?_name (id : TimeId) :
    Path.ofPart? (name id).toList = some (.name (name id).toList) := by
  rw [toList_name]
  simp [Path.ofPart?]

theorem name_relative (id : TimeId) : ¬ Path.Absolute (name id) := by
  rw [Path.Absolute, toList_name, List.head?_cons]
  decide

/-- The directory of a job lies directly below a staging root. -/
theorem components_join (root : Path) (id : TimeId) :
    (root.join (name id)).components = root.components ++ [.name (name id).toList] := by
  have added := Path.added_of_slashless (slash_notMem_name id) (ofPart?_name id)
  by_cases spelled : root.text = ""
  · obtain rfl : root = ⟨""⟩ := congrArg Path.mk spelled
    have start : Path.leading (name id).toList = [] := by
      rw [Path.leading, Path.splitSlashes_of_slashless (slash_notMem_name id), toList_name]
      simp
    have nothing : (Path.mk "").components = [] := by decide
    rw [Path.join_empty, nothing, Path.components, Path.componentsOf, start, List.nil_append,
      List.nil_append]
    exact added
  · rw [Path.components_join spelled (name_relative id), added]

/-- The directory of a job lies below a staging root under the job's name. -/
theorem fileName?_join (root : Path) (id : TimeId) :
    (root.join (name id)).fileName? = some (name id) := by
  rw [Path.fileName?, components_join, List.getLast?_concat]
  exact congrArg some String.ofList_toList

end JobDir

end Restage
