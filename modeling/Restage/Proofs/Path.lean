import Restage.Path

/-!
# Joined paths

What is joined to a path only adds steps to it, unless it is absolute: then it stands for itself.
`Path.components_join` and `Path.join_of_absolute` say so for any spelling, whatever slashes, dots
and empty texts it has.
-/

namespace Restage.Path

variable {base part text more : List Char} {parts : List (List Char)}

/-! ## Slashes -/

theorem splitSlashes_ne_nil (text : List Char) : splitSlashes text ≠ [] := by
  cases text with
  | nil => exact List.cons_ne_nil _ _
  | cons c rest =>
      rw [splitSlashes]
      split
      · exact List.cons_ne_nil _ _
      · split <;> exact List.cons_ne_nil _ _

theorem splitSlashes_of_slashless (slashless : '/' ∉ part) : splitSlashes part = [part] := by
  induction part with
  | nil => rfl
  | cons c rest ih =>
      rw [List.mem_cons, not_or] at slashless
      rw [splitSlashes, if_neg (Ne.symm slashless.1), ih slashless.2]

theorem splitSlashes_append (base part : List Char) :
    splitSlashes (base ++ '/' :: part) = splitSlashes base ++ splitSlashes part := by
  induction base with
  | nil => rfl
  | cons c rest ih =>
      rw [List.cons_append, splitSlashes, splitSlashes, ih]
      split
      · rfl
      · cases first : splitSlashes rest with
        | nil => exact absurd first (splitSlashes_ne_nil rest)
        | cons head others => rfl

theorem head?_splitSlashes_append (base more : List Char) :
    (splitSlashes (base ++ '/' :: more)).head? = (splitSlashes base).head? := by
  rw [splitSlashes_append, List.head?_append]
  cases first : splitSlashes base with
  | nil => exact absurd first (splitSlashes_ne_nil base)
  | cons head others => rfl

/-! ## Components -/

/-- The components that a text adds to the path it is joined to. -/
def added (text : List Char) : List Component := (splitSlashes text).filterMap ofPart?

theorem added_append (base more : List Char) :
    added (base ++ '/' :: more) = added base ++ added more := by
  rw [added, splitSlashes_append, List.filterMap_append]
  rfl

theorem added_of_slashless (slashless : '/' ∉ part) (named : ofPart? part = some (.name part)) :
    added part = [.name part] := by
  rw [added, splitSlashes_of_slashless slashless, List.filterMap_cons, named]
  rfl

/-- What stands behind a slash does not change how a spelling begins. -/
theorem leading_append (base more : List Char) :
    leading (base ++ '/' :: more) = leading (base ++ ['/']) := by
  have first : (base ++ '/' :: more).head? = (base ++ ['/']).head? := by
    rw [List.head?_append, List.head?_append]
    rfl
  rw [leading, leading, first, head?_splitSlashes_append, head?_splitSlashes_append]

theorem componentsOf_append (base more : List Char) :
    componentsOf (base ++ '/' :: more) = componentsOf (base ++ ['/']) ++ added more := by
  have alone : added (base ++ ['/']) = added base :=
    (added_append base []).trans (List.append_nil _)
  calc leading (base ++ '/' :: more) ++ added (base ++ '/' :: more)
      = leading (base ++ ['/']) ++ (added base ++ added more) := by
        rw [leading_append, added_append]
    _ = leading (base ++ ['/']) ++ added (base ++ ['/']) ++ added more := by
        rw [alone, List.append_assoc]

/-- A slash at the end of a spelling adds nothing. -/
theorem componentsOf_slash (spelled : base ≠ []) :
    componentsOf (base ++ ['/']) = componentsOf base := by
  have first : (base ++ ['/']).head? = base.head? := by
    cases base with
    | nil => exact absurd rfl spelled
    | cons c rest => rfl
  have alone : added (base ++ ['/']) = added base :=
    (added_append base []).trans (List.append_nil _)
  calc leading (base ++ ['/']) ++ added (base ++ ['/'])
      = leading base ++ added base := by
        rw [alone, leading, leading, first, head?_splitSlashes_append]

theorem fileName?_of_empty {path : Path} (empty : path.text = "") : path.fileName? = none := by
  rcases path with ⟨text⟩
  obtain rfl : text = "" := empty
  decide

/-! ## Joining -/

/-- A text that replaces the path it is joined to. -/
def Absolute (more : String) : Prop := more.toList.head? = some '/'

instance (more : String) : Decidable (Absolute more) := inferInstanceAs (Decidable (_ = _))

theorem join_of_absolute {path : Path} {more : String} (absolute : Absolute more) :
    path.join more = ⟨more⟩ := if_pos absolute

theorem join_empty (more : String) : (Path.mk "").join more = ⟨more⟩ := by
  unfold join
  split <;> rfl

/-- What is joined to a path stands behind a slash, which is put there unless the path ends in
one. -/
theorem toList_join {path : Path} {more : String} (spelled : path.text ≠ "")
    (relative : ¬ Absolute more) :
    ∃ base, (path.text.toList = base ++ ['/'] ∨ base ≠ [] ∧ path.text.toList = base) ∧
      (path.join more).text.toList = base ++ '/' :: more.toList := by
  unfold Absolute at relative
  unfold join
  rw [if_neg relative]
  split
  · next last => exact absurd (String.toList_inj.mp (List.getLast?_eq_none_iff.mp last)) spelled
  · next last =>
      obtain ⟨base, ends⟩ := List.getLast?_eq_some_iff.mp last
      refine ⟨base, .inl ends, ?_⟩
      rw [String.toList_append, ends, List.append_assoc]
      rfl
  · have base : path.text.toList ≠ [] := fun nothing => spelled (String.toList_inj.mp nothing)
    refine ⟨path.text.toList, .inr ⟨base, rfl⟩, ?_⟩
    rw [String.toList_append, String.toList_append, List.append_assoc]
    rfl

/-- A text that is not absolute only adds to a path. -/
theorem components_join {path : Path} {more : String} (spelled : path.text ≠ "")
    (relative : ¬ Absolute more) :
    (path.join more).components = path.components ++ added more.toList := by
  obtain ⟨base, ends, text⟩ := toList_join spelled relative
  rw [components, components, text, componentsOf_append]
  rcases ends with slash | ⟨started, same⟩
  · rw [slash]
  · rw [same, componentsOf_slash started]

theorem join_ne_empty {path : Path} {more : String} (spelled : path.text ≠ "") :
    (path.join more).text ≠ "" := by
  by_cases absolute : Absolute more
  · rw [join_of_absolute absolute]
    rintro rfl
    cases absolute
  · obtain ⟨base, -, text⟩ := toList_join spelled absolute
    intro nothing
    rw [nothing] at text
    exact List.append_ne_nil_of_right_ne_nil base (List.cons_ne_nil _ _) text.symm

/-- A path ends in the name that was joined to it. -/
theorem fileName?_join {path : Path} {name : String} (spelled : path.text ≠ "")
    (slashless : '/' ∉ name.toList) (named : ofPart? name.toList = some (.name name.toList)) :
    (path.join name).fileName? = some name := by
  have relative : ¬ Absolute name := fun absolute => slashless (List.mem_of_head? absolute)
  rw [fileName?, components_join spelled relative, added_of_slashless slashless named,
    List.getLast?_concat]
  exact congrArg some String.ofList_toList

end Restage.Path
