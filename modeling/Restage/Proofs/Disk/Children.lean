import Mathlib.Data.List.Basic
import Restage.Disk.Obsolete
import Restage.Disk.Trouble
import Restage.Proofs.Disk
import Restage.Proofs.Path

/-!
# Children of folders

A folder is reached by a path, and so is what stands in it: the name of the child is joined to the
path of the folder, which is walked again each time. `Disk.Leads` lists the ways a walk may go on,
and what is known of walks follows by induction on them: `Leads.child` that the longer path leads to
the child, whatever links the shorter one goes through, and `Leads.mono` that a walk which leads to
something leads there as well when there is more on the disk.

`Disk.cleaned` is the disk once some children of a folder are gone with all they held, and others
have lost some of what they held.
-/

namespace Restage

/-! ## Names on a disk -/

/-- A name that is not refused for what it is made of. -/
structure Disk.Fits (part : List Char) : Prop where
  clean : (part.any fun c => c.toNat == 0) = false
  short : (String.ofList part).utf8ByteSize ≤ 255

/-- A name that may stand in a folder. -/
structure Disk.IsName (part : List Char) : Prop extends Disk.Fits part where
  slashless : '/' ∉ part
  step : Path.ofPart? part = some (.name part)

/-- A disk on which every place is taken once, by names. -/
structure Disk.Sound (disk : Disk) : Prop where
  once : (disk.entries.map Prod.fst).Nodup
  named : ∀ place ∈ disk.entries.map Prod.fst, ∀ name ∈ place, Disk.IsName name.toList

variable {disk larger : Disk} {place base root : Location} {entry : Entry} {follow : Bool}
  {links : Nat} {steps rest : List Component} {part : List Char} {name : String}
  {names gone left : List String} {path : Path} {keeps : Location → Bool}

/-! ## Ways of a walk -/

/-- Where a walk leads that ends well, one constructor for each way of going on. -/
inductive Disk.Leads (disk : Disk) (follow : Bool) :
    Nat → Location → List Component → Location → Prop
  | done {links : Nat} {base : Location} : Leads disk follow links base [] base
  | root {links : Nat} {base place : Location} {rest : List Component}
    (onward : Leads disk follow links [] rest place) :
    Leads disk follow links base (.root :: rest) place
  | here {links : Nat} {base place : Location} {rest : List Component}
    (onward : Leads disk follow links base rest place) :
    Leads disk follow links base (.here :: rest) place
  | up {links : Nat} {base place : Location} {rest : List Component}
    (onward : Leads disk follow links base.dropLast rest place) :
    Leads disk follow links base (.up :: rest) place
  | folder {links : Nat} {base place : Location} {part : List Char} {rest : List Component}
    (fits : Disk.Fits part) (there : disk.get? (base ++ [String.ofList part]) = some .folder)
    (onward : Leads disk follow links (base ++ [String.ofList part]) rest place) :
    Leads disk follow links base (.name part :: rest) place
  /-- The last name is not followed any further, and may be missing. -/
  | last {links : Nat} {base : Location} {part : List Char} (fits : Disk.Fits part)
    (other : disk.get? (base ++ [String.ofList part]) ≠ some .folder)
    (kept : ∀ target, disk.get? (base ++ [String.ofList part]) = some (.link target) →
      follow = false) :
    Leads disk follow links base [.name part] (base ++ [String.ofList part])
  | link {links : Nat} {base place : Location} {part : List Char} {rest : List Component}
    {target : String} (fits : Disk.Fits part)
    (there : disk.get? (base ++ [String.ofList part]) = some (.link target))
    (followed : ¬ (rest = [] ∧ ¬ follow = true))
    (onward : Leads disk follow links base (Disk.stepsOf target.toList ++ rest) place) :
    Leads disk follow (links + 1) base (.name part :: rest) place

theorem Disk.walk_name (fits : Disk.Fits part) :
    disk.walk follow links base (.name part :: rest) =
      match disk.get? (base ++ [String.ofList part]) with
      | none => if rest = [] then .ok (base ++ [String.ofList part]) else .error .notFound
      | some .folder => disk.walk follow links (base ++ [String.ofList part]) rest
      | some (.file _) =>
          if rest = [] then .ok (base ++ [String.ofList part]) else .error .notFolder
      | some (.link target) =>
          if rest = [] ∧ ¬ follow then .ok (base ++ [String.ofList part])
          else
            match links with
            | 0 => .error .tooManyLinks
            | links + 1 => disk.walk follow links base (stepsOf target.toList ++ rest) := by
  have clean : ¬ (part.any fun c => c.toNat == 0) = true := Bool.eq_false_iff.mp fits.clean
  have short : ¬ 255 < (String.ofList part).utf8ByteSize := Nat.not_lt.mpr fits.short
  rw [Disk.walk]
  exact (if_neg clean).trans (if_neg short)

theorem Disk.fits_of_walk
    (walked : disk.walk follow links base (.name part :: rest) = .ok place) : Disk.Fits part := by
  rw [Disk.walk] at walked
  split at walked
  · cases walked
  · next clean =>
      split at walked
      · cases walked
      · next short => exact ⟨Bool.eq_false_iff.mpr clean, Nat.not_lt.mp short⟩

theorem Disk.Leads.walk (leads : disk.Leads follow links base steps place) :
    disk.walk follow links base steps = .ok place := by
  induction leads with
  | done => rw [Disk.walk]
  | root onward ih | here onward ih | up onward ih => rw [Disk.walk, ih]
  | folder fits there onward ih => rw [Disk.walk_name fits, there]; exact ih
  | @last links base part fits other kept =>
      rw [Disk.walk_name fits]
      cases there : disk.get? (base ++ [String.ofList part]) with
      | none => rfl
      | some entry =>
          cases entry with
          | folder => exact absurd there other
          | file bytes => rfl
          | link target => exact if_pos ⟨rfl, by simp [kept target there]⟩
  | link fits there followed onward ih =>
      rw [Disk.walk_name fits, there]
      exact (if_neg followed).trans ih

theorem Disk.ok_of_ite {last : Prop} [Decidable last] {fault : DiskFault} {there : Location}
    (walked : (if last then .ok there else .error fault : Except DiskFault Location) = .ok place) :
    last ∧ there = place := by
  split at walked
  · next holds => exact ⟨holds, Except.ok.inj walked⟩
  · cases walked

theorem Disk.leads_of_walk (walked : disk.walk follow links base steps = .ok place) :
    disk.Leads follow links base steps place := by
  -- a link may lead to more steps than there were, but leaves fewer links to follow
  induction links using Nat.strongRecOn generalizing base steps with
  | _ links fewer =>
      induction steps generalizing base with
      | nil =>
          rw [Disk.walk] at walked
          cases walked
          exact .done
      | cons step rest shorter =>
          cases step with
          | root =>
              rw [Disk.walk] at walked
              exact .root (shorter walked)
          | here =>
              rw [Disk.walk] at walked
              exact .here (shorter walked)
          | up =>
              rw [Disk.walk] at walked
              exact .up (shorter walked)
          | name part =>
              have fits := Disk.fits_of_walk walked
              rw [Disk.walk_name fits] at walked
              cases there : disk.get? (base ++ [String.ofList part]) with
              | none =>
                  rw [there] at walked
                  obtain ⟨rfl, rfl⟩ := Disk.ok_of_ite walked
                  exact .last fits (by simp [there]) (by simp [there])
              | some entry =>
                  rw [there] at walked
                  cases entry with
                  | file bytes =>
                      obtain ⟨rfl, rfl⟩ := Disk.ok_of_ite walked
                      exact .last fits (by simp [there]) (by simp [there])
                  | folder => exact .folder fits there (shorter walked)
                  | link target =>
                      dsimp only at walked
                      by_cases stays : rest = [] ∧ ¬ follow = true
                      · rw [if_pos stays] at walked
                        cases walked
                        obtain ⟨rfl, still⟩ := stays
                        exact .last fits (by simp [there]) fun _ _ => Bool.eq_false_iff.mpr still
                      · rw [if_neg stays] at walked
                        cases links with
                        | zero => cases walked
                        | succ links =>
                            exact .link fits there stays
                              (fewer links (Nat.lt_succ_self links) walked)

/-! ## Walks that lead on -/

/-- A walk that leads to something leads there as well on a disk that has at least as much. -/
theorem Disk.Leads.mono (leads : disk.Leads follow links base steps place)
    (there : disk.get? place = some entry)
    (more : ∀ place entry, disk.get? place = some entry → larger.get? place = some entry) :
    larger.Leads follow links base steps place := by
  induction leads with
  | done => exact .done
  | root onward ih => exact .root (ih there)
  | here onward ih => exact .here (ih there)
  | up onward ih => exact .up (ih there)
  | folder fits between onward ih => exact .folder fits (more _ _ between) (ih there)
  | last fits other kept =>
      have same := more _ _ there
      refine .last fits ?_ fun target link => kept target ?_
      · rwa [same, ← there]
      · rwa [there, ← same]
  | link fits between followed onward ih =>
      exact .link fits (more _ _ between) followed (ih there)

/-- A slash at the end may be left out. -/
theorem Disk.Leads.of_slash {xs : List Component}
    (leads : disk.Leads true links base (xs ++ [.here]) place) :
    disk.Leads true links base xs place := by
  generalize slash : xs ++ [.here] = steps at leads
  induction leads generalizing xs with
  | done => cases List.append_ne_nil_of_right_ne_nil xs (List.cons_ne_nil _ _) slash
  | here onward ih =>
      rcases List.append_eq_cons_iff.mp slash with ⟨rfl, only⟩ | ⟨xs, rfl, ends⟩
      · cases only
        cases onward
        exact .done
      · exact .here (ih ends.symm)
  | root onward ih =>
      rcases List.append_eq_cons_iff.mp slash with ⟨rfl, only⟩ | ⟨xs, rfl, ends⟩
      · cases only
      · exact .root (ih ends.symm)
  | up onward ih =>
      rcases List.append_eq_cons_iff.mp slash with ⟨rfl, only⟩ | ⟨xs, rfl, ends⟩
      · cases only
      · exact .up (ih ends.symm)
  | folder fits between onward ih =>
      rcases List.append_eq_cons_iff.mp slash with ⟨rfl, only⟩ | ⟨xs, rfl, ends⟩
      · cases only
      · exact .folder fits between (ih ends.symm)
  | last fits other kept =>
      rcases List.append_eq_cons_iff.mp slash with ⟨rfl, only⟩ | ⟨xs, rfl, ends⟩
      · cases only
      · cases List.append_ne_nil_of_right_ne_nil xs (List.cons_ne_nil _ _) ends.symm
  | link fits between followed onward ih =>
      rcases List.append_eq_cons_iff.mp slash with ⟨rfl, only⟩ | ⟨xs, rfl, rfl⟩
      · cases only
      · exact .link fits between (fun stays => stays.2 rfl) (ih (List.append_assoc ..))

/-- A walk whose last step is a name ends well only when the name fits. -/
theorem Disk.Leads.fits_last {before : List Component}
    (leads : disk.Leads follow links base (before ++ [.name part]) place) : Disk.Fits part := by
  generalize ends : before ++ [.name part] = steps at leads
  induction leads generalizing before with
  | done => cases List.append_ne_nil_of_right_ne_nil before (List.cons_ne_nil _ _) ends
  | root onward ih | here onward ih | up onward ih =>
      rcases List.append_eq_cons_iff.mp ends with ⟨-, only⟩ | ⟨before, -, rest⟩
      · cases only
      · exact ih rest.symm
  | folder fits there onward ih =>
      rcases List.append_eq_cons_iff.mp ends with ⟨-, only⟩ | ⟨before, -, rest⟩
      · cases only
        exact fits
      · exact ih rest.symm
  | last fits other kept =>
      rcases List.append_eq_cons_iff.mp ends with ⟨-, only⟩ | ⟨before, -, rest⟩
      · cases only
        exact fits
      · cases List.append_ne_nil_of_right_ne_nil before (List.cons_ne_nil _ _) rest.symm
  | @link links base place part' rest target fits there followed onward ih =>
      rcases List.append_eq_cons_iff.mp ends with ⟨-, only⟩ | ⟨before, -, rest⟩
      · cases only
        exact fits
      · -- the steps of the link come first, so the name is still the last one
        refine ih (?_ : (Disk.stepsOf target.toList ++ before) ++ [.name part] = _)
        rw [List.append_assoc, rest]

/-- One name more leads to the child of a folder. -/
theorem Disk.Leads.child (leads : disk.Leads true links base steps place)
    (folder : disk.get? place = some .folder) (fits : Disk.Fits part) :
    disk.Leads false links base (steps ++ [.name part]) (place ++ [String.ofList part]) := by
  induction leads with
  | @done links base =>
      by_cases there : disk.get? (base ++ [String.ofList part]) = some .folder
      · exact .folder fits there .done
      · exact .last fits there fun _ _ => rfl
  | root onward ih => exact .root (ih folder)
  | here onward ih => exact .here (ih folder)
  | up onward ih => exact .up (ih folder)
  | folder between there onward ih => exact .folder between there (ih folder)
  | last between other kept => exact absurd folder other
  | link between there followed onward ih =>
      have onward := ih folder
      rw [List.append_assoc] at onward
      refine .link between there ?_ onward
      rintro ⟨none, -⟩
      exact List.append_ne_nil_of_right_ne_nil _ (List.cons_ne_nil _ _) none

/-! ## Joined paths -/

/-- The step that a part between slashes is. -/
def Disk.stepOf (part : List Char) : Component :=
  if part = [] ∨ part = ['.'] then .here else if part = ['.', '.'] then .up else .name part

theorem Disk.stepOf_name (step : Path.ofPart? part = some (.name part)) :
    Disk.stepOf part = .name part := by
  unfold Path.ofPart? at step
  unfold Disk.stepOf
  split at step
  · cases step
  · next visible =>
      rw [if_neg visible]
      split at step
      · cases step
      · next other => exact if_neg other

/-- The steps before what stands behind a slash. -/
def Disk.stepsBefore (base : List Char) : List Component :=
  (if (base ++ ['/']).head? = some '/' then [.root] else []) ++
    (Path.splitSlashes base).map Disk.stepOf

theorem Disk.stepsOf_append (base more : List Char) :
    Disk.stepsOf (base ++ '/' :: more) =
      Disk.stepsBefore base ++ (Path.splitSlashes more).map Disk.stepOf := by
  have first : (base ++ '/' :: more).head? = (base ++ ['/']).head? := by
    rw [List.head?_append, List.head?_append]
    rfl
  rw [Disk.stepsOf, first, Path.splitSlashes_append, List.map_append, ← List.append_assoc]
  rfl

theorem Disk.stepsOf_of_ne_nil {base : List Char} (started : base ≠ []) :
    Disk.stepsOf base = Disk.stepsBefore base := by
  cases base with
  | nil => exact absurd rfl started
  | cons c rest => rfl

/-- The name of a child is one step more, in place of a slash at the end if there is one. -/
theorem Disk.stepsOf_join (spelled : path.text ≠ "") (slashless : '/' ∉ name.toList)
    (step : Path.ofPart? name.toList = some (.name name.toList)) : ∃ before,
      (Disk.stepsOf path.text.toList = before ∨
        Disk.stepsOf path.text.toList = before ++ [.here]) ∧
      Disk.stepsOf (path.join name).text.toList = before ++ [.name name.toList] := by
  have relative : ¬ Path.Absolute name := fun absolute =>
    slashless (List.mem_of_head? absolute)
  obtain ⟨base, ends, text⟩ := Path.toList_join spelled relative
  refine ⟨Disk.stepsBefore base, ?_, ?_⟩
  · rcases ends with slash | ⟨started, same⟩
    · rw [slash, Disk.stepsOf_append]
      exact .inr rfl
    · rw [same]
      exact .inl (Disk.stepsOf_of_ne_nil started)
  · rw [text, Disk.stepsOf_append, Path.splitSlashes_of_slashless slashless, List.map_cons,
      Disk.stepOf_name step]
    rfl

theorem Disk.find_eq_ok {found : Entry} :
    disk.find follow path = .ok (place, found) ↔
      disk.resolve follow path = .ok place ∧ disk.get? place = some found := by
  cases resolved : disk.resolve follow path with
  | error fault =>
      rw [Disk.find_of_error resolved]
      exact iff_of_false nofun fun both => nomatch both.1
  | ok there =>
      rw [Disk.find_of_ok resolved]
      cases here : disk.get? there with
      | none =>
          refine iff_of_false nofun fun both => ?_
          rw [Except.ok.inj both.1] at here
          cases here.symm.trans both.2
      | some entry =>
          constructor
          · intro same
            cases same
            exact ⟨rfl, here⟩
          · rintro ⟨same, there⟩
            cases same
            cases here.symm.trans there
            rfl

theorem Disk.leads_of_resolve (resolved : disk.resolve follow path = .ok place) :
    path.text ≠ "" ∧ path.text.utf8ByteSize < 4096 ∧
      disk.Leads follow Disk.mostLinks [] (Disk.stepsOf path.text.toList) place := by
  unfold Disk.resolve at resolved
  split at resolved
  · cases resolved
  · next spelled =>
      split at resolved
      · cases resolved
      · next long => exact ⟨spelled, Nat.not_le.mp long, Disk.leads_of_walk resolved⟩

theorem Disk.resolve_of_leads (spelled : path.text ≠ "") (long : path.text.utf8ByteSize < 4096)
    (leads : disk.Leads follow Disk.mostLinks [] (Disk.stepsOf path.text.toList) place) :
    disk.resolve follow path = .ok place := by
  rw [Disk.resolve, if_neg spelled, if_neg (Nat.not_le.mpr long)]
  exact leads.walk

/-- What a path leads to, it leads to on every disk that has at least as much. -/
theorem Disk.find_mono (found : disk.find follow path = .ok (place, entry))
    (more : ∀ place entry, disk.get? place = some entry → larger.get? place = some entry) :
    larger.find follow path = .ok (place, entry) := by
  obtain ⟨resolved, there⟩ := Disk.find_eq_ok.mp found
  obtain ⟨spelled, long, leads⟩ := Disk.leads_of_resolve resolved
  exact Disk.find_eq_ok.mpr
    ⟨Disk.resolve_of_leads spelled long (leads.mono there more), more _ _ there⟩

/-- A child of a folder is found under its name by any path that leads to the folder, unless that
makes the path too long. -/
theorem Disk.resolve_child (found : disk.find true path = .ok (root, .folder))
    (named : Disk.IsName name.toList) :
    disk.resolve false (path.join name) =
      if 4096 ≤ (path.join name).text.utf8ByteSize then .error .nameTooLong
      else .ok (root ++ [name]) := by
  obtain ⟨resolved, folder⟩ := Disk.find_eq_ok.mp found
  obtain ⟨spelled, -, leads⟩ := Disk.leads_of_resolve resolved
  obtain ⟨before, steps, joined⟩ := Disk.stepsOf_join spelled named.slashless named.step
  have leads : disk.Leads true Disk.mostLinks [] before root := by
    rcases steps with same | slash
    · rwa [same] at leads
    · rw [slash] at leads
      exact leads.of_slash
  have child := (leads.child folder named.toFits).walk
  rw [String.ofList_toList] at child
  rw [Disk.resolve, if_neg (Path.join_ne_empty spelled), joined, child]

/-- A name joined to a path that leads to a folder means a child of the folder, or nothing where the
name or the path is too much for the disk. -/
theorem Disk.resolve_child_iff (found : disk.find true path = .ok (root, .folder))
    (slashless : '/' ∉ name.toList) (step : Path.ofPart? name.toList = some (.name name.toList)) :
    disk.resolve false (path.join name) = .ok place ↔
      place = root ++ [name] ∧ Disk.Fits name.toList ∧
        (path.join name).text.utf8ByteSize < 4096 := by
  constructor
  · intro resolved
    obtain ⟨-, short, leads⟩ := Disk.leads_of_resolve resolved
    have fits : Disk.Fits name.toList := by
      have spelled := (Disk.leads_of_resolve (Disk.find_eq_ok.mp found).1).1
      obtain ⟨before, -, joined⟩ := Disk.stepsOf_join spelled slashless step
      rw [joined] at leads
      exact leads.fits_last
    have child := Disk.resolve_child found ⟨fits, slashless, step⟩
    rw [resolved, if_neg (Nat.not_le.mpr short)] at child
    exact ⟨Except.ok.inj child, fits, short⟩
  · rintro ⟨rfl, fits, short⟩
    rw [Disk.resolve_child found ⟨fits, slashless, step⟩, if_neg (Nat.not_le.mpr short)]

/-! ## Children that are gone, and what others lost -/

/-- A place is one of some children of a folder, or below one. -/
def Disk.Below (root : Location) (names : List String) (place : Location) : Prop :=
  ∃ name ∈ names, root ++ [name] <+: place

instance (root : Location) (names : List String) (place : Location) :
    Decidable (Disk.Below root names place) :=
  inferInstanceAs (Decidable (∃ name ∈ names, root ++ [name] <+: place))

/-- A place is below one of some children of a folder, and is not kept. -/
def Disk.Lost (keeps : Location → Bool) (root : Location) (names : List String)
    (place : Location) : Prop :=
  ∃ name ∈ names, root ++ [name] <+: place ∧ place ≠ root ++ [name] ∧ keeps place = false

instance (keeps : Location → Bool) (root : Location) (names : List String) (place : Location) :
    Decidable (Disk.Lost keeps root names place) :=
  inferInstanceAs (Decidable
    (∃ name ∈ names, root ++ [name] <+: place ∧ place ≠ root ++ [name] ∧ keeps place = false))

/-- The disk once some children of a folder are gone with all they held, and others have lost what is
not kept of theirs. -/
def Disk.cleaned (disk : Disk) (keeps : Location → Bool) (root : Location)
    (gone left : List String) : Disk :=
  ⟨disk.entries.filter fun pair =>
    ¬ (Disk.Below root gone pair.1 ∨ Disk.Lost keeps root left pair.1)⟩

theorem Disk.not_below_nil : ¬ Disk.Below root names [] := by
  rintro ⟨name, -, top⟩
  exact List.append_ne_nil_of_right_ne_nil root (List.cons_ne_nil _ _) (List.prefix_nil.mp top)

theorem Disk.Lost.below (lost : Disk.Lost keeps root names place) : Disk.Below root names place := by
  obtain ⟨name, listed, child, -⟩ := lost
  exact ⟨name, listed, child⟩

/-- What is gone or lost is not there any more, and all else is as it was. -/
theorem Disk.get?_cleaned :
    (disk.cleaned keeps root gone left).get? place =
      if Disk.Below root gone place ∨ Disk.Lost keeps root left place then none
      else disk.get? place := by
  by_cases top : place = []
  · subst top
    rw [if_neg (not_or.mpr ⟨Disk.not_below_nil, fun lost => Disk.not_below_nil lost.below⟩)]
    rfl
  · have kept := lookup_filter
      (fun place => ¬ (Disk.Below root gone place ∨ Disk.Lost keeps root left place)) place
      disk.entries
    rw [Disk.get?, Disk.get?, if_neg top, if_neg top]
    refine kept.trans ?_
    by_cases taken : Disk.Below root gone place ∨ Disk.Lost keeps root left place <;> simp [taken]

/-- Whatever is still there was there before. -/
theorem Disk.get?_of_cleaned (there : (disk.cleaned keeps root gone left).get? place = some entry) :
    disk.get? place = some entry := by
  rw [Disk.get?_cleaned] at there
  exact (Option.ite_none_left_eq_some.mp there).2

theorem Disk.below_child : Disk.Below root names (root ++ [name]) ↔ name ∈ names := by
  constructor
  · rintro ⟨other, listed, child⟩
    have same := (List.cons_prefix_cons.mp ((List.prefix_append_right_inj root).mp child)).1
    exact same ▸ listed
  · exact fun listed => ⟨name, listed, List.prefix_refl _⟩

/-- A child itself is not lost. -/
theorem Disk.not_lost_child : ¬ Disk.Lost keeps root names (root ++ [name]) := by
  rintro ⟨other, -, child, apart, -⟩
  have same := (List.cons_prefix_cons.mp ((List.prefix_append_right_inj root).mp child)).1
  exact apart (by rw [same])

theorem Disk.below_append {more : List String} :
    Disk.Below root (names ++ more) place ↔
      Disk.Below root names place ∨ Disk.Below root more place := by
  simp only [Disk.Below, List.mem_append, or_and_right, exists_or]

theorem Disk.lost_append {more : List String} :
    Disk.Lost keeps root (names ++ more) place ↔
      Disk.Lost keeps root names place ∨ Disk.Lost keeps root more place := by
  simp only [Disk.Lost, List.mem_append, or_and_right, exists_or]

theorem Disk.cleaned_nil : disk.cleaned keeps root [] [] = disk := by
  have kept : (disk.entries.filter fun pair =>
      ¬ (Disk.Below root [] pair.1 ∨ Disk.Lost keeps root [] pair.1)) = disk.entries :=
    List.filter_eq_self.mpr fun pair _ => by simp [Disk.Below, Disk.Lost]
  exact congrArg Disk.mk kept

theorem Disk.cleaned_cleaned (more other : List String) :
    (disk.cleaned keeps root gone left).cleaned keeps root more other =
      disk.cleaned keeps root (gone ++ more) (left ++ other) := by
  refine congrArg Disk.mk (List.filter_filter.trans (List.filter_congr fun pair _ => ?_))
  simp only [Disk.below_append, Disk.lost_append, not_or, Bool.decide_and]
  ac_rfl

/-- Of the children that go one may go first. -/
theorem Disk.cleaned_cons_gone : disk.cleaned keeps root (name :: gone) left =
    (disk.cleaned keeps root [name] []).cleaned keeps root gone left := by
  rw [Disk.cleaned_cleaned, List.singleton_append, List.nil_append]

/-- Of the children that lose something one may do so first. -/
theorem Disk.cleaned_cons_left : disk.cleaned keeps root gone (name :: left) =
    (disk.cleaned keeps root [] [name]).cleaned keeps root gone left := by
  rw [Disk.cleaned_cleaned, List.singleton_append, List.nil_append]

/-! ## A child that is emptied -/

/-- A child whose deletion breaks off loses what is not kept. -/
theorem Disk.thin_child :
    disk.thin (root ++ [name]) keeps = disk.cleaned keeps root [] [name] := by
  refine congrArg Disk.mk (List.filter_congr fun pair _ => ?_)
  simp [Disk.Below, Disk.Lost]

theorem Disk.get?_eraseBelow :
    (disk.eraseBelow root).get? place =
      if root <+: place ∧ place ≠ root ∧ place ≠ [] then none else disk.get? place := by
  by_cases top : place = []
  · subst top
    rw [if_neg fun all => all.2.2 rfl]
    rfl
  · have kept := lookup_filter (fun place => ¬ (root <+: place ∧ place ≠ root)) place disk.entries
    rw [Disk.get?, Disk.get?, if_neg top, if_neg top]
    refine kept.trans ?_
    by_cases inside : root <+: place ∧ place ≠ root <;> simp [inside, top]

/-- A child that has lost what it held, and is then gone itself, is gone with all it held. -/
theorem Disk.erase_eraseBelow_child :
    (disk.eraseBelow (root ++ [name])).erase (root ++ [name]) =
      disk.cleaned keeps root [name] [] := by
  refine congrArg Disk.mk (List.filter_filter.trans (List.filter_congr fun pair _ => ?_))
  by_cases same : pair.1 = root ++ [name] <;> simp [Disk.Below, Disk.Lost, same]

/-- A path that does without a child does without what the child holds. -/
theorem Disk.find_eraseBelow_child
    (still : (disk.cleaned keeps root [name] []).find true path = .ok (place, entry)) :
    (disk.eraseBelow (root ++ [name])).find true path = .ok (place, entry) := by
  refine Disk.find_mono still fun place entry there => ?_
  rw [Disk.get?_cleaned] at there
  obtain ⟨apart, there⟩ := Option.ite_none_left_eq_some.mp there
  have outside : ¬ root ++ [name] <+: place := fun child =>
    apart (.inl ⟨name, List.mem_singleton_self _, child⟩)
  rw [Disk.get?_eraseBelow, if_neg fun all => outside all.1]
  exact there

/-- The name of a child of a folder. -/
def Disk.childName? (root place : Location) : Option String :=
  match root.isPrefixOf? place with
  | some [name] => some name
  | _ => none

theorem Disk.childName?_eq_some :
    Disk.childName? root place = some name ↔ place = root ++ [name] := by
  unfold Disk.childName?
  constructor
  · intro named
    split at named
    · next child below =>
        cases named
        exact (List.isPrefixOf?_eq_some_iff_append_eq.mp below).symm
    · cases named
  · rintro rfl
    rw [List.isPrefixOf?_eq_some_iff_append_eq.mpr rfl]

theorem Disk.namesIn_eq : disk.namesIn root =
    disk.entries.filterMap fun pair => Disk.childName? root pair.1 := rfl

theorem Disk.mem_namesIn :
    name ∈ disk.namesIn root ↔ root ++ [name] ∈ disk.entries.map Prod.fst := by
  simp only [Disk.namesIn_eq, List.mem_filterMap, Disk.childName?_eq_some, List.mem_map]

theorem Disk.Sound.nodup_namesIn (sound : disk.Sound) (root : Location) :
    (disk.namesIn root).Nodup := by
  refine (List.pairwise_map.mp sound.once).filterMap _ fun pair other apart => ?_
  rintro name child name' child' rfl
  exact apart ((Disk.childName?_eq_some.mp child).trans (Disk.childName?_eq_some.mp child').symm)

theorem Disk.Sound.isName (sound : disk.Sound) (listed : name ∈ disk.namesIn root) :
    Disk.IsName name.toList :=
  sound.named _ (Disk.mem_namesIn.mp listed) name (List.mem_append_right _ List.mem_cons_self)

/-! ## Obsolete children -/

section Obsolete

variable {staging : Path} {recency : Span} {now : Instant}

theorem JobDir.isOutdated_iff {created : Int}
    (born : (JobDir.id? name).bind TimeId.unixMillis? = some created) :
    JobDir.IsOutdated name recency now ↔ (recency.millis : Int) < now.millis - created := by
  rw [JobDir.IsOutdated, born]

theorem Disk.list_of_find (found : disk.find true staging = .ok (root, .folder)) :
    disk.list staging = .ok (disk.namesIn root) := by
  rw [Disk.list, found]
  rfl

/-- A child of the staging directory is obsolete as long as it stands there as a folder whose name
is outdated. -/
theorem Disk.isObsolete_child (found : disk.find true staging = .ok (root, .folder))
    (named : Disk.IsName name.toList) :
    disk.IsObsolete (staging.join name) recency now ↔
      (staging.join name).text.utf8ByteSize < 4096 ∧
        disk.get? (root ++ [name]) = some .folder ∧ JobDir.IsOutdated name recency now := by
  have spelled := (Disk.leads_of_resolve (Disk.find_eq_ok.mp found).1).1
  have last := Path.fileName?_join spelled named.slashless named.step
  have resolved := Disk.resolve_child found named
  unfold Disk.IsObsolete
  rw [last]
  by_cases long : 4096 ≤ (staging.join name).text.utf8ByteSize
  · rw [if_pos long] at resolved
    rw [Disk.entryAt?_of_error resolved]
    exact iff_of_false id fun all => absurd all.1 (Nat.not_lt.mpr long)
  · rw [if_neg long] at resolved
    rw [Disk.entryAt?_of_ok resolved]
    cases there : disk.get? (root ++ [name]) with
    | none => exact iff_of_false id fun all => nomatch all.2.1
    | some entry =>
        cases entry with
        | folder =>
            exact ⟨fun both => ⟨Nat.not_le.mp long, rfl, both.2⟩, fun all => ⟨trivial, all.2.2⟩⟩
        | file bytes => exact iff_of_false (fun both => both.1) fun all => nomatch all.2.1
        | link target => exact iff_of_false (fun both => both.1) fun all => nomatch all.2.1

theorem Disk.find_child (found : disk.find true staging = .ok (root, .folder))
    (named : Disk.IsName name.toList) (obsolete : disk.IsObsolete (staging.join name) recency now) :
    disk.find false (staging.join name) = .ok (root ++ [name], .folder) := by
  obtain ⟨short, there, -⟩ := (Disk.isObsolete_child found named).mp obsolete
  have resolved := Disk.resolve_child found named
  rw [if_neg (Nat.not_le.mpr short)] at resolved
  exact Disk.find_eq_ok.mpr ⟨resolved, there⟩

/-- An obsolete child is deleted with all it holds, if the path of the staging directory does not
lead through what it holds. -/
theorem Disk.dropFolder_child (found : disk.find true staging = .ok (root, .folder))
    (emptied : (disk.eraseBelow (root ++ [name])).find true staging = .ok (root, .folder))
    (named : Disk.IsName name.toList) (obsolete : disk.IsObsolete (staging.join name) recency now) :
    disk.dropFolder (staging.join name) = .ok (disk.cleaned keeps root [name] []) := by
  obtain ⟨short, -⟩ := (Disk.isObsolete_child found named).mp obsolete
  have again := Disk.resolve_child emptied named
  rw [if_neg (Nat.not_le.mpr short)] at again
  rw [Disk.dropFolder, Disk.find_child found named obsolete, ← Disk.erase_eraseBelow_child]
  simp only [bind, Except.bind, again]

section Delete

variable {trouble : Trouble} (found : disk.find true staging = .ok (root, .folder))
  (named : Disk.IsName name.toList) (obsolete : disk.IsObsolete (staging.join name) recency now)

include found named obsolete

theorem Trouble.delete_child (granted : trouble.refuses (staging.join name) = false)
    (emptied : (disk.eraseBelow (root ++ [name])).find true staging = .ok (root, .folder)) :
    trouble.delete disk (staging.join name) = (disk.cleaned trouble.keeps root [name] [], true) := by
  have dropped := @Disk.dropFolder_child disk root name trouble.keeps staging recency now found
    emptied named obsolete
  rw [Trouble.delete, granted, dropped]
  rfl

theorem Trouble.delete_child_refused (refused : trouble.refuses (staging.join name) = true) :
    trouble.delete disk (staging.join name) =
      (disk.cleaned trouble.keeps root [] [name], false) := by
  rw [Trouble.delete, if_pos refused, Disk.find_child found named obsolete, ← Disk.thin_child]

end Delete

/-- Whether a child is obsolete does not depend on other children, nor on what it holds, as long as
there is a way to the staging directory. -/
theorem Disk.isObsolete_cleaned (found : disk.find true staging = .ok (root, .folder))
    (still : (disk.cleaned keeps root gone left).find true staging = .ok (root, .folder))
    (named : Disk.IsName name.toList) (stays : name ∉ gone) :
    (disk.cleaned keeps root gone left).IsObsolete (staging.join name) recency now ↔
      disk.IsObsolete (staging.join name) recency now := by
  rw [Disk.isObsolete_child found named, Disk.isObsolete_child still named, Disk.get?_cleaned,
    if_neg (not_or.mpr ⟨mt Disk.below_child.mp stays, Disk.not_lost_child⟩)]

theorem Disk.find_of_cleaned
    (still : (disk.cleaned keeps root gone left).find true staging = .ok (root, .folder)) :
    disk.find true staging = .ok (root, .folder) :=
  Disk.find_mono still fun _ _ => Disk.get?_of_cleaned

end Obsolete

end Restage
