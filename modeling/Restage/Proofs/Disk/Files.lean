import Restage.Proofs.Disk.Children

/-!
# Files that are written by a path

A path opens a place when a file can be put there: the path leads to the place behind all links, and
no folder stands at it (`Disk.Opens`). A file that is put there does not change where any path of
that spelling leads (`Disk.Leads.put`), so it is found by the path, and a link at the end of the path
stands at a place of its own (`Disk.Leads.unfollowed`).
-/

namespace Restage

variable {disk stored : Disk} {place own other base : Location} {entry : Entry} {follow : Bool}
  {links : Nat} {steps : List Component} {path : Path} {bytes : ByteArray}

/-! ## Putting a file -/

theorem Disk.get?_put (below : place ≠ []) :
    (disk.put place entry).get? other = if other = place then some entry else disk.get? other := by
  have cleared : (disk.put place entry).get? other =
      ((disk.erase place).get? other).or ([(place, entry)].lookup other) := by
    rw [Disk.get?, Disk.get?]
    split
    · rfl
    · rw [Disk.put, List.lookup_append]
  rw [cleared]
  split
  · next same =>
      rw [same, disk.get?_erase_self below, List.lookup_cons_self]
      rfl
  · next apart =>
      rw [Disk.get?_erase_of_ne apart, List.lookup_cons, beq_false_of_ne apart, List.lookup_nil,
        Option.or_none]

/-- A file can be put at a place that a path leads to. -/
structure Disk.Opens (disk : Disk) (path : Path) (place : Location) : Prop where
  leads : disk.resolve true path = .ok place
  free : disk.get? place ≠ some .folder

theorem Disk.Opens.ne_nil (opens : disk.Opens path place) : place ≠ [] := by
  rintro rfl
  exact opens.free (if_pos rfl)

theorem Disk.putFile_eq_ok_iff : disk.putFile path bytes = .ok stored ↔
    ∃ place, disk.Opens path place ∧ stored = disk.put place (.file bytes) := by
  rw [Disk.putFile]
  cases resolved : disk.resolve true path with
  | error fault =>
      refine iff_of_false nofun ?_
      rintro ⟨place, opens, -⟩
      cases resolved.symm.trans opens.leads
  | ok place =>
      simp only [bind, Except.bind]
      constructor
      · intro put
        split at put
        · cases put
        · next free =>
            cases put
            exact ⟨place, ⟨resolved, free⟩, rfl⟩
      · rintro ⟨other, opens, rfl⟩
        obtain rfl := Except.ok.inj (resolved.symm.trans opens.leads)
        have free := opens.free
        split
        · next folder => exact absurd folder free
        · rfl

/-! ## Walks to a file -/

/-- No link stands where a walk ends that follows links, if the walk starts where folders lead to. -/
theorem Disk.Leads.not_link (leads : disk.Leads true links base steps place)
    (grounded : ∀ above, above <+: base → disk.get? above = some .folder) (target : String) :
    disk.get? place ≠ some (.link target) := by
  induction leads with
  | done =>
      rw [grounded _ (List.prefix_refl _)]
      exact nofun
  | root onward ih =>
      apply ih
      intro above top
      rw [List.prefix_nil.mp top]
      exact if_pos rfl
  | here onward ih => exact ih grounded
  | up onward ih =>
      apply ih
      intro above higher
      exact grounded above (higher.trans (List.dropLast_prefix _))
  | folder fits there onward ih =>
      apply ih
      intro above higher
      rcases List.prefix_concat_iff.mp higher with same | higher
      · rwa [same]
      · exact grounded above higher
  | last fits other kept =>
      intro there
      cases kept target there
  | link fits there followed onward ih => exact ih grounded

/-- A walk leads to where it led when a file is put where neither a folder nor a link stands. -/
theorem Disk.Leads.put (leads : disk.Leads follow links base steps own) (below : place ≠ [])
    (free : disk.get? place ≠ some .folder)
    (plain : ∀ target, disk.get? place ≠ some (.link target)) (bytes : ByteArray) :
    (disk.put place (.file bytes)).Leads follow links base steps own := by
  have kept : ∀ other, disk.get? other = some .folder ∨
      (∃ target, disk.get? other = some (.link target)) →
      (disk.put place (.file bytes)).get? other = disk.get? other := by
    intro other stands
    rw [Disk.get?_put below, if_neg]
    rintro rfl
    rcases stands with folder | ⟨target, link⟩
    · exact free folder
    · exact plain target link
  induction leads with
  | done => exact .done
  | root onward ih => exact .root ih
  | here onward ih => exact .here ih
  | up onward ih => exact .up ih
  | folder fits there onward ih =>
      exact .folder fits ((kept _ (.inl there)).trans there) ih
  | @last links base part fits other stays =>
      have either : (disk.put place (.file bytes)).get? (base ++ [String.ofList part]) =
          some (.file bytes) ∨
          (disk.put place (.file bytes)).get? (base ++ [String.ofList part]) =
            disk.get? (base ++ [String.ofList part]) := by
        rw [Disk.get?_put below]
        split
        · exact .inl rfl
        · exact .inr rfl
      rcases either with file | same
      · refine .last fits ?_ ?_ <;> simp [file]
      · rw [← same] at other stays
        exact .last fits other stays
  | link fits there followed onward ih =>
      exact .link fits ((kept _ (.inr ⟨_, there⟩)).trans there) followed ih

/-- Where a walk that follows links leads, it also leads if the last link is not followed, or else to
that link. -/
theorem Disk.Leads.unfollowed (leads : disk.Leads true links base steps place) :
    disk.Leads false links base steps place ∨
      ∃ own target, disk.Leads false links base steps own ∧
        disk.get? own = some (.link target) := by
  induction leads with
  | done => exact .inl .done
  | root onward ih =>
      rcases ih with same | ⟨own, target, onward, there⟩
      · exact .inl (.root same)
      · exact .inr ⟨own, target, .root onward, there⟩
  | here onward ih =>
      rcases ih with same | ⟨own, target, onward, there⟩
      · exact .inl (.here same)
      · exact .inr ⟨own, target, .here onward, there⟩
  | up onward ih =>
      rcases ih with same | ⟨own, target, onward, there⟩
      · exact .inl (.up same)
      · exact .inr ⟨own, target, .up onward, there⟩
  | folder fits there onward ih =>
      rcases ih with same | ⟨own, target, onward, link⟩
      · exact .inl (.folder fits there same)
      · exact .inr ⟨own, target, .folder fits there onward, link⟩
  | last fits other kept => exact .inl (.last fits other fun _ _ => rfl)
  | @link links base place part rest target fits there followed onward ih =>
      by_cases last : rest = []
      · subst last
        have other : disk.get? (base ++ [String.ofList part]) ≠ some .folder := by simp [there]
        exact .inr ⟨_, target, .last fits other fun _ _ => rfl, there⟩
      · have goes : ¬ (rest = [] ∧ ¬ false = true) := fun stays => last stays.1
        rcases ih with same | ⟨own, target, onward, link⟩
        · exact .inl (.link fits there goes same)
        · exact .inr ⟨own, target, .link fits there goes onward, link⟩

/-! ## Paths to a file -/

theorem Disk.Opens.not_link (opens : disk.Opens path place) (target : String) :
    disk.get? place ≠ some (.link target) := by
  obtain ⟨-, -, leads⟩ := Disk.leads_of_resolve opens.leads
  apply leads.not_link
  intro above top
  rw [List.prefix_nil.mp top]
  exact if_pos rfl

/-- A path leads to where it led once a file was put at the place that it opens. -/
theorem Disk.Opens.resolve_put (opens : disk.Opens path place)
    (resolved : disk.resolve follow path = .ok own) (bytes : ByteArray) :
    (disk.put place (.file bytes)).resolve follow path = .ok own := by
  obtain ⟨spelled, long, leads⟩ := Disk.leads_of_resolve resolved
  exact Disk.resolve_of_leads spelled long
    (leads.put opens.ne_nil opens.free opens.not_link bytes)

/-- What a path itself leads to is the place that it opens, or a link. -/
theorem Disk.Opens.unfollowed (opens : disk.Opens path place) :
    ∃ own, disk.resolve false path = .ok own ∧
      (own = place ∨ ∃ target, disk.get? own = some (.link target)) := by
  obtain ⟨spelled, long, leads⟩ := Disk.leads_of_resolve opens.leads
  rcases leads.unfollowed with same | ⟨own, target, leads, there⟩
  · exact ⟨place, Disk.resolve_of_leads spelled long same, .inl rfl⟩
  · exact ⟨own, Disk.resolve_of_leads spelled long leads, .inr ⟨target, there⟩⟩

/-- What was put at the place that a path opens is read back by the path. -/
theorem Disk.Opens.contentOf_put (opens : disk.Opens path place) (bytes : ByteArray) :
    (disk.put place (.file bytes)).contentOf path = .ok bytes := by
  have found : (disk.put place (.file bytes)).find true path = .ok (place, .file bytes) :=
    Disk.find_eq_ok.mpr ⟨opens.resolve_put opens.leads bytes,
      (Disk.get?_put opens.ne_nil).trans (if_pos rfl)⟩
  rw [Disk.contentOf, found]
  rfl

end Restage
