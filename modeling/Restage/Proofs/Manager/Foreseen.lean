import Restage.Proofs.Disk.Children
import Restage.Proofs.Manager.Moves

/-!
# What a sweep comes to

A sweep looks at the children of the staging directory one after the other, and by the path of that
directory each time. As long as the path leads to it when all that goes is gone, no deletion is in
the way of another one (`Disk.isObsolete_cleaned`), so what the sweep does can be foreseen when it
begins: which children it deletes (`Sweep.doomed`), which deletions break off (`Sweep.spared`) and
which paths it notes (`Sweep.notes`). `Sweep.visited_entry` says so of one entry, and
`Sweep.visited` is the induction over all of them.
-/

namespace Restage

variable {disk : Disk} {root : Location} {name : String} {gone left : List String}
  {entries : List (Option String)} {recency : Span} {now : Instant} {trouble : Trouble}
  {sweep last : Sweep} {home : Instance}

/-! ## Visits -/

section Foreseen

variable (trouble : Trouble) (now : Instant) (home : Instance) (recency : Span) (disk : Disk)
  (entries : List (Option String))

/-- The obsolete ones of some children, for those that are read, whose deletion does not break
off. -/
def Sweep.doomed : List String :=
  (entries.filterMap id).filter fun name =>
    disk.IsObsolete (home.stagingDir.join name) recency now ∧
      trouble.refuses (home.stagingDir.join name) = false

/-- The obsolete ones of some children, for those that are read, whose deletion breaks off. -/
def Sweep.spared : List String :=
  (entries.filterMap id).filter fun name =>
    disk.IsObsolete (home.stagingDir.join name) recency now ∧
      trouble.refuses (home.stagingDir.join name) = true

/-- What is noted of an entry: the staging directory when it cannot be read, and its own path when
its deletion breaks off. -/
def Sweep.note? : Option String → Option Path
  | none => some home.stagingDir
  | some name =>
      if disk.IsObsolete (home.stagingDir.join name) recency now ∧
        trouble.refuses (home.stagingDir.join name) = true
      then some (home.stagingDir.join name)
      else none

/-- What is noted of some entries, in their order. -/
def Sweep.notes : List Path := entries.filterMap (note? trouble now home recency disk)

end Foreseen

/-- What becomes of a sweep that comes to some entries. -/
structure Sweep.Visited (trouble : Trouble) (now : Instant) (home : Instance) (recency : Span)
    (root : Location) (entries : List (Option String)) (sweep last : Sweep) : Prop where
  disk : last.disk =
    sweep.disk.cleaned trouble.keeps root (doomed trouble now home recency sweep.disk entries)
      (spared trouble now home recency sweep.disk entries)
  deleted : last.deleted =
    sweep.deleted + (doomed trouble now home recency sweep.disk entries).length
  refused : last.refused = sweep.refused ++ notes trouble now home recency sweep.disk entries
  cleared : clears trouble now home recency sweep.disk entries =
    (doomed trouble now home recency sweep.disk entries).filterMap JobDir.id?

theorem Sweep.forget_disk (sweep : Sweep) (name : String) :
    (sweep.forget name).disk = sweep.disk ∧ (sweep.forget name).deleted = sweep.deleted ∧
      (sweep.forget name).refused = sweep.refused ∧
      (sweep.forget name).manager.home = sweep.manager.home ∧
      (sweep.forget name).manager.recency = sweep.manager.recency := by
  rw [Sweep.forget]
  split
  · exact ⟨rfl, rfl, rfl, rfl, rfl⟩
  · obtain ⟨home, recency⟩ := sweep.manager.removeJob_home sweep.floor _
    exact ⟨rfl, rfl, rfl, home, recency⟩

theorem Sweep.forget_unknown {job : TimeId} (decoded : JobDir.id? name = some job)
    (unknown : sweep.manager.tracker? job = none) : sweep.forget name = sweep := by
  rw [Sweep.forget, decoded]
  simp only [Manager.removeJob_of_unknown unknown]

theorem Sweep.visit_current
    (current : ¬ sweep.disk.IsObsolete (sweep.manager.home.stagingDir.join name)
      sweep.manager.recency now) : sweep.visit trouble now (some name) = sweep := if_neg current

section Obsolete

variable (found : sweep.disk.find true sweep.manager.home.stagingDir = .ok (root, .folder))
  (fit : Disk.IsName name.toList)
  (obsolete : sweep.disk.IsObsolete (sweep.manager.home.stagingDir.join name)
    sweep.manager.recency now)

include found fit obsolete

theorem Sweep.visit_refused
    (refused : trouble.refuses (sweep.manager.home.stagingDir.join name) = true) :
    sweep.visit trouble now (some name) =
      { sweep with disk := sweep.disk.cleaned trouble.keeps root [] [name] }.note
        (sweep.manager.home.stagingDir.join name) := by
  rw [Sweep.visit]
  simp only [if_pos obsolete, Trouble.delete_child_refused found fit obsolete refused]

theorem Sweep.visit_deleted
    (granted : trouble.refuses (sweep.manager.home.stagingDir.join name) = false)
    (emptied : (sweep.disk.eraseBelow (root ++ [name])).find true sweep.manager.home.stagingDir =
      .ok (root, .folder)) :
    sweep.visit trouble now (some name) =
      { sweep with
        disk := sweep.disk.cleaned trouble.keeps root [name] []
        deleted := sweep.deleted + 1 }.forget name := by
  rw [Sweep.visit]
  simp only [if_pos obsolete, Trouble.delete_child found fit obsolete granted emptied]

end Obsolete

theorem Sweep.visit_home (sweep : Sweep) (entry : Option String) :
    (sweep.visit trouble now entry).manager.home = sweep.manager.home ∧
      (sweep.visit trouble now entry).manager.recency = sweep.manager.recency := by
  cases entry with
  | none => exact ⟨rfl, rfl⟩
  | some name =>
      rw [Sweep.visit]
      split
      · split
        · exact (Sweep.forget_disk _ name).2.2.2
        · exact ⟨rfl, rfl⟩
      · exact ⟨rfl, rfl⟩

theorem Sweep.clears_cons (sweep : Sweep) (entry : Option String) :
    clears trouble now sweep.manager.home sweep.manager.recency sweep.disk (entry :: entries) =
      clears trouble now sweep.manager.home sweep.manager.recency sweep.disk [entry] ++
        clears trouble now sweep.manager.home sweep.manager.recency
          (sweep.visit trouble now entry).disk entries := by
  cases entry with
  | none => rfl
  | some name =>
      rw [clears, clears, Sweep.visit]
      by_cases obsolete : sweep.disk.IsObsolete (sweep.manager.home.stagingDir.join name)
          sweep.manager.recency now
      · simp only [if_pos obsolete]
        rcases trouble.delete sweep.disk (sweep.manager.home.stagingDir.join name) with
          ⟨disk, _ | _⟩
        · rfl
        · rw [(Sweep.forget_disk _ name).1, List.append_assoc]
          rfl
      · simp only [if_neg obsolete]
        rfl

/-! ## What is foreseen -/

/-- What becomes of a child does not change what is to become of others. -/
theorem Sweep.foreseen_cleaned (found : disk.find true home.stagingDir = .ok (root, .folder))
    (still : (disk.cleaned trouble.keeps root gone left).find true home.stagingDir =
      .ok (root, .folder))
    (named : ∀ other ∈ entries.filterMap id, Disk.IsName other.toList)
    (apart : ∀ other ∈ entries.filterMap id, other ∉ gone) :
    doomed trouble now home recency (disk.cleaned trouble.keeps root gone left) entries =
        doomed trouble now home recency disk entries ∧
      spared trouble now home recency (disk.cleaned trouble.keeps root gone left) entries =
        spared trouble now home recency disk entries ∧
      notes trouble now home recency (disk.cleaned trouble.keeps root gone left) entries =
        notes trouble now home recency disk entries := by
  have same : ∀ other ∈ entries.filterMap id,
      ((disk.cleaned trouble.keeps root gone left).IsObsolete (home.stagingDir.join other) recency
        now ↔ disk.IsObsolete (home.stagingDir.join other) recency now) := fun other listed =>
    Disk.isObsolete_cleaned found still (named other listed) (apart other listed)
  refine ⟨List.filter_congr fun other listed => by simp only [same other listed],
    List.filter_congr fun other listed => by simp only [same other listed],
    List.filterMap_congr fun entry listed => ?_⟩
  cases entry with
  | none => rfl
  | some other =>
      have read : other ∈ entries.filterMap id := List.mem_filterMap.mpr ⟨some other, listed, rfl⟩
      simp only [Sweep.note?, same other read]

theorem Sweep.foreseen_current
    (current : ¬ disk.IsObsolete (home.stagingDir.join name) recency now) :
    doomed trouble now home recency disk (some name :: entries) =
        doomed trouble now home recency disk entries ∧
      spared trouble now home recency disk (some name :: entries) =
        spared trouble now home recency disk entries ∧
      notes trouble now home recency disk (some name :: entries) =
        notes trouble now home recency disk entries :=
  ⟨List.filter_cons_of_neg (by simp [current]), List.filter_cons_of_neg (by simp [current]),
    List.filterMap_cons_none (if_neg fun both => current both.1)⟩

theorem Sweep.foreseen_refused
    (obsolete : disk.IsObsolete (home.stagingDir.join name) recency now)
    (refused : trouble.refuses (home.stagingDir.join name) = true) :
    doomed trouble now home recency disk (some name :: entries) =
        doomed trouble now home recency disk entries ∧
      spared trouble now home recency disk (some name :: entries) =
        name :: spared trouble now home recency disk entries ∧
      notes trouble now home recency disk (some name :: entries) =
        home.stagingDir.join name :: notes trouble now home recency disk entries :=
  ⟨List.filter_cons_of_neg (by simp [refused]),
    List.filter_cons_of_pos (by simp [obsolete, refused]),
    List.filterMap_cons_some (if_pos ⟨obsolete, refused⟩)⟩

theorem Sweep.foreseen_granted
    (obsolete : disk.IsObsolete (home.stagingDir.join name) recency now)
    (granted : trouble.refuses (home.stagingDir.join name) = false) :
    doomed trouble now home recency disk (some name :: entries) =
        name :: doomed trouble now home recency disk entries ∧
      spared trouble now home recency disk (some name :: entries) =
        spared trouble now home recency disk entries ∧
      notes trouble now home recency disk (some name :: entries) =
        notes trouble now home recency disk entries :=
  ⟨List.filter_cons_of_pos (by simp [obsolete, granted]),
    List.filter_cons_of_neg (by simp [granted]),
    List.filterMap_cons_none (if_neg fun both => Bool.false_ne_true (granted.symm.trans both.2))⟩

theorem Sweep.foreseen_cons (entry : Option String) :
    doomed trouble now home recency disk (entry :: entries) =
        doomed trouble now home recency disk [entry] ++
          doomed trouble now home recency disk entries ∧
      spared trouble now home recency disk (entry :: entries) =
        spared trouble now home recency disk [entry] ++
          spared trouble now home recency disk entries ∧
      notes trouble now home recency disk (entry :: entries) =
        notes trouble now home recency disk [entry] ++
          notes trouble now home recency disk entries := by
  rw [← List.singleton_append]
  simp only [doomed, spared, notes, List.filterMap_append, List.filter_append, and_self]

/-! ## Entries one after the other -/

/-- A sweep that comes to an entry does what was foreseen of it. -/
theorem Sweep.visited_entry {entry : Option String}
    (named : ∀ name ∈ [entry].filterMap id, Disk.IsName name.toList)
    (still : (sweep.disk.cleaned trouble.keeps root
      (doomed trouble now sweep.manager.home sweep.manager.recency sweep.disk [entry])
      (spared trouble now sweep.manager.home sweep.manager.recency sweep.disk [entry])).find true
      sweep.manager.home.stagingDir = .ok (root, .folder)) :
    Visited trouble now sweep.manager.home sweep.manager.recency root [entry] sweep
      (sweep.visit trouble now entry) := by
  have found := Disk.find_of_cleaned still
  cases entry with
  | none => exact ⟨Disk.cleaned_nil.symm, rfl, rfl, rfl⟩
  | some name =>
      have fit := named name List.mem_cons_self
      by_cases obsolete : sweep.disk.IsObsolete (sweep.manager.home.stagingDir.join name)
          sweep.manager.recency now
      · cases answer : trouble.refuses (sweep.manager.home.stagingDir.join name) with
        | true =>
            obtain ⟨gone, left, noted⟩ := @Sweep.foreseen_refused sweep.disk name []
              sweep.manager.recency now trouble sweep.manager.home obsolete answer
            rw [Sweep.visit_refused found fit obsolete answer]
            refine ⟨?_, ?_, ?_, ?_⟩
            · rw [gone, left]
              rfl
            · rw [gone]
              rfl
            · rw [noted]
              rfl
            · rw [gone, clears]
              simp only [if_pos obsolete, Trouble.delete_child_refused found fit obsolete answer]
              rfl
        | false =>
            obtain ⟨gone, left, noted⟩ := @Sweep.foreseen_granted sweep.disk name []
              sweep.manager.recency now trouble sweep.manager.home obsolete answer
            rw [gone, left] at still
            have emptied := Disk.find_eraseBelow_child still
            rw [Sweep.visit_deleted found fit obsolete answer emptied]
            obtain ⟨disk, deleted, refused, -⟩ := Sweep.forget_disk
              { sweep with
                disk := sweep.disk.cleaned trouble.keeps root [name] []
                deleted := sweep.deleted + 1 } name
            refine ⟨?_, ?_, ?_, ?_⟩
            · rw [disk, gone, left]
              rfl
            · rw [deleted, gone]
              rfl
            · rw [refused, noted]
              exact (List.append_nil _).symm
            · rw [gone, clears]
              simp only [if_pos obsolete, Trouble.delete_child found fit obsolete answer emptied]
              cases decoded : JobDir.id? name with
              | none => rw [List.filterMap_cons_none decoded]; rfl
              | some job => rw [List.filterMap_cons_some decoded]; rfl
      · obtain ⟨gone, left, noted⟩ := @Sweep.foreseen_current sweep.disk name []
          sweep.manager.recency now trouble sweep.manager.home obsolete
        rw [Sweep.visit_current obsolete]
        refine ⟨?_, ?_, ?_, ?_⟩
        · rw [gone, left]
          exact Disk.cleaned_nil.symm
        · rw [gone]
          rfl
        · rw [noted]
          exact (List.append_nil _).symm
        · rw [gone, clears]
          simp only [if_neg obsolete]
          rfl

/-- The sweep comes to each of some entries, and does what was foreseen when it began. -/
theorem Sweep.visited (once : (entries.filterMap id).Nodup)
    (named : ∀ name ∈ entries.filterMap id, Disk.IsName name.toList)
    (stays : sweep.manager.home = home ∧ sweep.manager.recency = recency)
    (stands : (sweep.disk.cleaned trouble.keeps root
      (doomed trouble now home recency sweep.disk entries)
      (spared trouble now home recency sweep.disk entries)).find true home.stagingDir =
      .ok (root, .folder)) :
    Visited trouble now home recency root entries sweep
      (entries.foldl (Sweep.visit trouble now) sweep) := by
  induction entries generalizing sweep with
  | nil => exact ⟨Disk.cleaned_nil.symm, rfl, (List.append_nil _).symm, rfl⟩
  | cons entry rest ih =>
      obtain ⟨rfl, rfl⟩ := stays
      rw [← List.singleton_append, List.filterMap_append] at once named
      obtain ⟨-, once, apart⟩ := List.nodup_append.mp once
      obtain ⟨gone, left, noted⟩ := @Sweep.foreseen_cons sweep.disk rest sweep.manager.recency now
        trouble sweep.manager.home entry
      rw [gone, left, ← Disk.cleaned_cleaned] at stands
      have still := Disk.find_of_cleaned stands
      have first := Sweep.visited_entry
        (fun name listed => named name (List.mem_append_left _ listed)) still
      -- What this visit takes away is nothing that the later ones need.
      obtain ⟨same_gone, same_left, same_noted⟩ := Sweep.foreseen_cleaned
        (Disk.find_of_cleaned still) still
        (fun other listed => named other (List.mem_append_right _ listed))
        (fun other listed doomed => apart other (List.mem_of_mem_filter doomed) other listed rfl)
      rw [← first.disk] at stands same_gone same_left same_noted
      rw [← same_gone, ← same_left] at stands
      obtain ⟨disk, deleted, refused, cleared⟩ := ih once
        (fun other listed => named other (List.mem_append_right _ listed))
        (Sweep.visit_home sweep entry) stands
      rw [same_gone] at disk deleted cleared
      rw [List.foldl_cons]
      refine ⟨?_, ?_, ?_, ?_⟩
      · rw [disk, same_left, first.disk, Disk.cleaned_cleaned, gone, left]
      · rw [deleted, first.deleted, gone, List.length_append, Nat.add_assoc]
      · rw [refused, same_noted, first.refused, noted, List.append_assoc]
      · rw [Sweep.clears_cons, first.cleared, cleared, gone, List.filterMap_append]

end Restage
