import Mathlib.Algebra.Order.Ring.Nat
import Mathlib.Data.List.Forall2
import Restage.Group
import Restage.Proofs.Manager.Sweeping

/-!
# Sweeps of a group

A group sweeps for every instance and waits for the sweeps in the order of the instances. It adds up
what they deleted and collects what they could not delete, as long as they answer with one or the
other. A sweep that answers with any other fault ends the waiting: what was collected before is not
answered, and nobody waits for the sweeps that come after.

`Group.Cleanup.Accounts` says both, for any answers, and which answers leave nothing out
(`Group.Cleanup.Whole`). `Group.gather_append` is the induction over the answers that carries it.
-/

namespace Restage

namespace Group

/-- How many directories a sweep that is through has deleted. -/
def deletedIn : Except Fault Nat → Nat
  | .ok count => count
  | .error _ => 0

/-- The directories that a sweep could not delete. -/
def refusedIn : Except Fault Nat → List Path
  | .error (.cleanupFailed refused) => refused
  | _ => []

/-- A sweep that ended with another fault than the directories it could not delete. -/
def Broke : Except Fault Nat → Prop
  | .ok _ | .error (.cleanupFailed _) => False
  | .error _ => True

/-- A cleanup that waited for all sweeps, and that names every directory they could not delete. -/
def Cleanup.Whole (cleanup : Cleanup) (answers : List (Except Fault Nat)) : Prop :=
  cleanup.abandoned = 0 ∧ answers.flatMap refusedIn ⊆ refusedIn cleanup.answer

/-- What a cleanup answers to the answers of the sweeps. -/
structure Cleanup.Accounts (cleanup : Cleanup) (answers : List (Except Fault Nat)) : Prop where
  /-- When no sweep broke, all of them were waited for and nothing is left out. -/
  calm : (∀ answer ∈ answers, ¬ Broke answer) → cleanup.abandoned = 0 ∧ cleanup.answer =
    if answers.flatMap refusedIn = [] then .ok (answers.map deletedIn).sum
    else .error (.cleanupFailed (answers.flatMap refusedIn))
  /-- The first sweep that broke is the answer, and those after it are not waited for. -/
  early : ∀ before fault after, answers = before ++ .error fault :: after →
    (∀ answer ∈ before, ¬ Broke answer) → Broke (.error fault) →
    cleanup = ⟨.error fault, after.length⟩
  /-- Nothing is left out as long as a sweep that broke is the last, and those before succeeded. -/
  whole : .error (.cleanupFailed []) ∉ answers → (cleanup.Whole answers ↔
    ∀ before fault after, answers = before ++ .error fault :: after → Broke (.error fault) →
      after = [] ∧ ∀ answer ∈ before, ∃ deleted, answer = .ok deleted)
  /-- A cleanup succeeds when all sweeps did, and only then. -/
  succeeds : .error (.cleanupFailed []) ∉ answers → ∀ count, cleanup.answer = .ok count ↔
    (∀ answer ∈ answers, ∃ deleted, answer = .ok deleted) ∧ count = (answers.map deletedIn).sum

variable {answers before after : List (Except Fault Nat)} {deleted : Nat} {refused : List Path}
  {fault : Fault}

/-! ## Gathering -/

theorem gather_append (calm : ∀ answer ∈ before, ¬ Broke answer) :
    gather deleted refused (before ++ after) =
      gather (deleted + (before.map deletedIn).sum) (refused ++ before.flatMap refusedIn) after := by
  induction before generalizing deleted refused with
  | nil => rw [List.nil_append, List.map_nil, List.sum_nil, List.flatMap_nil, List.append_nil]; rfl
  | cons answer rest ih =>
      have later : ∀ answer ∈ rest, ¬ Broke answer := fun other listed =>
        calm other (List.mem_cons_of_mem _ listed)
      rw [List.cons_append, List.map_cons, List.sum_cons, List.flatMap_cons]
      cases answer with
      | ok count =>
          have clean : refusedIn (.ok count) = [] := rfl
          rw [gather, ih later, clean, List.nil_append, deletedIn, Nat.add_assoc]
      | error fault =>
          cases fault with
          | cleanupFailed more =>
              rw [gather, ih later, refusedIn, deletedIn, Nat.zero_add, List.append_assoc]
          | config detail | io detail | invalidInput detail =>
              exact absurd trivial (calm _ List.mem_cons_self)

theorem gather_broke (broke : Broke (.error fault)) :
    gather deleted refused (.error fault :: after) = ⟨.error fault, after.length⟩ := by
  cases fault with
  | cleanupFailed more => cases broke
  | config detail | io detail | invalidInput detail => rfl

/-- Either no sweep broke, or one of them was the first. -/
theorem calm_or_broke (answers : List (Except Fault Nat)) :
    (∀ answer ∈ answers, ¬ Broke answer) ∨ ∃ before fault after,
      answers = before ++ .error fault :: after ∧ (∀ answer ∈ before, ¬ Broke answer) ∧
        Broke (.error fault) := by
  induction answers with
  | nil => exact .inl fun _ listed => absurd listed List.not_mem_nil
  | cons answer rest ih =>
      by_cases broke : Broke answer
      · cases answer with
        | ok count => cases broke
        | error fault =>
            exact .inr ⟨[], fault, rest, rfl, fun _ listed => absurd listed List.not_mem_nil, broke⟩
      · have first : ∀ {others : List (Except Fault Nat)}, (∀ other ∈ others, ¬ Broke other) →
            ∀ other ∈ answer :: others, ¬ Broke other := by
          intro others calm other listed
          rcases List.mem_cons.mp listed with rfl | later
          · exact broke
          · exact calm other later
        rcases ih with calm | ⟨before, fault, after, rfl, calm, late⟩
        · exact .inl (first calm)
        · exact .inr ⟨answer :: before, fault, after, rfl, first calm, late⟩

/-- Sweeps that did not break and have nothing to name have succeeded. -/
theorem refused_eq_nil_iff (calm : ∀ answer ∈ answers, ¬ Broke answer)
    (named : .error (.cleanupFailed []) ∉ answers) :
    answers.flatMap refusedIn = [] ↔ ∀ answer ∈ answers, ∃ deleted, answer = .ok deleted := by
  rw [List.flatMap_eq_nil_iff]
  constructor
  · intro clean answer listed
    cases answer with
    | ok count => exact ⟨count, rfl⟩
    | error fault =>
        cases fault with
        | cleanupFailed refused =>
            have unnamed : refused = [] := clean _ listed
            exact absurd (unnamed ▸ listed) named
        | config detail | io detail | invalidInput detail => exact absurd trivial (calm _ listed)
  · intro fine answer listed
    obtain ⟨deleted, rfl⟩ := fine answer listed
    rfl

theorem refusedIn_of_broke (broke : Broke (.error fault)) : refusedIn (.error fault) = [] := by
  cases fault with
  | cleanupFailed refused => cases broke
  | config detail | io detail | invalidInput detail => rfl

/-- Of sweeps that broke, one that comes after the first leaves it in the middle. -/
theorem last_of_broke {earlier : List (Except Fault Nat)} {first : Fault}
    (calm : ∀ answer ∈ earlier, ¬ Broke answer)
    (same : earlier ++ [.error first] = before ++ .error fault :: after)
    (broke : Broke (.error fault)) : after = [] ∧ before = earlier := by
  have ends : after = [] := by
    rcases List.eq_nil_or_concat after with ends | ⟨most, last, rfl⟩
    · exact ends
    · rw [List.concat_eq_append, ← List.cons_append, ← List.append_assoc] at same
      have middle := (List.append_inj' same rfl).1
      refine absurd broke (calm _ ?_)
      rw [middle]
      exact List.mem_append_right _ List.mem_cons_self
  subst ends
  exact ⟨rfl, (List.append_inj' same rfl).1.symm⟩

theorem gather_calm (calm : ∀ answer ∈ answers, ¬ Broke answer) : gather 0 [] answers =
    ⟨if answers.flatMap refusedIn = [] then .ok (answers.map deletedIn).sum
      else .error (.cleanupFailed (answers.flatMap refusedIn)), 0⟩ := by
  have all := @gather_append answers [] 0 [] calm
  rw [List.append_nil, Nat.zero_add, List.nil_append] at all
  exact all

/-- The first sweep that broke decides. -/
theorem gather_first (calm : ∀ answer ∈ before, ¬ Broke answer) (broke : Broke (.error fault)) :
    gather 0 [] (before ++ .error fault :: after) = ⟨.error fault, after.length⟩ := by
  rw [gather_append calm, gather_broke broke]

/-- A cleanup that comes to no sweep that broke leaves nothing out. -/
theorem whole_of_calm (calm : ∀ answer ∈ answers, ¬ Broke answer) :
    (gather 0 [] answers).Whole answers := by
  rw [gather_calm calm]
  refine ⟨rfl, ?_⟩
  by_cases clean : answers.flatMap refusedIn = []
  · rw [clean]
    exact List.nil_subset _
  · rw [if_neg clean]
    exact List.Subset.refl _

/-- A cleanup that comes to a sweep that broke leaves nothing out if it was the last, and there was
nothing to report before. -/
theorem whole_first_iff (calm : ∀ answer ∈ before, ¬ Broke answer) (broke : Broke (.error fault))
    (named : .error (.cleanupFailed []) ∉ before) :
    (gather 0 [] (before ++ .error fault :: after)).Whole (before ++ .error fault :: after) ↔
      after = [] ∧ ∀ answer ∈ before, ∃ deleted, answer = .ok deleted := by
  rw [gather_first calm broke, Cleanup.Whole, refusedIn_of_broke broke, List.subset_nil,
    List.length_eq_zero_iff, List.flatMap_append, List.flatMap_cons, refusedIn_of_broke broke]
  constructor
  · rintro ⟨rfl, clean⟩
    rw [List.flatMap_nil, List.append_nil, List.append_nil] at clean
    exact ⟨rfl, (refused_eq_nil_iff calm named).mp clean⟩
  · rintro ⟨rfl, fine⟩
    rw [List.flatMap_nil, List.append_nil, List.append_nil]
    exact ⟨rfl, (refused_eq_nil_iff calm named).mpr fine⟩

theorem gather_accounts (answers : List (Except Fault Nat)) :
    (gather 0 [] answers).Accounts answers where
  calm := fun calm => by
    rw [gather_calm calm]
    exact ⟨rfl, rfl⟩
  early := by
    rintro before fault after rfl calm broke
    exact gather_first calm broke
  whole := by
    intro named
    rcases calm_or_broke answers with calm | ⟨before, fault, after, rfl, calm, broke⟩
    · refine iff_of_true (whole_of_calm calm) ?_
      rintro before fault after rfl broke
      exact absurd broke (calm _ (List.mem_append_right _ List.mem_cons_self))
    · rw [whole_first_iff calm broke fun listed => named (List.mem_append_left _ listed)]
      constructor
      · rintro ⟨rfl, fine⟩ others other later same broke'
        obtain ⟨rfl, rfl⟩ := last_of_broke calm same broke'
        exact ⟨rfl, fine⟩
      · exact fun only => only before fault after rfl broke
  succeeds := by
    intro named count
    rcases calm_or_broke answers with calm | ⟨before, fault, after, rfl, calm, broke⟩
    · rw [gather_calm calm, ← refused_eq_nil_iff calm named]
      by_cases clean : answers.flatMap refusedIn = []
      · rw [if_pos clean]
        exact ⟨fun same => ⟨clean, (Except.ok.inj same).symm⟩, fun both => congrArg _ both.2.symm⟩
      · rw [if_neg clean]
        exact iff_of_false nofun fun both => clean both.1
    · rw [gather_first calm broke]
      refine iff_of_false nofun fun both => ?_
      obtain ⟨deleted, fine⟩ := both.1 _ (List.mem_append_right _ List.mem_cons_self)
      cases fine

/-! ## Sweeping -/

variable {trouble : Trouble} {now : Instant} {disk : Disk} {floor : Floor} {m : Manager}

/-- A sweep that names directories that it could not delete names one. -/
theorem sweep_named (m : Manager) (trouble : Trouble) (now : Instant) (disk : Disk)
    (floor : Floor) : (m.sweep trouble now disk floor).2 ≠ .error (.cleanupFailed []) := by
  have answered : ∀ sweep : Sweep, sweep.answer ≠ .error (.cleanupFailed []) := by
    intro sweep same
    rw [Sweep.answer] at same
    split at same
    · cases same
    · next refused => exact refused (Fault.cleanupFailed.inj (Except.error.inj same))
  intro same
  rw [Manager.sweep] at same
  split at same
  · cases same
  · cases same
  · exact answered _ same

/-- Each manager sweeps, whatever the others come to. -/
theorem sweepEach_answers (trouble : Trouble) (now : Instant) (disk : Disk) (floor : Floor)
    (managers : List Manager) :
    List.Forall₂ (fun m answer => ∃ disk floor, answer = (m.sweep trouble now disk floor).2)
      managers (sweepEach trouble now disk floor managers).2.2.2 := by
  induction managers generalizing disk floor with
  | nil => exact .nil
  | cons m rest ih => exact .cons ⟨disk, floor, rfl⟩ (ih _ _)

theorem sweepEach_named (trouble : Trouble) (now : Instant) (disk : Disk) (floor : Floor)
    (managers : List Manager) :
    .error (.cleanupFailed []) ∉ (sweepEach trouble now disk floor managers).2.2.2 := by
  induction managers generalizing disk floor with
  | nil => exact List.not_mem_nil
  | cons m rest ih =>
      intro listed
      rcases List.mem_cons.mp listed with here | later
      · exact sweep_named m trouble now disk floor here.symm
      · exact ih _ _ later

/-- The cleanup of a group accounts for what its sweeps answer, as long as none of them breaks. Where
one does, its fault is the answer, and the sweeps after it are not waited for. -/
theorem sweep_accounts (answers : List (Except Fault Nat)) (trouble : Trouble) (now : Instant)
    (disk : Disk) (group : Group) :
    (gather 0 [] answers).Accounts answers ∧
      ∃ own : List (Except Fault Nat),
        List.Forall₂ (fun m answer => ∃ disk floor, answer = (m.sweep trouble now disk floor).2)
          group.managers own ∧
        .error (.cleanupFailed []) ∉ own ∧ (group.sweep trouble now disk).2.2 = gather 0 [] own :=
  ⟨gather_accounts answers, _, sweepEach_answers trouble now disk group.floor group.managers,
    sweepEach_named trouble now disk group.floor group.managers, rfl⟩

end Group

/-- A staging directory with an obsolete directory, and a file where another one should be. -/
def Disk.cluttered : Disk := ⟨[(["s"], .folder), (["s", JobDir.third], .folder),
  (["f"], .file .empty)]⟩

/-- Three instances, the second of which has the file for its staging directory. -/
def Group.cluttered : Group where
  floor := {}
  managers := [.ofInstance ⟨1, "db", 7000, ⟨"/s"⟩⟩ (.ofDays 5) 1 0,
    .ofInstance ⟨2, "db", 7000, ⟨"/f"⟩⟩ (.ofDays 5) 1 1,
    .ofInstance ⟨3, "db", 7000, ⟨"/s"⟩⟩ (.ofDays 5) 1 2]

theorem Disk.list_cluttered : Disk.cluttered.list ⟨"/f"⟩ = .error .notFolder := by
  have steps : Disk.stepsOf "/f".toList = [.root, .here, .name ['f']] := by decide
  have fits : Disk.Fits ['f'] := ⟨by decide, by decide⟩
  have leads : Disk.cluttered.Leads true Disk.mostLinks [] (Disk.stepsOf "/f".toList) ["f"] := by
    rw [steps]
    exact .root (.here (.last fits nofun nofun))
  have resolved : Disk.cluttered.resolve true ⟨"/f"⟩ = .ok ["f"] := by
    rw [Disk.resolve, if_neg (by decide), if_neg (by decide)]
    exact leads.walk
  have found : Disk.cluttered.find true ⟨"/f"⟩ = .ok (["f"], .file .empty) :=
    Disk.find_eq_ok.mpr ⟨resolved, rfl⟩
  rw [Disk.list, found]
  rfl

/-- No directory can be deleted, and none loses anything. -/
def Trouble.stubborn : Trouble := { Trouble.nowhere with refuses := fun _ => true }

/-- The disk refuses to delete the obsolete directory, and that is all a sweep comes to. -/
theorem Manager.sweep_cluttered (m : Manager) (floor : Floor) (staging : m.home.stagingDir = ⟨"/s"⟩)
    (recency : m.recency = .ofDays 5) :
    m.sweep .stubborn .tenthDay .cluttered floor =
      (⟨.cluttered, floor, m, 0, [⟨"/s/" ++ JobDir.third⟩]⟩,
        .error (.cleanupFailed [⟨"/s/" ++ JobDir.third⟩])) := by
  have found : Disk.cluttered.find true m.home.stagingDir = .ok (["s"], .folder) := by
    rw [staging]
    exact Disk.find_staging rfl
  have names : Disk.cluttered.namesIn ["s"] = [JobDir.third] := by decide
  have listed : Disk.cluttered.list m.home.stagingDir = .ok [JobDir.third] := by
    rw [Disk.list_of_find found, names]
  have joined : m.home.stagingDir.join JobDir.third = ⟨"/s/" ++ JobDir.third⟩ := by
    rw [staging]
    decide
  have obsolete : Disk.cluttered.IsObsolete (m.home.stagingDir.join JobDir.third) m.recency
      .tenthDay := by
    refine (Disk.isObsolete_child found JobDir.isName_third).mpr ⟨?_, rfl, ?_⟩
    · rw [joined]
      decide
    · rw [recency]
      exact JobDir.outdated_third
  have refused := @Sweep.visit_refused ["s"] JobDir.third .tenthDay .stubborn
    ⟨.cluttered, floor, m, 0, []⟩ found JobDir.isName_third obsolete rfl
  have visited : Sweep.visit .stubborn .tenthDay ⟨.cluttered, floor, m, 0, []⟩ (some JobDir.third) =
      ⟨.cluttered, floor, m, 0, [⟨"/s/" ++ JobDir.third⟩]⟩ := by
    rw [refused, joined]
    rfl
  have reads : Trouble.stubborn.reads m.home.stagingDir [JobDir.third] = [some JobDir.third] := rfl
  rw [Manager.sweep, listed]
  simp only [reads, List.foldl_cons, List.foldl_nil, visited]
  rfl

/-- The sweep of the second instance breaks. What the first one could not delete is not answered
then, and nobody waits for the third. -/
theorem Group.early_fault_hides :
    (sweepEach .stubborn .tenthDay .cluttered {} Group.cluttered.managers).2.2.2 =
        [.error (.cleanupFailed [⟨"/s/" ++ JobDir.third⟩]),
          .error (.io "Not a directory (os error 20)"),
          .error (.cleanupFailed [⟨"/s/" ++ JobDir.third⟩])] ∧
      (Group.cluttered.sweep .stubborn .tenthDay .cluttered).2.2 =
        ⟨.error (.io "Not a directory (os error 20)"), 1⟩ := by
  have broken : ∀ m : Manager, ∀ floor : Floor, m.home.stagingDir = ⟨"/f"⟩ →
      m.sweep .stubborn .tenthDay .cluttered floor =
        (⟨.cluttered, floor, m, 0, []⟩, .error (.io "Not a directory (os error 20)")) := by
    intro m floor staging
    rw [Manager.sweep, staging, Disk.list_cluttered]
    rfl
  have answers : (sweepEach .stubborn .tenthDay .cluttered {}
      Group.cluttered.managers).2.2.2 =
      [.error (.cleanupFailed [⟨"/s/" ++ JobDir.third⟩]),
        .error (.io "Not a directory (os error 20)"),
        .error (.cleanupFailed [⟨"/s/" ++ JobDir.third⟩])] := by
    simp only [Group.cluttered, sweepEach]
    rw [Manager.sweep_cluttered _ _ rfl rfl]
    simp only
    rw [broken _ _ rfl]
    simp only
    rw [Manager.sweep_cluttered _ _ rfl rfl]
  refine ⟨answers, ?_⟩
  have swept : (Group.cluttered.sweep .stubborn .tenthDay .cluttered).2.2 =
      gather 0 [] (sweepEach .stubborn .tenthDay .cluttered {}
        Group.cluttered.managers).2.2.2 := rfl
  rw [swept, answers]
  rfl

end Restage
