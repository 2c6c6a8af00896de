import Restage.Proofs.Job.Names
import Restage.Slice.Piece

/-!
# Where slices are staged

The target of a slice is put together from texts of the job store that nobody looks at: upload,
keyspace and table are joined to the job's directory as they are. As long as none of them is
absolute the target is spelled below that directory, and it stays there just when none of them leads
up again. An absolute one makes the staging root and the job's directory count for nothing.

`Recipe.Staged` collects this. `Path.components_joinAll` is the induction over the texts that
carries it.
-/

namespace Restage

/-! ## Several texts joined to a path -/

namespace Path

variable {base path : Path} {texts before after : List String} {text : String}

/-- Texts joined to a path, one after the other. -/
def joinAll (base : Path) (texts : List String) : Path := texts.foldl join base

/-- A path is another one, or below it without ever leading up again. -/
def Within (path base : Path) : Prop :=
  ∃ rest, Component.up ∉ rest ∧ path.components = base.components ++ rest

/-- Texts of which none is absolute only add to a path. -/
theorem components_joinAll (spelled : base.text ≠ "")
    (relative : ∀ text ∈ texts, ¬ Absolute text) :
    (base.joinAll texts).components =
      base.components ++ texts.flatMap fun text => added text.toList := by
  induction texts generalizing base with
  | nil => exact (List.append_nil _).symm
  | cons text rest ih =>
      have first := components_join spelled (relative text List.mem_cons_self)
      have others := ih (@join_ne_empty base text spelled)
        fun later listed => relative later (List.mem_cons_of_mem _ listed)
      calc ((base.join text).joinAll rest).components
          = base.components ++ added text.toList ++
              rest.flatMap (fun text => added text.toList) := by rw [others, first]
        _ = base.components ++ (text :: rest).flatMap fun text => added text.toList := by
            rw [List.append_assoc, List.flatMap_cons]

theorem joinAll_ne_empty (spelled : base.text ≠ "") : (base.joinAll texts).text ≠ "" := by
  induction texts generalizing base with
  | nil => exact spelled
  | cons text rest ih => exact ih (join_ne_empty spelled)

/-- Of several absolute texts the last one stands for itself. -/
theorem joinAll_of_absolute (absolute : Absolute text) :
    base.joinAll (before ++ text :: after) = joinAll ⟨text⟩ after := by
  rw [joinAll, List.foldl_append, List.foldl_cons, join_of_absolute absolute]
  rfl

/-- Below a path is only what keeps to it at every step. -/
theorem within_iff {rest : List Component} (below : path.components = base.components ++ rest) :
    path.Within base ↔ Component.up ∉ rest := by
  constructor
  · rintro ⟨rest', descends, same⟩
    rwa [List.append_cancel_left (below.symm.trans same)]
  · exact fun descends => ⟨rest, descends, below⟩

end Path

/-! ## Targets -/

namespace Recipe

variable {staging target : Path} {job : TimeId} {texts : List String} {recipe : Recipe}
  {piece : Piece}

/-- Where texts of the job store lead to from the directory of a job. -/
structure Staged (staging : Path) (job : TimeId) (texts : List String) (target : Path) : Prop where
  /-- Texts of which none is absolute lead on from the job's directory. -/
  spelled : (∀ text ∈ texts, ¬ Path.Absolute text) → target.components =
    staging.components ++ [.name (JobDir.name job).toList] ++
      texts.flatMap fun text => Path.added text.toList
  /-- They stay there just when none of them leads up. -/
  stays : (∀ text ∈ texts, ¬ Path.Absolute text) →
    (target.Within (staging.join (JobDir.name job)) ↔
      ∀ text ∈ texts, Component.up ∉ Path.added text.toList)
  /-- The last absolute one replaces the job's directory. -/
  replaced : ∀ before text after, texts = before ++ text :: after → Path.Absolute text →
    (∀ later ∈ after, ¬ Path.Absolute later) → target.components =
      (Path.mk text).components ++ after.flatMap fun later => Path.added later.toList
  /-- What stays in the directory of the job is below the staging root, and in the directory of no
  other job. -/
  apart : target.Within (staging.join (JobDir.name job)) →
    target.Within staging ∧
      ∀ other, other ≠ job → ¬ target.Within (staging.join (JobDir.name other))

theorem jobDir_ne_empty (staging : Path) (job : TimeId) :
    (staging.join (JobDir.name job)).text ≠ "" := by
  intro nothing
  have named := JobDir.fileName?_join staging job
  rw [Path.fileName?_of_empty nothing] at named
  cases named

theorem staged (staging : Path) (job : TimeId) (texts : List String) :
    Staged staging job texts ((staging.join (JobDir.name job)).joinAll texts) where
  spelled := fun relative => by
    rw [Path.components_joinAll (jobDir_ne_empty staging job) relative, JobDir.components_join]
  stays := fun relative => by
    rw [Path.within_iff (Path.components_joinAll (jobDir_ne_empty staging job) relative)]
    simp only [List.mem_flatMap, not_exists, not_and]
  replaced := by
    rintro before text after rfl absolute relative
    have spelled : text ≠ "" := by
      rintro rfl
      cases absolute
    rw [Path.joinAll_of_absolute absolute, Path.components_joinAll spelled relative]
  apart := by
    rintro ⟨rest, descends, below⟩
    rw [JobDir.components_join, List.append_assoc] at below
    constructor
    · refine ⟨_, ?_, below⟩
      rw [List.mem_append, List.mem_singleton, not_or]
      exact ⟨nofun, descends⟩
    · rintro other different ⟨rest', -, same⟩
      rw [JobDir.components_join, List.append_assoc] at same
      have next := (List.cons.inj (List.append_cancel_left (below.symm.trans same))).1
      exact different (JobDir.name_injective (String.toList_inj.mp (Component.name.inj next))).symm

theorem target_of_build (built : recipe.build = .ok piece) :
    ∃ (staging : Path) (job : TimeId) (texts : List String),
      piece.target = (staging.join (JobDir.name job)).joinAll texts := by
  unfold build at built
  split at built
  · cases built
  · cases built
  · next job staging upload named located =>
      cases built
      exact ⟨staging, job, [upload, recipe.keyspace, recipe.table], rfl⟩

theorem target_ne_empty (built : recipe.build = .ok piece) : piece.target.text ≠ "" := by
  obtain ⟨staging, job, texts, target⟩ := target_of_build built
  rw [target]
  exact Path.joinAll_ne_empty (jobDir_ne_empty staging job)

/-- Every slice that is built is staged where its texts lead to from the directory of its job. -/
theorem build_staged (built : recipe.build = .ok piece) :
    ∃ staging upload job, recipe.staging = some (staging, upload) ∧ recipe.job = some job ∧
      Staged staging job [upload, recipe.keyspace, recipe.table] piece.target := by
  unfold build at built
  split at built
  · cases built
  · cases built
  · next job staging upload named located =>
      cases built
      exact ⟨staging, upload, job, located, named, staged staging job _⟩

/-- A slice of an upload with some name. -/
def ofUpload (upload : String) : Recipe where
  job := some (.ofNat 1)
  keyspace := "ks"
  table := "tbl"
  staging := some (⟨"/staging"⟩, upload)

/-- A common name is staged in the directory of the job. -/
theorem build_staged_plain : ∃ piece, (ofUpload "backup-1").build = .ok piece ∧
    piece.target.Within ((Path.mk "/staging").join (JobDir.name (.ofNat 1))) := by
  obtain ⟨piece, built⟩ : ∃ piece, (ofUpload "backup-1").build = .ok piece := ⟨_, rfl⟩
  obtain ⟨staging, upload, job, located, named, staged⟩ := build_staged built
  cases located
  cases named
  exact ⟨piece, built, (staged.stays (by decide)).mpr (by decide)⟩

/-- The upload `/etc` is staged in `/etc`, and not in the directory of the job. -/
theorem upload_escapes : ∃ piece, (ofUpload "/etc").build = .ok piece ∧
    piece.target = ⟨"/etc/ks/tbl"⟩ ∧
    ¬ piece.target.Within ((Path.mk "/staging").join (JobDir.name (.ofNat 1))) := by
  have target : Recipe.targetOf ⟨"/staging"⟩ (.ofNat 1) "/etc" "ks" "tbl" = ⟨"/etc/ks/tbl"⟩ := by
    have absolute : Path.Absolute "/etc" := by decide
    rw [targetOf, Path.join_of_absolute absolute]
    decide
  have staging : (Path.mk "/staging").components = [.root, .name "staging".toList] := by decide
  have left : (Path.mk "/etc/ks/tbl").components =
      [.root, .name "etc".toList, .name "ks".toList, .name "tbl".toList] := by decide
  have escaped : ¬ (Path.mk "/etc/ks/tbl").Within
      ((Path.mk "/staging").join (JobDir.name (.ofNat 1))) := by
    rintro ⟨rest, -, below⟩
    rw [JobDir.components_join, staging, left] at below
    have other := (List.cons.inj (List.cons.inj below).2).1
    exact absurd (Component.name.inj other) (by decide)
  rw [← target] at escaped
  exact ⟨_, rfl, target, escaped⟩

end Recipe

end Restage
