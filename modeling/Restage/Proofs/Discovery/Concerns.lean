import Restage.Proofs.Discovery.Visits
import Restage.Proofs.Manager.Concerns

/-!
# Visits concern one job

What a cycle does to the floor when it comes to a job concerns that job alone
(`Discovery.Pass.visit_concerns`). When the job is finished the visit only cancels slices of it
(`Floor.Cancels`), and a cycle that finds a job finished does no more to it
(`Discovery.Pass.visits_cancel`).
-/

namespace Restage

open Manager Discovery

variable {group group' : Group} {floor next last : Floor} {m : Manager} {descriptor : Descriptor}
  {front rest : List Manager} {record : SliceRecord} {id : TimeId}

/-! ## The managers one by one -/

/-- A group is sound when a manager in its middle has moved. -/
theorem Group.Sound.moved_middle (sound : (⟨floor, front ++ m :: rest⟩ : Group).Sound)
    {site : Site} (moves : Moves (floor, m) site) :
    (⟨site.1, (front ++ [site.2]) ++ rest⟩ : Group).Sound := by
  have member : m ∈ front ++ m :: rest := List.mem_append_right _ List.mem_cons_self
  have after := sound.moves member moves
  rw [sound.put_middle (Moves.same moves).1] at after
  rw [List.append_assoc]
  exact after

theorem Group.Sound.updated_concerns (front : List Manager) (descriptor : Descriptor)
    (sound : (⟨floor, front ++ rest⟩ : Group).Sound) :
    Floor.Concerns descriptor.job.id floor
      (rest.foldl (fun floor m => m.updateJob floor descriptor) floor) := by
  induction rest generalizing floor front with
  | nil => exact .refl
  | cons m rest ih =>
      have member : m ∈ front ++ m :: rest := List.mem_append_right _ List.mem_cons_self
      have site := sound.manager member
      have later := ih (front ++ [m]) (sound.moved_middle (.update site descriptor))
      exact (site.update_concerns rfl).floor.trans later

theorem Group.Sound.removed_concerns (front : List Manager)
    (sound : (⟨floor, front ++ rest⟩ : Group).Sound) (job : TimeId) :
    Floor.Concerns job floor (Group.removeFrom floor job rest).1 := by
  induction rest generalizing floor front with
  | nil => exact .refl
  | cons m rest ih =>
      have member : m ∈ front ++ m :: rest := List.mem_append_right _ List.mem_cons_self
      have site := sound.manager member
      exact (site.remove_concerns job).floor.trans (ih _ (sound.moved_middle (.remove site job)))

theorem Discovery.submitRecord_concerns (front : List Manager)
    (of : record.job = descriptor.job.id) (sound : (⟨floor, front ++ rest⟩ : Group).Sound) :
    Floor.Concerns descriptor.job.id floor (submitRecord descriptor record floor rest).1 := by
  induction rest generalizing floor front with
  | nil => exact .refl
  | cons m rest ih =>
      by_cases holds : m.home.Holds record.replicas
      · obtain ⟨piece, made, -, label⟩ := pieceAt_ok m.home record
        have member : m ∈ front ++ m :: rest := List.mem_append_right _ List.mem_cons_self
        have built := sound.build piece
        have site := built.manager member
        have offered := (site.submit_concerns floor.slices.size descriptor (.inl rfl)).floor
        have added : Floor.Concerns descriptor.job.id floor _ := .addSlice (label.trans of)
        have first := added.trans offered
        have clean := built.moved_middle (.submit site floor.slices.size descriptor)
        generalize told : m.submit (floor.addSlice (.ofPiece piece)).1 floor.slices.size
          descriptor = result at first clean
        obtain ⟨next, m', answer⟩ := result
        have told' : m.submit (floor.addSlice (.ofPiece piece)).1
            (floor.addSlice (.ofPiece piece)).2 descriptor = (next, m', answer) := told
        rcases answer with (failure | detail) | standing
        · rw [submitRecord_stop holds made told]
          exact first
        · rw [submitRecord, if_pos holds, made]
          simp only [told']
          exact first.trans (ih _ clean)
        · rw [submitRecord_next holds made told]
          exact first.trans (ih _ clean)
      · rw [submitRecord_skip holds]
        refine ih (front ++ [m]) ?_
        rw [List.append_assoc]
        exact sound

theorem Discovery.submitRecords_concerns (descriptor : Descriptor) (records : List SliceRecord)
    (sound : group.Sound) (of : ∀ record ∈ records, record.job = descriptor.job.id) :
    Floor.Concerns descriptor.job.id group.floor
      (submitRecords descriptor group.floor group.managers records).1 := by
  induction records generalizing group with
  | nil => exact .refl
  | cons record rest ih =>
      have first := submitRecord_concerns [] (of record List.mem_cons_self) sound
      have offered := submitRecord_offered [] (of record List.mem_cons_self) sound
      rw [submitRecords]
      generalize submitRecord descriptor record group.floor group.managers = result at first offered
      obtain ⟨next, managers, answer⟩ := result
      simp only [List.nil_append] at offered
      cases offered with
      | stopped around home listed wants fatal => exact first
      | taken shows fine =>
          exact first.trans (ih (sound.reach shows.run) fun other inside =>
            of other (List.mem_cons_of_mem _ inside))

/-! ## Visits -/

namespace Discovery

variable {job : Job} {pass : Pass} {now : Instant} {jobs : List Job}

theorem presented_concerns (sound : group.Sound) (job : Job) :
    Floor.Concerns job.id group.floor (group.present job).floor := by
  have described : Floor.Concerns job.id group.floor (group.floor.describe job).1 :=
    .of_tables rfl rfl rfl
  exact described.trans
    (Group.Sound.updated_concerns [] (group.floor.describe job).2 sound.mint)

theorem Pass.workOn_concerns (sound : pass.group.Sound) :
    Floor.Concerns job.id pass.group.floor (pass.workOn {} job).group.floor := by
  have mine : ∀ record ∈ pass.store.recordsOf job.id, record.job = job.id := fun _ =>
    Store.job_of_mem_recordsOf
  have presented := sound.presented job
  have clean := sound.reach presented.run
  have offered := submitRecords_offered (pass.group.floor.describe job).2
    (pass.store.recordsOf job.id) clean mine
  have given := (presented_concerns sound job).trans
    (submitRecords_concerns (pass.group.floor.describe job).2 (pass.store.recordsOf job.id) clean
      mine)
  generalize done : submitRecords (pass.group.floor.describe job).2 (pass.group.present job).floor
    (pass.group.present job).managers (pass.store.recordsOf job.id) = result at offered given
  obtain ⟨floor, managers, answer⟩ := result
  cases offered with
  | taken shows fine =>
      rw [(Pass.workOn_given Outage.reads done).1]
      exact given
  | stopped around home listed wants fatal =>
      have again := presented_concerns (clean.reach around.run) (job.withStatus .failed)
      rw [(Pass.workOn_stopped Outage.reads done).1]
      exact given.trans again

theorem Pass.visit_concerns (now : Instant) (sound : pass.group.Sound) :
    Floor.Concerns job.id pass.group.floor (pass.visit {} now job).group.floor := by
  have removed : Floor.Concerns job.id pass.group.floor (pass.group.removeJob job.id).1.floor :=
    Group.Sound.removed_concerns [] sound job.id
  unfold Pass.visit
  split
  · exact removed
  · split
    · simp only [Pass.abort, Pass.mark_group]
      exact removed
    · exact Pass.workOn_concerns sound

end Discovery

/-! ## Finished jobs -/

/-- Of a job's slices some were told to cancel, and nothing else has become of them. -/
def Floor.Cancels (job : TimeId) (floor next : Floor) : Prop :=
  ∀ (i : SliceRef) (s : Slice), floor.slices[i]? = some s → s.piece.job = job →
    next.slices[i]? = some s ∨ next.slices[i]? = some s.cancelled

theorem Floor.Cancels.refl : Floor.Cancels id floor floor := fun _ _ here _ => .inl here

theorem Floor.Cancels.trans (first : Floor.Cancels id floor next)
    (second : Floor.Cancels id next last) : Floor.Cancels id floor last := by
  intro i s here of
  rcases first i s here of with same | told
  · exact second i s same of
  · have later := second i s.cancelled told (by rw [s.piece_cancelled]; exact of)
    rw [s.cancelled_cancelled] at later
    exact .inr (later.elim (fun same => same) fun same => same)

/-- What concerns another job does not cancel anything. -/
theorem Floor.Concerns.cancels {other : TimeId} (concerns : Floor.Concerns other floor next)
    (apart : id ≠ other) : Floor.Cancels id floor next := by
  intro i s here of
  exact .inl ((concerns.slices i s (by rwa [of])).mpr here)

theorem Floor.Cancels.removeJob (job : TimeId) :
    Floor.Cancels id floor (m.removeJob floor job).1 := by
  cases tracked : m.tracker? job with
  | none =>
      rw [Manager.removeJob_of_unknown tracked]
      exact .refl
  | some t =>
      intro i s here of
      rw [Manager.removeJob_of_tracked tracked, Floor.slices_discarded, here]
      split
      · exact .inr rfl
      · exact .inl rfl

theorem Floor.Cancels.removeFrom (job : TimeId) (managers : List Manager) :
    Floor.Cancels id floor (Group.removeFrom floor job managers).1 := by
  induction managers generalizing floor with
  | nil => exact .refl
  | cons m rest ih => exact (Floor.Cancels.removeJob job).trans ih

/-- A slice that belonged to a job which no manager tracks any more was told to cancel, if it had
not ended before. -/
theorem Floor.Cancels.of_untracked (cancels : Floor.Cancels id floor group.floor)
    (sound : group.Sound) (untracked : ∀ home, group.sight? home id = none) {i : SliceRef}
    {s : Slice} (here : floor.slices[i]? = some s) (of : s.piece.job = id)
    (bound : s.owner ≠ none) : group.floor.slices[i]? = some s.cancelled := by
  rcases cancels i s here of with same | told
  · obtain ⟨t, owner⟩ := Option.ne_none_iff_exists'.mp bound
    obtain ⟨k, found, -, label, governs⟩ := sound.floor.bound same owner
    have gone : k.held = false := by
      by_contra kept
      rw [Bool.not_eq_false] at kept
      obtain ⟨m, member, queue⟩ := sound.served found
      have site := sound.manager member
      have listed := site.tracks.held found kept queue.symm
      rw [← label, of] at listed
      have tracked : m.tracker? id = some t := Table.lookup_of_mem site.tracks.keys listed
      rw [sound.untracked_iff.mp untracked m member] at tracked
      cases tracked
    rw [s.cancelled_of_terminal (governs.ended (.inr gone))]
    exact same
  · exact told

namespace Discovery

variable {pass : Pass} {now : Instant} {jobs : List Job}

/-- A cycle that finds a job finished, or does not come to it, at most cancels slices of it. -/
theorem Pass.visits_cancel (sound : pass.group.Sound) (distinct : (jobs.map Job.id).Nodup)
    (stored : ∀ job ∈ jobs, pass.store.job? job.id = some job)
    (finished : ∀ job ∈ jobs, job.id = id → job.IsTerminal) :
    Floor.Cancels id pass.group.floor (jobs.foldl (Pass.visit {} now) pass).group.floor := by
  induction jobs generalizing pass with
  | nil => exact .refl
  | cons job rest ih =>
      obtain ⟨new, others⟩ := List.nodup_cons.mp distinct
      have known := stored job List.mem_cons_self
      have visited := Pass.visit_visited now sound known
      have first : Floor.Cancels id pass.group.floor (pass.visit {} now job).group.floor := by
        by_cases here : id = job.id
        · have terminal := finished job List.mem_cons_self here.symm
          rw [Pass.visit, if_pos terminal]
          exact .removeFrom job.id pass.group.managers
        · exact (Pass.visit_concerns now sound).cancels here
      rw [List.foldl_cons]
      refine first.trans (ih (sound.reach visited.around.run) others (fun other inside => ?_)
        fun other inside => finished other (List.mem_cons_of_mem _ inside))
      have apart : other.id ≠ job.id := fun same => new (same ▸ List.mem_map_of_mem inside)
      rw [(visited.leaves apart).stored]
      exact stored other (List.mem_cons_of_mem _ inside)

end Discovery

end Restage
