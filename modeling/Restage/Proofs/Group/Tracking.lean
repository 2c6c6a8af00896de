import Restage.Proofs.Group.Removal
import Restage.Proofs.Group.Sights
import Restage.Proofs.Manager.Handing

/-!
# Which jobs are tracked

A manager begins with a job only when a slice is submitted for it, and ends with it only when it
lets go of it (`Manager.Site.Sound.tracker?_of_act`). So a job that no instance shows stays unseen
until something is submitted for it (`Group.Sound.unseen_of_act`), and a failed job is shown with
its failure until it is let go of (`Group.Sound.fatal_of_act`).
-/

namespace Restage

open Manager

variable {group group' : Group} {job : TimeId} {id : UInt32}

/-- Whether an act submits something for a job. -/
def Manager.Act.Submits (job : TimeId) : Manager.Act → Prop
  | submit _ descriptor => descriptor.job.id = job
  | _ => False

/-- A submission makes no tracker for a job that is tracked, and none for another job. -/
theorem Manager.Site.Sound.tracker?_submit {floor : Floor} {m : Manager}
    (sound : Site.Sound (floor, m)) {i : SliceRef} {descriptor : Descriptor}
    (old : descriptor.job.id = job → m.tracker? job ≠ none) :
    (m.submit floor i descriptor).2.1.tracker? job = m.tracker? job := by
  have submitted := sound.submitted i descriptor
  generalize m.submit floor i descriptor = result at submitted
  cases submitted with
  | absent | foreign | tracked => rfl
  | first here of new found enrolled =>
      simp only [Manager.tracker?_tracking new]
      refine if_neg ?_
      rintro rfl
      exact old rfl new

/-- A manager's trackers are those that it had, but for the jobs that it lets go of. -/
theorem Manager.Site.Sound.tracker?_of_act {site site' : Site} (sound : site.Sound)
    {act : Manager.Act} (old : act.Submits job → site.2.tracker? job ≠ none)
    (done : Manager.act? site act = some site') :
    site'.2.tracker? job =
      if job ∈ act.removes site.2 then none else site.2.tracker? job := by
  have same : act.removes site.2 = [] → site'.2.jobs = site.2.jobs → site'.2.tracker? job =
      if job ∈ act.removes site.2 then none else site.2.tracker? job := by
    intro none jobs
    rw [none, if_neg List.not_mem_nil, Manager.tracker?, jobs]
    rfl
  cases act with
  | submit i descriptor =>
      cases done
      exact (sound.tracker?_submit old).trans (if_neg List.not_mem_nil).symm
  | update descriptor =>
      cases done
      exact same rfl rfl
  | remove other =>
      cases done
      refine (Manager.tracker?_removeJob sound.tracks.keys).trans ?_
      simp only [Manager.Act.removes, List.mem_singleton]
  | sweep trouble now disk => exact sound.tracker?_sweep done
  | start =>
      cases done
      refine same rfl ?_
      rw [Manager.start]
      split <;> rfl
  | stop =>
      cases done
      exact same rfl rfl
  | take => exact same rfl (Manager.take?_tables done).2.2
  | grant => exact same rfl (Manager.obtain?_tables done).2.2
  | proceed => exact same rfl (Manager.proceed?_tables done).2.2
  | quit => exact same rfl (Manager.quit?_tables done).2.2
  | land number ending =>
      obtain ⟨flight, t, k, s, -, -, -, -, -, -, after⟩ := sound.landing done
      refine same rfl ?_
      rw [after]

/-! ## Seen from the group -/

/-- Whether something is submitted for a job on any instance. -/
def Group.Act.Submits (job : TimeId) : Group.Act → Prop
  | on _ act => act.Submits job
  | build _ | describe _ => False

/-- Whether a job is let go of on an instance. -/
def Group.Act.Drops (group : Group) (id : UInt32) (job : TimeId) : Group.Act → Prop
  | on actor act => actor = id ∧ ∃ m ∈ group.manager? id, job ∈ act.removes m
  | build _ | describe _ => False

theorem Group.Sound.homes_of_act (sound : group.Sound) {act : Group.Act}
    (done : group.act? act = some group') : group'.homes = group.homes := by
  cases act with
  | build piece | describe job =>
      cases done
      rfl
  | on actor act =>
      obtain ⟨m, next, m', managed, acted, rfl⟩ := Group.act?_on done
      obtain ⟨member, -⟩ := Group.mem_of_manager? managed
      exact Group.homes_put (Moves.same ((sound.manager member).act acted)).1 sound member

/-- A job that no instance shows is not seen before something is submitted for it. -/
theorem Group.Sound.unseen_of_act (sound : group.Sound) {act : Group.Act}
    (done : group.act? act = some group') (unsubmitted : ¬ act.Submits job)
    (unseen : ∀ id, group.sight? id job = none) : ∀ id, group'.sight? id job = none := by
  cases act with
  | build piece | describe other =>
      cases done
      exact unseen
  | on actor act =>
      obtain ⟨m, next, m', managed, acted, rfl⟩ := Group.act?_on done
      obtain ⟨member, -⟩ := Group.mem_of_manager? managed
      have site := sound.manager member
      have moves := site.act acted
      have known : m'.tracker? job = _ :=
        site.tracker?_of_act (fun submits => absurd submits unsubmitted) acted
      rw [sound.untracked_iff.mp unseen m member, ite_self] at known
      intro id
      rw [sound.sight?_put member moves]
      split
      · exact Site.sight?_untracked known
      · exact unseen id

/-- A job is shown with its failure until it is let go of. -/
theorem Group.Sound.fatal_of_act (sound : group.Sound) {act : Group.Act}
    (done : group.act? act = some group') (kept : ¬ act.Drops group id job) {f : FatalFailure}
    (failed : (group.sight? id job).bind Sight.fatal = some f) :
    (group'.sight? id job).bind Sight.fatal = some f := by
  cases act with
  | build piece | describe other =>
      cases done
      exact failed
  | on actor act =>
      obtain ⟨m, next, m', managed, acted, rfl⟩ := Group.act?_on done
      obtain ⟨member, home⟩ := Group.mem_of_manager? managed
      have site := sound.manager member
      have moves := site.act acted
      rw [sound.sight?_put member moves]
      split
      · next here =>
          have actor_here : actor = id := home.symm.trans here.symm
          rw [here, sound.sight?_of_mem member] at failed
          cases tracked : m.tracker? job with
          | none =>
              rw [Site.sight?_untracked tracked] at failed
              cases failed
          | some t =>
              obtain ⟨k, found, -⟩ := site.tracks.of_tracked tracked
              have known : m'.tracker? job = _ := site.tracker?_of_act
                (fun _ => by rw [tracked]; exact Option.some_ne_none t) acted
              have stays : job ∉ act.removes m := fun dropped =>
                kept ⟨actor_here, m, actor_here ▸ managed, dropped⟩
              rw [if_neg stays, tracked] at known
              obtain ⟨k', found', older⟩ := (Moves.ages moves site).tracker t k found
              rw [Site.sight?_tracked tracked found] at failed
              rw [Site.sight?_tracked known found']
              exact older.fatal f failed
      · exact failed

end Restage
