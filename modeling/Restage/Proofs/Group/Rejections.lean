import Restage.Proofs.Group.Answers

/-!
# What is left of a rejected submission

A manager makes the tracker of a job when the job is first submitted to, before the tracker looks at
the slice. So a submission that is rejected may leave an empty tracker behind: it happens when the
slice is bound to another tracker already, be it of another instance or one that was let go, and the
manager does not track the job. `Group.rejected_but_tracked` is such a run.

`Group.Reachable.rejected_submission` says that nothing else is left of a rejected submission. What
there was stays as it was, and so does what is reported of it.
-/

namespace Restage

open Manager

variable {group group' : Group} {floor : Floor} {m : Manager} {i : SliceRef} {id : UInt32}
  {fault : JobFault} {descriptor : Descriptor} {job : TimeId}

/-! ## Opening a job -/

/-- The progress that is reported of a job on an instance, which there is when the job is tracked
there. -/
def Group.progress? (group : Group) (id : UInt32) (job : TimeId) : Option Progress :=
  (group.manager? id).bind fun m => m.progress? group.floor job

/-- A manager and the floor once a tracker was made for a descriptor's job. -/
def Manager.Site.opened (site : Site) (descriptor : Descriptor) : Site :=
  ((site.1.addTracker (.fresh descriptor site.2.queue)).1,
    site.2.tracking descriptor.job.id site.1.trackers.size)

/-- A group once a manager of it has made a tracker for a descriptor's job. -/
def Group.opened (group : Group) (m : Manager) (descriptor : Descriptor) : Group :=
  group.put (Site.opened (group.floor, m) descriptor).1 (Site.opened (group.floor, m) descriptor).2

theorem Floor.progress_addTracker {q : QueueRef} (t : TrackerRef) :
    (floor.addTracker (.fresh descriptor q)).1.progress t = floor.progress t := by
  rw [Floor.progress, Floor.membersOf_addTracker]
  rfl

theorem Floor.progress_size : floor.progress floor.trackers.size = {} := by
  have nobody : floor.membersOf floor.trackers.size = [] := by
    rw [Floor.membersOf, Array.getElem?_size]
  rw [Floor.progress, nobody]
  rfl

theorem Manager.progress?_addTracker {q : QueueRef} :
    m.progress? (floor.addTracker (.fresh descriptor q)).1 job = m.progress? floor job :=
  congrArg (fun progress => (m.tracker? job).map progress) (funext Floor.progress_addTracker)

theorem Manager.progress?_opened (new : m.tracker? descriptor.job.id = none) :
    (m.tracking descriptor.job.id floor.trackers.size).progress?
        (floor.addTracker (.fresh descriptor m.queue)).1 job =
      if job = descriptor.job.id then some {} else m.progress? floor job := by
  rw [Manager.progress?, Manager.tracker?_tracking new]
  split
  · rw [Option.map_some, Floor.progress_addTracker, Floor.progress_size]
  · exact Manager.progress?_addTracker

theorem Group.Sound.progress?_opened (sound : group.Sound) (member : m ∈ group.managers)
    (new : m.tracker? descriptor.job.id = none) (other : UInt32) (job : TimeId) :
    (group.opened m descriptor).progress? other job =
      if other = m.home.id ∧ job = descriptor.job.id then some {}
      else group.progress? other job := by
  have move : Move (group.floor, m) (Site.opened (group.floor, m) descriptor) := .track new
  have found : (group.opened m descriptor).manager? other =
      if other = m.home.id then some (m.tracking descriptor.job.id group.floor.trackers.size)
      else group.manager? other :=
    sound.manager?_put member move.same.1 (sound.move member move)
  rw [Group.progress?, found, Group.progress?]
  by_cases here : other = m.home.id
  · subst here
    rw [if_pos rfl, sound.manager?_of_mem member, Option.bind_some, Option.bind_some]
    simp only [true_and]
    exact Manager.progress?_opened new
  · rw [if_neg here, if_neg fun both => here both.1]
    exact congrArg (Option.bind (group.manager? other))
      (funext fun _ => Manager.progress?_addTracker)

/-! ## Rejections -/

/-- What is left of a submission to a manager that is rejected. -/
theorem Manager.Site.Sound.rejected (sound : Site.Sound (floor, m))
    (rejected : (m.submit floor i descriptor).2.2 = .error fault) :
    ((m.submit floor i descriptor).1, (m.submit floor i descriptor).2.1) = (floor, m) ∨
      ∃ s u, m.tracker? descriptor.job.id = none ∧ floor.slices[i]? = some s ∧
        s.piece.job = descriptor.job.id ∧ s.owner = some u ∧
        fault = Floor.boundElsewhere s.key ∧
        ((m.submit floor i descriptor).1, (m.submit floor i descriptor).2.1) =
          Site.opened (floor, m) descriptor := by
  have submitted := sound.submitted i descriptor
  generalize m.submit floor i descriptor = result at submitted rejected ⊢
  cases submitted with
  | absent | foreign => exact .inl rfl
  | tracked here of tracked found held queue label enrolled =>
      cases enrolled with
      | barred | elsewhere => exact .inl rfl
      | finished | underway | again | admitted => cases rejected
  | @first next s answer here of new found enrolled =>
      cases enrolled with
      | barred fatal => cases fatal
      | @elsewhere u fine unknown owner other =>
          cases rejected
          exact .inr ⟨s, u, new, here, of, owner, rfl, rfl⟩
      | finished | underway | again | admitted => cases rejected

/-- A rejected submission of a slice of the job to a manager that does not track it leaves the job's
tracker behind. -/
theorem Manager.Site.Sound.rejected_first (sound : Site.Sound (floor, m))
    (rejected : (m.submit floor i descriptor).2.2 = .error fault) {s : Slice}
    (new : m.tracker? descriptor.job.id = none) (here : floor.slices[i]? = some s)
    (of : s.piece.job = descriptor.job.id) :
    ((m.submit floor i descriptor).1, (m.submit floor i descriptor).2.1) =
      Site.opened (floor, m) descriptor := by
  have submitted := sound.submitted i descriptor
  generalize m.submit floor i descriptor = result at submitted rejected ⊢
  cases submitted with
  | absent absent => cases absent.symm.trans here
  | foreign there foreign =>
      obtain rfl := Option.some.inj (there.symm.trans here)
      exact absurd of foreign
  | tracked there other tracked => cases tracked.symm.trans new
  | first there other untracked found enrolled =>
      cases enrolled with
      | barred fatal => cases fatal
      | elsewhere => rfl
      | finished | underway | again | admitted => cases rejected

/-- What a rejected submission leaves behind. Slices, queues and the trackers that there were stay
as they were. In all but one case everything does: when the slice is of the job but bound to a
tracker, and the manager does not track the job, then it does so afterwards, with no slice and no
failure. -/
theorem Group.Reachable.rejected_submission (reachable : group.Reachable)
    (rejected : group.submit id i descriptor = (group', .error fault)) :
    group'.floor.slices = group.floor.slices ∧ group'.floor.queues = group.floor.queues ∧
    (∀ (t : TrackerRef) (k : Tracker), group.floor.trackers[t]? = some k →
      group'.floor.trackers[t]? = some k) ∧
    (group' = group ∨
      ∃ (m : Manager) (s : Slice) (u : TrackerRef), group.manager? id = some m ∧
        m.tracker? descriptor.job.id = none ∧
        group.floor.slices[i]? = some s ∧ s.piece.job = descriptor.job.id ∧ s.owner = some u ∧
        fault = Floor.boundElsewhere s.key ∧ group' = group.opened m descriptor ∧
        group'.floor.trackers = group.floor.trackers.push (.fresh descriptor m.queue) ∧
        ∀ other job, group'.progress? other job =
          if other = id ∧ job = descriptor.job.id then some {} else group.progress? other job) ∧
    ∀ (m : Manager) (s : Slice), group.manager? id = some m → m.tracker? descriptor.job.id = none →
      group.floor.slices[i]? = some s → s.piece.job = descriptor.job.id →
      group' = group.opened m descriptor := by
  have sound := reachable.sound
  rw [Group.submit] at rejected
  cases managed : group.manager? id with
  | none =>
      rw [managed] at rejected
      cases rejected
      exact ⟨rfl, rfl, fun _ _ found => found, .inl rfl,
        fun m _ found => absurd found (Option.some_ne_none m).symm⟩
  | some m =>
      rw [managed] at rejected
      obtain ⟨member, rfl⟩ := Group.mem_of_manager? managed
      simp only [Prod.mk.injEq] at rejected
      obtain ⟨rfl, answer⟩ := rejected
      have opens : ∀ (m' : Manager) (s : Slice), some m = some m' →
          m'.tracker? descriptor.job.id = none → group.floor.slices[i]? = some s →
          s.piece.job = descriptor.job.id →
          group.put (m.submit group.floor i descriptor).1
            (m.submit group.floor i descriptor).2.1 = group.opened m' descriptor := by
        rintro m' s ⟨⟩ new here of
        have first := (sound.manager member).rejected_first answer new here of
        obtain ⟨floor, manager⟩ := Prod.mk.inj first
        rw [floor, manager]
        rfl
      rcases (sound.manager member).rejected answer with
        same | ⟨s, u, new, here, of, owner, complaint, same⟩
      · obtain ⟨floor, manager⟩ := Prod.mk.inj same
        rw [floor, manager, sound.put_self member] at opens ⊢
        exact ⟨rfl, rfl, fun _ _ found => found, .inl rfl, opens⟩
      · obtain ⟨floor, manager⟩ := Prod.mk.inj same
        rw [floor, manager] at opens ⊢
        refine ⟨rfl, rfl, fun t k found => ?_, .inr ⟨m, s, u, rfl, new, here, of, owner,
          complaint, rfl, rfl, sound.progress?_opened member new⟩, opens⟩
        exact (Floor.trackers_addTracker).trans
          ((if_neg (Floor.tracker_ne_size found)).trans found)

/-- A slice is submitted and its job is let go. -/
def Group.letGoRun : List Group.Act :=
  [.build (.small 0), .build (.small 1), .on 1 (.submit 0 .small),
    .on 1 (.remove Descriptor.small.job.id)]

/-- The job has got another tracker meanwhile, and nothing is left of the rejection. -/
theorem Group.rejected_submission_small :
    ∃ group group' fault, Group.small.run? (letGoRun ++ [.on 1 (.submit 1 .small)]) = some group ∧
      group.submit 1 0 .small = (group', .error fault) ∧
      group'.floor.slices = group.floor.slices ∧ group'.floor.queues = group.floor.queues ∧
      group' = group := by
  have known : (Group.small.run? (letGoRun ++ [.on 1 (.submit 1 .small)])).map (fun group =>
      ((group.progress? 1 Descriptor.small.job.id).isSome,
        (group.submit 1 0 .small).2.toOption)) = some (true, none) := by
    decide
  obtain ⟨group, done, facts⟩ := Option.map_eq_some_iff.mp known
  obtain ⟨tracked, refused⟩ := Prod.mk.inj facts
  cases answer : (group.submit 1 0 .small).2 with
  | ok standing =>
      rw [answer] at refused
      cases refused
  | error fault =>
      have rejected : group.submit 1 0 .small = ((group.submit 1 0 .small).1, .error fault) :=
        Prod.ext rfl answer
      obtain ⟨slices, queues, -, same | ⟨m, s, u, managed, new, -⟩, -⟩ :=
        Group.Reachable.rejected_submission ⟨_, _, _, .of_run? done⟩ rejected
      · exact ⟨group, _, fault, done, rejected, slices, queues, same⟩
      · rw [Group.progress?, managed, Option.bind_some, Manager.progress?, new] at tracked
        cases tracked

/-- The job is not tracked when its slice is submitted again, which is rejected since the slice is
bound to the tracker that was let go, but then it is. -/
theorem Group.rejected_but_tracked :
    ∃ (group : Group) (fault : JobFault), group.Reachable ∧
      (group.submit 1 0 .small).2 = .error fault ∧
      group.progress? 1 Descriptor.small.job.id = none ∧
      (group.submit 1 0 .small).1.progress? 1 Descriptor.small.job.id = some {} := by
  have known : (Group.small.run? letGoRun).map (fun group =>
      ((group.submit 1 0 .small).2.toOption, group.progress? 1 Descriptor.small.job.id,
        (group.submit 1 0 .small).1.progress? 1 Descriptor.small.job.id)) =
      some (none, none, some {}) := by
    decide
  obtain ⟨group, done, facts⟩ := Option.map_eq_some_iff.mp known
  simp only [Prod.mk.injEq] at facts
  obtain ⟨refused, untracked, tracked⟩ := facts
  cases answer : (group.submit 1 0 .small).2 with
  | ok standing =>
      rw [answer] at refused
      cases refused
  | error fault => exact ⟨group, fault, ⟨_, _, _, .of_run? done⟩, answer, untracked, tracked⟩

end Restage
