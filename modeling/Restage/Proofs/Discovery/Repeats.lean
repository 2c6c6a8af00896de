import Restage.Proofs.Discovery.Order
import Restage.Proofs.Discovery.Settled

/-!
# Repeated cycles

After a cycle every recent job is finished or settled, and a cycle that finds the jobs so has nothing
to give out and nobody to abort (`Discovery.Pass.visits_repeat`). So a cycle that follows on another
one at the same instant is quiet (`Discovery.repeated_cycle_is_quiet`). What is left to it are the
jobs that the first one gave up: only now are they let go of.
-/

namespace Restage

open Manager

namespace Discovery

variable {now : Instant} {pass pass' pass'' : Pass} {job : Job} {jobs more : List Job}

/-! ## Cycles that find nothing to do -/

/-- Whether there is nothing to be given out of a job. -/
def Pass.Calm (now : Instant) (pass : Pass) (job : Job) : Prop :=
  job.IsTerminal ∨ job.IsActive now ∧ pass.Settled job

/-- The visits to some jobs have given nothing out. If no instance tracked a finished one, nothing
has become of the group. -/
structure Pass.Repeats (now : Instant) (jobs : List Job) (pass pass' : Pass) : Prop where
  store : pass'.store = pass.store
  queues : pass'.group.floor.queues = pass.group.floor.queues
  report : ∃ removed, pass'.report = pass.report.plus
    { activeJobs := jobs.countP fun job => job.IsActive now, removedJobs := removed }
  still : (∀ job ∈ jobs, job.IsTerminal → ∀ id, pass.group.tracks id job.id = false) →
    Group.Still pass.group pass'.group ∧ pass'.report = pass.report.plus
      { activeJobs := jobs.countP fun job => job.IsActive now }

theorem Pass.Repeats.refl : Pass.Repeats now [] pass pass :=
  ⟨rfl, rfl, ⟨0, rfl⟩, fun _ => ⟨.refl, rfl⟩⟩

theorem Pass.Repeats.trans (first : Pass.Repeats now jobs pass pass')
    (second : Pass.Repeats now more pass' pass'') :
    Pass.Repeats now (jobs ++ more) pass pass'' where
  store := second.store.trans first.store
  queues := second.queues.trans first.queues
  report := by
    obtain ⟨removed, report⟩ := first.report
    obtain ⟨removed', report'⟩ := second.report
    refine ⟨removed + removed', ?_⟩
    rw [report', report, CycleReport.plus_assoc, List.countP_append]
    rfl
  still := fun untracked => by
    obtain ⟨still, report⟩ := first.still fun job inside =>
      untracked job (List.mem_append_left _ inside)
    obtain ⟨still', report'⟩ := second.still fun job inside terminal id => by
      rw [Group.tracks, Group.manager?, still.managers]
      exact untracked job (List.mem_append_right _ inside) terminal id
    refine ⟨still.trans still', ?_⟩
    rw [report', report, CycleReport.plus_assoc, List.countP_append]
    rfl

theorem Pass.dropFinished_repeats (now : Instant) (sound : pass.group.Sound)
    (terminal : job.IsTerminal) : Pass.Repeats now [job] pass (pass.dropFinished job) := by
  have idle : [job].countP (fun job => job.IsActive now) = 0 := by
    rw [List.countP_singleton, if_neg]
    exact fun active => (of_decide_eq_true active).1 terminal
  have report : (pass.dropFinished job).report = pass.report.plus
      { removedJobs := if 0 < (pass.group.removeJob job.id).2 then 1 else 0 } := rfl
  refine ⟨rfl, Group.queues_removeFrom _, ⟨_, by rw [idle, report]⟩, fun untracked => ?_⟩
  obtain ⟨still, count⟩ := Group.Still.removed sound
    (untracked job List.mem_cons_self terminal)
  rw [idle, report, count]
  exact ⟨still, rfl⟩

theorem Pass.workOn_repeats (sound : pass.group.Sound) (active : job.IsActive now)
    (settled : pass.Settled job) : Pass.Repeats now [job] pass (pass.workOn {} job) := by
  obtain ⟨still, store, report⟩ := Pass.workOn_settled sound settled
  have one : [job].countP (fun job => job.IsActive now) = 1 := by
    rw [List.countP_singleton, if_pos (decide_eq_true active)]
  have told : (pass.workOn {} job).report = pass.report.plus { activeJobs := 1 } := report
  refine ⟨store, still.floor.queues, ⟨0, ?_⟩, fun _ => ⟨still, ?_⟩⟩ <;> rw [one, told]

theorem Pass.visit_repeats (sound : pass.group.Sound) (calm : pass.Calm now job) :
    Pass.Repeats now [job] pass (pass.visit {} now job) := by
  unfold Pass.visit
  rcases calm with terminal | ⟨active, settled⟩
  · rw [if_pos terminal]
    exact Pass.dropFinished_repeats now sound terminal
  · rw [if_neg active.1, if_neg active.2]
    exact Pass.workOn_repeats sound active settled

/-- What is settled stays settled as long as nothing becomes of the job. -/
theorem Pass.Settled.onward (settled : pass.Settled job)
    (homes : pass'.group.homes = pass.group.homes)
    (records : pass'.store.records = pass.store.records)
    (shown : ∀ id, pass'.group.portrait? 0 id job.id = pass.group.portrait? 0 id job.id) :
    pass'.Settled job := by
  have same : Panorama.ofGroup 0 pass'.group job.id = Panorama.ofGroup 0 pass.group job.id := by
    simp only [Panorama.ofGroup, shown]
  rw [Pass.Settled, homes, Store.recordsOf, records, same]
  exact settled

theorem Pass.visits_repeat (sound : pass.group.Sound) (distinct : (jobs.map Job.id).Nodup)
    (calm : ∀ job ∈ jobs, pass.Calm now job) :
    Pass.Repeats now jobs pass (jobs.foldl (Pass.visit {} now) pass) := by
  induction jobs generalizing pass with
  | nil => exact .refl
  | cons job rest ih =>
      obtain ⟨new, others⟩ := List.nodup_cons.mp distinct
      have first := Pass.visit_repeats sound (calm job List.mem_cons_self)
      obtain ⟨depicts, -, -⟩ := Pass.visit_turn {} now job sound (Nat.zero_le _)
      refine first.trans (ih (sound.reach depicts.run) others fun other inside => ?_)
      refine (calm other (List.mem_cons_of_mem _ inside)).imp_right fun ⟨active, settled⟩ => ?_
      refine ⟨active, settled.onward depicts.homes (by rw [first.store]) fun id => ?_⟩
      exact depicts.others id other.id fun same => new (same ▸ List.mem_map_of_mem inside)

/-! ## What a cycle leaves behind -/

/-- What a cycle that the store answers to makes of a job. -/
inductive Turned (now : Instant) (pieces : List (UInt32 × Piece)) (job : Job) : Turn → Prop
  | finished {view : Panorama} {removed : Nat} (terminal : job.IsTerminal)
    (gone : ∀ id, view.seen id = none) :
    Turned now pieces job ⟨view, none, { removedJobs := removed }⟩
  | expired {view : Panorama} (idle : ¬ job.IsActive now) (gone : ∀ id, view.seen id = none) :
    Turned now pieces job ⟨view, some .aborted, { abortedJobs := 1 }⟩
  | given {view : Panorama} {fresh : Nat} (active : job.IsActive now)
    (settled : view.Settled job pieces) :
    Turned now pieces job ⟨view, none, { activeJobs := 1, submittedSlices := fresh }⟩
  | stopped {view : Panorama} (active : job.IsActive now) :
    Turned now pieces job ⟨view, some .failed, { activeJobs := 1, failedJobs := 1 }⟩

theorem turned (now : Instant) (homes : List Instance) (records : List SliceRecord) (job : Job)
    (view : Panorama) :
    Turned now (offers homes records) job (.of {} now homes records job view) := by
  unfold Turn.of
  split
  · next terminal => exact .finished terminal fun _ => rfl
  · next unfinished =>
      split
      · next late => exact .expired (fun active => active.2 late) fun _ => rfl
      · next early =>
          have active : job.IsActive now := ⟨unfinished, early⟩
          have labelled : ∀ id, ∀ portrait ∈ (view.map (Portrait.described job)).seen id,
              portrait.job = job := by
            intro id portrait shown
            obtain ⟨old, -, rfl⟩ := Option.map_eq_some_iff.mp shown
            rfl
          rw [if_neg nofun]
          split
          · next view' fresh taken => exact .given active (Panorama.give_settles labelled taken)
          · exact .stopped active

/-- A job as the store has it after its turn. -/
def restated (turn : Turn) (job : Job) : Job := turn.mark.elim job job.withStatus

variable {base : Nat} {outage : TimeId → Outage} {first : Pass}

/-- There is nothing to be given out of a job that has had its turn. If it was not given up, no
instance tracks it once it is finished, and it is active if it was. -/
theorem Pass.Toured.calm (toured : Pass.Toured 0 (fun _ => {}) now first jobs pass)
    (sound : first.group.Sound) (inside : job ∈ jobs) :
    pass.Calm now (restated (first.turn 0 {} now job) job) ∧
      ((first.turn 0 {} now job).report.failedJobs = 0 →
        ((restated (first.turn 0 {} now job) job).IsTerminal →
          ∀ id, pass.group.tracks id (restated (first.turn 0 {} now job) job).id = false) ∧
        ((restated (first.turn 0 {} now job) job).IsActive now ↔ job.IsActive now)) := by
  have seen : ∀ id, pass.group.portrait? 0 id job.id =
      (first.turn 0 {} now job).view.seen id := toured.seen job inside
  have turned : Turned now (offers first.group.homes (first.store.recordsOf job.id)) job
    (first.turn 0 {} now job) := turned now _ _ _ _
  have current := sound.reach toured.run
  have untracked : (∀ id, pass.group.portrait? 0 id job.id = none) →
      ∀ id, pass.group.tracks id job.id = false := fun gone id => by
    rw [← current.portrait?_isSome, gone]
    rfl
  generalize first.turn 0 {} now job = turn at turned seen ⊢
  cases turned with
  | finished terminal gone =>
      exact ⟨.inl terminal, fun _ => ⟨fun _ => untracked fun id => (seen id).trans (gone id),
        Iff.rfl⟩⟩
  | expired idle gone =>
      have terminal : (job.withStatus .aborted).IsTerminal := .inr (.inr rfl)
      exact ⟨.inl terminal, fun _ => ⟨fun _ => untracked fun id => (seen id).trans (gone id),
        ⟨fun active => absurd terminal active.1, fun active => absurd active idle⟩⟩⟩
  | @given view fresh active settled =>
      have same : Panorama.Settled job
          (offers pass.group.homes (pass.store.recordsOf job.id))
          (.ofGroup 0 pass.group job.id) := by
        rw [toured.homes, Store.recordsOf, toured.records]
        refine ⟨fun id portrait shown => ?_, fun id piece listed => ?_⟩
        · exact settled.labelled id portrait ((seen id).symm.trans shown)
        · exact (congrArg (Portrait.Settles piece.slot) (seen id)).mpr
            (settled.settled id piece listed)
      exact ⟨.inr ⟨active, same⟩, fun _ => ⟨fun terminal => absurd terminal active.1, Iff.rfl⟩⟩
  | stopped active =>
      exact ⟨.inl (.inr (.inl rfl)), fun none => absurd none Nat.one_ne_zero⟩

/-- Reports only add to the jobs that were given up. -/
theorem failed_grows (turn : Job → CycleReport) (report : CycleReport) : report.failedJobs ≤
    (jobs.foldl (fun report job => report.plus (turn job)) report).failedJobs := by
  induction jobs generalizing report with
  | nil => exact Nat.le_refl _
  | cons job rest ih =>
      have added : report.failedJobs ≤ (report.plus (turn job)).failedJobs := Nat.le_add_right _ _
      exact Nat.le_trans added (ih _)

/-- The jobs that were given up in their turns are counted. -/
theorem failed_of_turn (turn : Job → CycleReport) (report : CycleReport) (inside : job ∈ jobs) :
    (turn job).failedJobs ≤
      (jobs.foldl (fun report job => report.plus (turn job)) report).failedJobs := by
  induction jobs generalizing report with
  | nil => cases inside
  | cons head rest ih =>
      rcases List.mem_cons.mp inside with rfl | later
      · have added : (turn job).failedJobs ≤ (report.plus (turn job)).failedJobs :=
          Nat.le_add_left _ _
        exact Nat.le_trans added (failed_grows turn _)
      · exact ih _ later

/-- If no job was given up, none was in its turn. -/
theorem Pass.Toured.turn_fine (toured : Pass.Toured base outage now first jobs pass)
    (fine : pass.report.failedJobs = 0) (inside : job ∈ jobs) :
    (first.turn base (outage job.id) now job).report.failedJobs = 0 := by
  have counted := failed_of_turn (fun job => (first.turn base (outage job.id) now job).report)
    first.report inside
  rw [← toured.report, fine] at counted
  exact Nat.le_zero.mp counted

section

variable {settings : Settings} {store : Store} {group : Group} {report : CycleReport}

/-- A cycle reports the jobs that it found active. -/
theorem cycle_active (sound : group.Sound) (distinct : store.Distinct)
    (recent : store.recentJobs? now settings.recencyDays = some jobs)
    (done : cycle settings now {} store group = (pass, .finished report)) :
    report.activeJobs = jobs.countP fun job => job.IsActive now := by
  obtain ⟨jobs', recent', rfl, went⟩ := cycle_went sound distinct done
  obtain rfl := Option.some.inj (recent.symm.trans recent')
  have start : (Pass.start settings store group).report = {} := rfl
  rw [went.report, start, CycleReport.empty_plus]
  calc ((Pass.start settings store group).visits now jobs).countP
        (fun visit => visit.job.IsActive now)
      = (((Pass.start settings store group).visits now jobs).map Visit.job).countP
          fun job => job.IsActive now := by
        rw [List.countP_map]
        rfl
    _ = jobs.countP fun job => job.IsActive now := by rw [Pass.visits_jobs]

/-- A cycle gives each recent job its turn. -/
theorem cycle_toured (sound : group.Sound) (distinct : store.Distinct)
    (done : cycle settings now {} store group = (pass, .finished report)) :
    ∃ jobs, store.recentJobs? now settings.recencyDays = some jobs ∧ report = pass.report ∧
      Pass.Toured 0 (fun _ => {}) now (Pass.start settings store group) jobs pass := by
  obtain ⟨jobs, recent, -, -⟩ := cycle_went sound distinct done
  rw [cycle_finished group recent] at done
  obtain ⟨rfl, told⟩ := Prod.mk.inj done
  exact ⟨jobs, recent, (CycleEnd.finished.inj told).symm,
    Pass.visitAll_toured (fun _ => {}) now sound (Nat.zero_le _) (distinct.recent_nodup recent)⟩

/-- The next cycle comes to what this one has left of its jobs. -/
theorem Pass.Toured.recent_again {days : UInt32}
    (toured : Pass.Toured base outage now first jobs pass) (distinct : first.store.Distinct)
    (recent : first.store.recentJobs? now days = some jobs) :
    ∃ jobs', pass.store.recentJobs? now days = some jobs' ∧ (jobs'.map Job.id).Nodup ∧
      jobs'.Perm (jobs.map fun job => restated (first.turn base (outage job.id) now job) job) := by
  obtain ⟨jobs', again, same⟩ := distinct.recent_notedAll recent fun job =>
    (first.turn base (outage job.id) now job).mark
  have single := distinct.notedAll.recent_nodup again
  rw [← toured.store] at again
  exact ⟨jobs', again, single, same⟩

/-- A cycle that follows at once on one that succeeds is quiet: it reports no new slices and no job
that it aborted, and no queue gets a slice. If the first one gave no job up, the second one reports
the same number of active jobs and nothing else, the store is as it was, and so is the group, but
for slices that were built and not taken and for the serial numbers of descriptors. -/
theorem repeated_cycle_is_quiet (reachable : group.Reachable) (distinct : store.Distinct)
    (done : cycle settings now {} store group = (pass, .finished report)) :
    ∃ pass' report', cycle settings now {} pass.store pass.group = (pass', .finished report') ∧
      report'.submittedSlices = 0 ∧ report'.abortedJobs = 0 ∧
      pass'.group.floor.queues = pass.group.floor.queues ∧
      (report.failedJobs = 0 → report' = { activeJobs := report.activeJobs } ∧
        pass'.store = pass.store ∧ Group.Still pass.group pass'.group) := by
  have sound := reachable.sound
  obtain ⟨jobs, recent, total, toured⟩ := cycle_toured sound distinct done
  have active := cycle_active sound distinct recent done
  obtain ⟨jobs', again, single, same⟩ := toured.recent_again distinct recent
  have former : ∀ job' ∈ jobs', ∃ job ∈ jobs,
      restated ((Pass.start settings store group).turn 0 {} now job) job = job' := fun job' inside =>
    List.mem_map.mp (same.mem_iff.mp inside)
  have calm : ∀ job' ∈ jobs', (Pass.start settings pass.store pass.group).Calm now job' := by
    intro job' inside
    obtain ⟨job, listed, rfl⟩ := former job' inside
    exact (toured.calm sound listed).1
  have repeats : Pass.Repeats now jobs' (Pass.start settings pass.store pass.group) _ :=
    Pass.visits_repeat (sound.reach toured.run) single calm
  refine ⟨_, _, cycle_finished pass.group again, ?_, ?_, repeats.queues, fun none => ?_⟩
  · obtain ⟨removed, report⟩ := repeats.report
    rw [report]
    rfl
  · obtain ⟨removed, report⟩ := repeats.report
    rw [report]
    rfl
  · rw [total] at none
    have fine := fun job (inside : job ∈ jobs) => toured.turn_fine none inside
    obtain ⟨still, report'⟩ := repeats.still fun job' inside => by
      obtain ⟨job, listed, rfl⟩ := former job' inside
      exact ((toured.calm sound listed).2 (fine job listed)).1
    have counts : jobs'.countP (fun job => job.IsActive now) =
        jobs.countP fun job => job.IsActive now := by
      rw [same.countP_eq, List.countP_map]
      refine List.countP_congr fun job inside => ?_
      simp only [decide_eq_true_eq, Function.comp_apply]
      exact ((toured.calm sound inside).2 (fine job inside)).2
    rw [report', active, ← counts]
    exact ⟨CycleReport.empty_plus _, repeats.store, still⟩

/-- The first cycle gives two slices out, aborts a job and removes another. The second one finds the
two jobs whose slices wait. -/
theorem repeated_cycle_is_quiet_busy :
    ∃ pass report pass' report',
      cycle {} (.ofMillis 5000) {} .busy (Group.smallAfter smallRun) = (pass, .finished report) ∧
      report = { activeJobs := 2, removedJobs := 1, abortedJobs := 1, submittedSlices := 2 } ∧
      cycle {} (.ofMillis 5000) {} pass.store pass.group = (pass', .finished report') ∧
      report' = { activeJobs := 2 } ∧ pass'.store = pass.store ∧
      Group.Still pass.group pass'.group := by
  have sorted : Store.busy.jobs.Pairwise fun left right =>
      Store.birth left ≤ Store.birth right := by
    decide
  have recent : Store.busy.recentJobs? (.ofMillis 5000) ({} : Settings).recencyDays = _ :=
    Store.recentJobs?_of_sorted ⟨-431995000000000⟩ (by decide) sorted
  have all : (Store.busy.jobs.filter fun job => Store.IsRecent ⟨-431995000000000⟩ job) =
      Store.busy.jobs := by
    decide
  rw [all] at recent
  have done := cycle_finished (Group.smallAfter smallRun) recent
  have told : (Store.busy.jobs.foldl (Pass.visit {} (.ofMillis 5000))
      (Pass.start {} .busy (Group.smallAfter smallRun))).report =
        { activeJobs := 2, removedJobs := 1, abortedJobs := 1, submittedSlices := 2 } := by
    decide
  obtain ⟨pass', report', again, -, -, -, quiet⟩ :=
    repeated_cycle_is_quiet (Group.reachable_smallAfter smallRun) (by decide) done
  obtain ⟨report, store, still⟩ := quiet (by rw [told])
  rw [told] at report
  exact ⟨_, _, pass', report', done, told, again, report, store, still⟩

end

end Discovery

end Restage
