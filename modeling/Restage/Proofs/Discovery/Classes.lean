import Restage.Proofs.Discovery.Visits

/-!
# What a cycle does

A cycle visits the recent jobs one by one. They are different jobs, so every job is found by its
visit as the cycle found it, and stays as its visit left it (`Pass.visits_went`). The report is the
count of the visits (`Discovery.tally`).
-/

namespace Restage

open Manager Discovery

/-- Whether an instance shows a job. -/
def Group.Knows (group : Group) (job : TimeId) : Prop :=
  ∃ home ∈ group.homes, (group.sight? home.id job).isSome = true

instance (group : Group) (job : TimeId) : Decidable (group.Knows job) :=
  inferInstanceAs (Decidable (∃ home ∈ group.homes, _))

/-- Two reports added up. -/
def CycleReport.plus (report other : CycleReport) : CycleReport where
  activeJobs := report.activeJobs + other.activeJobs
  removedJobs := report.removedJobs + other.removedJobs
  abortedJobs := report.abortedJobs + other.abortedJobs
  failedJobs := report.failedJobs + other.failedJobs
  submittedSlices := report.submittedSlices + other.submittedSlices
  lookupFailures := report.lookupFailures + other.lookupFailures

theorem CycleReport.plus_assoc (first second third : CycleReport) :
    (first.plus second).plus third = first.plus (second.plus third) := by
  simp only [CycleReport.plus, Nat.add_assoc]

theorem CycleReport.empty_plus (report : CycleReport) :
    ({} : CycleReport).plus report = report := by
  simp only [CycleReport.plus, Nat.zero_add]

namespace Discovery

/-- A job that a cycle came to, and what the managers answered to its slices. -/
structure Visit where
  job : Job
  told : List (Except JobFault Standing)

/-- Whether an answer is a fatal failure. -/
def isFatal : Except JobFault Standing → Bool
  | .error (.fatal _) => true
  | _ => false

/-- Whether a manager answered with a fatal failure. -/
def Visit.Failed (visit : Visit) : Prop := visit.told.any isFatal = true

instance (visit : Visit) : Decidable visit.Failed := inferInstanceAs (Decidable (_ = _))

/-- What visits come to. `group` is what they found. -/
def tally (now : Instant) (group : Group) (visits : List Visit) : CycleReport where
  activeJobs := visits.countP fun visit => visit.job.IsActive now
  removedJobs := visits.countP fun visit => visit.job.IsTerminal ∧ group.Knows visit.job.id
  abortedJobs := visits.countP fun visit => ¬ visit.job.IsTerminal ∧ visit.job.IsExpired now
  failedJobs := visits.countP fun visit => visit.Failed
  submittedSlices :=
    (visits.flatMap fun visit => if visit.Failed then [] else visit.told).countP isNew

/-- The visits that a cycle pays to some jobs. -/
def Pass.visits (now : Instant) (pass : Pass) : List Job → List Visit
  | [] => []
  | job :: rest => ⟨job, pass.told now job⟩ :: (pass.visit {} now job).visits now rest

variable {group group' : Group} {job : Job} {now : Instant} {pass before after : Pass}
  {visit : Visit} {visits : List Visit} {jobs : List Job}
  {told : List (Except JobFault Standing)}

/-! ## Reports -/

theorem any_isFatal : told.any isFatal = true ↔ ∃ failure, .error (.fatal failure) ∈ told := by
  rw [List.any_eq_true]
  constructor
  · rintro ⟨(failure | detail) | standing, inside, fatal⟩
    · exact ⟨failure, inside⟩
    · cases fatal
    · cases fatal
  · rintro ⟨failure, inside⟩
    exact ⟨_, inside, rfl⟩

/-- What one visit comes to. -/
theorem tally_single :
    tally now group [⟨job, told⟩] =
      { activeJobs := if job.IsActive now then 1 else 0
        removedJobs := if job.IsTerminal ∧ group.Knows job.id then 1 else 0
        abortedJobs := if ¬ job.IsTerminal ∧ job.IsExpired now then 1 else 0
        failedJobs := if told.any isFatal = true then 1 else 0
        submittedSlices := if told.any isFatal = true then 0 else told.countP isNew } := by
  simp only [tally, List.countP_singleton, decide_eq_true_eq, List.flatMap_singleton,
    apply_ite (List.countP isNew), List.countP_nil]
  rfl

theorem tally_cons (visit : Visit) (visits : List Visit) :
    tally now group (visit :: visits) =
      (tally now group [visit]).plus (tally now group visits) := by
  have counted : ∀ p : Visit → Bool,
      ([visit] ++ visits).countP p = [visit].countP p + visits.countP p := fun _ =>
    List.countP_append
  rw [List.singleton_append] at counted
  simp only [tally, CycleReport.plus, counted, List.flatMap_cons, List.flatMap_nil,
    List.append_nil, List.countP_append]

/-- Only of the jobs that were visited does it matter which instances show them. -/
theorem tally_congr
    (same : ∀ visit ∈ visits, (group'.Knows visit.job.id ↔ group.Knows visit.job.id)) :
    tally now group' visits = tally now group visits := by
  have counted : (visits.countP fun visit =>
      visit.job.IsTerminal ∧ group'.Knows visit.job.id) =
      visits.countP fun visit => visit.job.IsTerminal ∧ group.Knows visit.job.id := by
    refine List.countP_congr fun visit inside => ?_
    simp only [same visit inside]
  rw [tally, tally, counted]

theorem Pass.Leaves.knows {id : TimeId} (leaves : Pass.Leaves id before after) :
    after.group.Knows id ↔ before.group.Knows id := by
  simp only [Group.Knows, leaves.homes, leaves.shown]

/-- What becomes of the slices of an active job is reported. -/
theorem Pass.workOn_report (active : job.IsActive now) :
    (pass.workOn {} job).report =
      pass.report.plus (tally now pass.group [⟨job, pass.told now job⟩]) := by
  have tells := submitRecords_tells (pass.group.floor.describe job).2
    (pass.group.present job).floor (pass.group.present job).managers (pass.store.recordsOf job.id)
  have told : pass.told now job = _ := if_pos active
  rw [← told] at tells
  generalize done : submitRecords (pass.group.floor.describe job).2 (pass.group.present job).floor
    (pass.group.present job).managers (pass.store.recordsOf job.id) = result at tells
  obtain ⟨floor, managers, answer⟩ := result
  have counted : tally now pass.group [⟨job, pass.told now job⟩] =
      { activeJobs := 1
        failedJobs := if (pass.told now job).any isFatal = true then 1 else 0
        submittedSlices := if (pass.told now job).any isFatal = true then 0
          else (pass.told now job).countP isNew } := by
    rw [tally_single, if_pos active, if_neg fun finished => active.1 finished.1,
      if_neg fun expired => active.2 expired.2]
  rw [counted]
  cases tells with
  | taken fine =>
      have calm : ¬ (pass.told now job).any isFatal = true := fun fatal => by
        obtain ⟨failure, inside⟩ := any_isFatal.mp fatal
        exact fine failure inside
      obtain ⟨-, -, report⟩ := Pass.workOn_given Outage.reads done
      rw [report, if_neg calm, if_neg calm]
      rfl
  | stopped fatal =>
      obtain ⟨-, -, report⟩ := Pass.workOn_stopped Outage.reads done
      have stopped := any_isFatal.mpr ⟨_, fatal⟩
      rw [report, if_pos stopped, if_pos stopped]
      rfl

/-- A visit is reported by itself. -/
theorem Pass.visit_report (now : Instant) (job : Job) (sound : pass.group.Sound) :
    (pass.visit {} now job).report =
      pass.report.plus (tally now pass.group [⟨job, pass.told now job⟩]) := by
  have silent : ¬ job.IsActive now → tally now pass.group [⟨job, pass.told now job⟩] =
      { removedJobs := if job.IsTerminal ∧ pass.group.Knows job.id then 1 else 0
        abortedJobs := if ¬ job.IsTerminal ∧ job.IsExpired now then 1 else 0 } := by
    intro idle
    have told : pass.told now job = [] := if_neg idle
    rw [told, tally_single, if_neg idle]
    rfl
  unfold Pass.visit
  split
  · next terminal =>
      obtain ⟨-, counted⟩ := sound.removed job.id
      have known : pass.group.Knows job.id ↔ 0 < (pass.group.removeJob job.id).2 := counted.symm
      rw [silent fun active => active.1 terminal]
      simp only [Pass.dropFinished, CycleReport.plus, terminal, known, true_and, not_true_eq_false,
        false_and, if_false, Nat.add_zero]
  · next unfinished =>
      split
      · next late =>
          rw [silent fun active => active.2 late]
          simp only [Pass.abort, Pass.mark_report, CycleReport.plus, unfinished, late, false_and,
            not_false_eq_true, and_self, if_true, if_false, Nat.add_zero]
      · next early => exact Pass.workOn_report ⟨unfinished, early⟩

/-! ## All visits -/

/-- What has come of some visits. -/
structure Went (now : Instant) (before : Pass) (visits : List Visit) (after : Pass) : Prop where
  run : before.group.Reach after.group
  homes : after.group.homes = before.group.homes
  records : after.store.records = before.store.records
  distinct : before.store.Distinct → after.store.Distinct
  treated : ∀ visit ∈ visits, Treated now before after visit.job visit.told
  leaves : ∀ id, (∀ visit ∈ visits, visit.job.id ≠ id) → Pass.Leaves id before after
  report : after.report = before.report.plus (tally now before.group visits)

theorem Pass.visits_jobs : (pass.visits now jobs).map Visit.job = jobs := by
  induction jobs generalizing pass with
  | nil => rfl
  | cons job rest ih => rw [Pass.visits, List.map_cons, ih]

theorem Pass.job_of_mem_visits (inside : visit ∈ pass.visits now jobs) : visit.job ∈ jobs := by
  have listed : visit.job ∈ (pass.visits now jobs).map Visit.job := List.mem_map_of_mem inside
  rwa [Pass.visits_jobs] at listed

/-- Every job is visited. -/
theorem Pass.visit_of_mem (now : Instant) (pass : Pass) (inside : job ∈ jobs) :
    ∃ visit ∈ pass.visits now jobs, visit.job = job := by
  have listed : job ∈ (pass.visits now jobs).map Visit.job := by rwa [Pass.visits_jobs]
  exact List.mem_map.mp listed

/-- Of the visits to different jobs each one finds and leaves its job as all of them do. -/
theorem Pass.visits_went (sound : pass.group.Sound) (distinct : (jobs.map Job.id).Nodup)
    (stored : ∀ job ∈ jobs, pass.store.job? job.id = some job) :
    Went now pass (pass.visits now jobs) (jobs.foldl (Pass.visit {} now) pass) := by
  induction jobs generalizing pass with
  | nil =>
      exact ⟨.refl, rfl, rfl, id, fun visit inside => (by cases inside), fun id _ => .refl, rfl⟩
  | cons job rest ih =>
      obtain ⟨new, others⟩ := List.nodup_cons.mp distinct
      have visited := Pass.visit_visited now sound (stored job List.mem_cons_self)
      have report := Pass.visit_report now job sound
      have apart : ∀ id, id ≠ job.id → Pass.Leaves id pass (pass.visit {} now job) := fun _ =>
        visited.leaves
      have later : ∀ other ∈ rest, other.id ≠ job.id := fun other inside same =>
        new (same ▸ List.mem_map_of_mem inside)
      have went := ih (sound.reach visited.around.run) others fun other inside => by
        rw [(apart other.id (later other inside)).stored]
        exact stored other (List.mem_cons_of_mem _ inside)
      have ahead : ∀ visit ∈ (pass.visit {} now job).visits now rest, visit.job ∈ rest := fun _ =>
        Pass.job_of_mem_visits
      rw [Pass.visits, List.foldl_cons]
      refine ⟨visited.around.run.trans went.run, went.homes.trans visited.around.homes,
        went.records.trans visited.records, fun before => went.distinct (visited.distinct before),
        fun visit inside => ?_, fun id away => ?_, ?_⟩
      · rcases List.mem_cons.mp inside with rfl | inside
        · exact visited.treated.onward (went.leaves job.id fun visit inside =>
            later visit.job (ahead visit inside))
        · exact (went.treated visit inside).since
            (apart visit.job.id (later visit.job (ahead visit inside)))
      · have here := away _ List.mem_cons_self
        exact (apart id (Ne.symm here)).trans
          (went.leaves id fun visit inside => away visit (List.mem_cons_of_mem _ inside))
      · rw [went.report, report, tally_congr fun visit inside =>
          (apart visit.job.id (later visit.job (ahead visit inside))).knows,
          tally_cons _ ((pass.visit {} now job).visits now rest), CycleReport.plus_assoc]

/-! ## Cycles -/

/-- How a cycle begins. -/
def Pass.start (settings : Settings) (store : Store) (group : Group) : Pass where
  store := store
  group := group
  calls := [.recentJobs settings.recencyDays]

variable {settings : Settings} {store : Store} {report : CycleReport}

/-- A cycle that a store answers to succeeds when the calendar names the day from which on jobs are
recent. -/
theorem cycle_finished (group : Group)
    (recent : store.recentJobs? now settings.recencyDays = some jobs) :
    cycle settings now {} store group =
      (jobs.foldl (Pass.visit {} now) (Pass.start settings store group),
        .finished (jobs.foldl (Pass.visit {} now) (Pass.start settings store group)).report) := by
  simp only [cycle, recent]
  rfl

theorem cycle_went (sound : group.Sound) (distinct : store.Distinct)
    (done : cycle settings now {} store group = (pass, .finished report)) :
    ∃ jobs, store.recentJobs? now settings.recencyDays = some jobs ∧ report = pass.report ∧
      Went now (Pass.start settings store group)
        ((Pass.start settings store group).visits now jobs) pass := by
  cases recent : store.recentJobs? now settings.recencyDays with
  | none =>
      simp only [cycle, recent] at done
      cases done
  | some jobs =>
      rw [cycle_finished group recent] at done
      cases done
      exact ⟨jobs, rfl, rfl, Pass.visits_went sound (distinct.recent_nodup recent)
        fun job inside => distinct.recent_stored recent inside⟩

/-- A cycle that succeeds visits the recent jobs and treats each by its class. A finished job is let
go of everywhere; an expired one is marked ABORTED and let go of everywhere. An active job is marked
FAILED when a manager answered with its fatal failure. If none did, it is as it was, and every
instance has of it the slots that it had and those of the records that it holds. Either way the
instances that track it show it as it was read, with the status that it now has. All other jobs are
left alone, and the report counts the visits. -/
theorem cycle_by_class (reachable : group.Reachable) (distinct : store.Distinct)
    (done : cycle settings now {} store group = (pass, .finished report)) :
    ∃ jobs visits, store.recentJobs? now settings.recencyDays = some jobs ∧
      visits = (Pass.start settings store group).visits now jobs ∧
      visits.map Visit.job = jobs ∧
      (∀ visit ∈ visits,
        Treated now (Pass.start settings store group) pass visit.job visit.told) ∧
      (∀ id, (∀ job ∈ jobs, job.id ≠ id) →
        Pass.Leaves id (Pass.start settings store group) pass) ∧
      pass.group.homes = group.homes ∧ pass.store.records = store.records ∧
      report = tally now group visits := by
  obtain ⟨jobs, recent, rfl, went⟩ := cycle_went reachable.sound distinct done
  refine ⟨jobs, _, recent, rfl, Pass.visits_jobs, went.treated, fun id away => ?_, went.homes,
    went.records, ?_⟩
  · exact went.leaves id fun visit inside => away visit.job (Pass.job_of_mem_visits inside)
  · rw [went.report]
    exact CycleReport.empty_plus _

end Discovery

/-- A job that was made at a Unix millisecond, for small stores. -/
def Job.small (born : Int) (status : JobStatus) (expires : Int) : Job :=
  ⟨.ofMillis born, "k", "t", none, status, .ofMillis expires⟩

/-- A recorded slice of such a job. -/
def SliceRecord.small (born : Int) (bucket : Int16) (replicas : List String) : SliceRecord :=
  ⟨.ofMillis born, "", bucket, "b", "k", "t", "x", "y", 0, replicas⟩

/-- A finished job, one that expires after four seconds, and one of two slices, of which one is for
another instance. -/
def Store.small : Store where
  jobs := [.small 1 .succeeded 9000, .small 2 .created 4000, .small 3 .created 9000]
  records := [.small 3 0 [], .small 3 1 ["elsewhere"]]

/-- A slice of the finished job was submitted. -/
def Discovery.smallRun : List Group.Act :=
  [.build { Piece.small 0 with job := .ofMillis 1 },
    .on 1 (.submit 0 ⟨0, .small 1 .succeeded 9000⟩)]

theorem Discovery.cycle_by_class_small :
    ∃ pass report visits,
      cycle {} (.ofMillis 5000) {} .small (Group.smallAfter smallRun) = (pass, .finished report) ∧
      visits.map Visit.job = Store.small.jobs ∧
      (∀ visit ∈ visits, Treated (.ofMillis 5000) (Pass.start {} .small (Group.smallAfter smallRun))
        pass visit.job visit.told) ∧
      report = tally (.ofMillis 5000) (Group.smallAfter smallRun) visits ∧
      report = { activeJobs := 1, removedJobs := 1, abortedJobs := 1, submittedSlices := 1 } := by
  have sorted : Store.small.jobs.Pairwise fun left right =>
      Store.birth left ≤ Store.birth right := by
    decide
  have recent : Store.small.recentJobs? (.ofMillis 5000) ({} : Settings).recencyDays = _ :=
    Store.recentJobs?_of_sorted ⟨-431995000000000⟩ (by decide) sorted
  have all : (Store.small.jobs.filter fun job => Store.IsRecent ⟨-431995000000000⟩ job) =
      Store.small.jobs := by
    decide
  rw [all] at recent
  have done := cycle_finished (Group.smallAfter smallRun) recent
  obtain ⟨jobs, visits, recent', -, same, treated, -, -, -, report⟩ :=
    cycle_by_class (Group.reachable_smallAfter smallRun) (by decide) done
  obtain rfl := Option.some.inj (recent.symm.trans recent')
  exact ⟨_, _, visits, done, same, treated, report, by decide⟩

end Restage
