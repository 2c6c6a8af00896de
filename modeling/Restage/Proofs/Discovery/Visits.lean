import Restage.Proofs.Discovery.Submitting
import Restage.Proofs.Store

/-!
# Visits of a cycle

A cycle comes to one job after the other. `Discovery.Treated` says what has become of a job that it
came to, by the class of the job, and `Pass.Leaves` that nothing has become of a job. A visit treats
its job and leaves all others alone (`Pass.visit_visited`, `Pass.Visited.leaves`), so what a cycle
does to a job is what its visit does.
-/

namespace Restage

open Manager Discovery

/-- A job that is neither finished nor expired is worked on. -/
def Job.IsActive (job : Job) (now : Instant) : Prop := ¬ job.IsTerminal ∧ ¬ job.IsExpired now

instance (job : Job) (now : Instant) : Decidable (job.IsActive now) :=
  inferInstanceAs (Decidable (_ ∧ _))

/-- The status that a store has recorded once it was asked to. -/
def Outage.recorded (outage : Outage) (status : JobStatus) : Option JobStatus :=
  if outage.update then none else some status

/-- A store that answers tells the records of a job. -/
theorem Outage.reads : ¬ ({} : Outage).records = true := Bool.false_ne_true

variable {group group' : Group} {job : Job} {now : Instant} {pass before after : Pass}

/-! ## Sights on every instance -/

/-- What is asked of every instance is seen wherever a job is seen. -/
theorem Group.Shows.everywhere {job : TimeId} {effect : Option Sight → Option Sight}
    (shows : Group.Shows job (fun _ seen => effect seen) group.homes group group')
    (nothing : effect none = none) (id : UInt32) :
    group'.sight? id job = effect (group.sight? id job) := by
  by_cases listed : ∃ home ∈ group.homes, home.id = id
  · obtain ⟨home, inside, rfl⟩ := listed
    exact shows.here home inside
  · have absent : ∀ home ∈ group.homes, home.id ≠ id := fun home inside same =>
      listed ⟨home, inside, same⟩
    rw [shows.elsewhere id absent, Group.sight?_of_unlisted absent, nothing]

/-- A new descriptor is made for a job, and every instance shows it. -/
def Group.present (group : Group) (job : Job) : Group :=
  { group with floor := (group.floor.describe job).1 }.updateJob (group.floor.describe job).2

theorem Group.Sound.presented (sound : group.Sound) (job : Job) :
    Group.Shows job.id (fun _ seen => Sight.described (group.floor.describe job).2 seen) group.homes
      group (group.present job) := by
  have first : group.Step { group with floor := (group.floor.describe job).1 } :=
    ⟨.describe job, rfl⟩
  have shows := (sound.step first).updated (group.floor.describe job).2
  exact ⟨⟨.head first shows.run, shows.homes, shows.jobs⟩, shows.here, shows.elsewhere⟩

section

variable {descriptor : Descriptor} {seen : Option Sight}

/-- A job is seen with the descriptor that was last made for it. -/
theorem Sight.of_described {sight : Sight} (shown : sight ∈ Sight.described descriptor seen) :
    sight.descriptor = descriptor := by
  obtain ⟨old, -, rfl⟩ := Option.map_eq_some_iff.mp shown
  rfl

theorem Sight.described_fatal :
    (Sight.described descriptor seen).bind Sight.fatal = seen.bind Sight.fatal := by
  cases seen <;> rfl

theorem Sight.described_slots {slot : Slot} :
    (∃ sight ∈ Sight.described descriptor seen, slot ∈ sight.slots) ↔
      ∃ sight ∈ seen, slot ∈ sight.slots := by
  cases seen <;> simp [Sight.described]

end

/-! ## What becomes of a job -/

namespace Discovery

/-- What the managers answer to the slices of a job that a cycle comes to. Only the slices of an
active job are given out. -/
def Pass.told (now : Instant) (pass : Pass) (job : Job) : List (Except JobFault Standing) :=
  if job.IsActive now then
    allAnswers (pass.group.floor.describe job).2 (pass.group.present job).floor
      (pass.group.present job).managers (pass.store.recordsOf job.id)
  else []

/-- What has become of a job between two points of a cycle, when `told` is what the managers
answered to its slices. -/
inductive Treated (now : Instant) (before after : Pass) (job : Job) :
    List (Except JobFault Standing) → Prop
  | finished (terminal : job.IsTerminal) (stored : after.store.job? job.id = some job)
    (gone : ∀ id, after.group.sight? id job.id = none) : Treated now before after job []
  | expired (unfinished : ¬ job.IsTerminal) (late : job.IsExpired now)
    (stored : after.store.job? job.id = some (job.withStatus .aborted))
    (gone : ∀ id, after.group.sight? id job.id = none) : Treated now before after job []
  /-- An instance that there is a slice for has recorded a fatal failure of the job. -/
  | failed {told : List (Except JobFault Standing)} {failure : FatalFailure}
    (active : job.IsActive now) (fatal : .error (.fatal failure) ∈ told) (home : Instance)
    (listed : home ∈ before.group.homes)
    (wanted : ∃ record ∈ before.store.recordsOf job.id, home.Holds record.replicas)
    (recorded : (before.group.sight? home.id job.id).bind Sight.fatal = some failure)
    (stored : after.store.job? job.id = some (job.withStatus .failed))
    (shown : ∀ id, ∀ sight ∈ after.group.sight? id job.id,
      sight.descriptor.job = job.withStatus .failed) : Treated now before after job told
  | given {told : List (Except JobFault Standing)} (active : job.IsActive now)
    (fine : ∀ failure, .error (.fatal failure) ∉ told)
    (unbarred : ∀ home ∈ before.group.homes,
      (∃ record ∈ before.store.recordsOf job.id, home.Holds record.replicas) →
        (before.group.sight? home.id job.id).bind Sight.fatal = none)
    (stored : after.store.job? job.id = some job)
    (shown : ∀ id, ∀ sight ∈ after.group.sight? id job.id, sight.descriptor.job = job)
    (slots : ∀ home ∈ before.group.homes, ∀ slot,
      (∃ sight ∈ after.group.sight? home.id job.id, slot ∈ sight.slots) ↔
        (∃ sight ∈ before.group.sight? home.id job.id, slot ∈ sight.slots) ∨
          ∃ record ∈ before.store.recordsOf job.id,
            home.Holds record.replicas ∧ slot = slotAt home record) :
    Treated now before after job told

/-- Nothing has become of a job between two points of a cycle. -/
structure Pass.Leaves (id : TimeId) (before after : Pass) : Prop where
  stored : after.store.job? id = before.store.job? id
  records : after.store.records = before.store.records
  homes : after.group.homes = before.group.homes
  shown : ∀ home, after.group.sight? home id = before.group.sight? home id

namespace Pass.Leaves

variable {id : TimeId} {first last : Pass}

theorem refl : Pass.Leaves id pass pass := ⟨rfl, rfl, rfl, fun _ => rfl⟩

theorem trans (left : Pass.Leaves id before pass) (right : Pass.Leaves id pass after) :
    Pass.Leaves id before after where
  stored := right.stored.trans left.stored
  records := right.records.trans left.records
  homes := right.homes.trans left.homes
  shown := fun home => (right.shown home).trans (left.shown home)

theorem recordsOf (leaves : Pass.Leaves id before after) (job : TimeId) :
    after.store.recordsOf job = before.store.recordsOf job := by
  rw [Store.recordsOf, Store.recordsOf, leaves.records]

end Pass.Leaves

variable {told : List (Except JobFault Standing)} {descriptor : Descriptor}

/-- A job stays treated as long as it is left alone. -/
theorem Treated.onward {last : Pass} (treated : Treated now before after job told)
    (leaves : Pass.Leaves job.id after last) : Treated now before last job told := by
  cases treated with
  | finished terminal stored gone =>
      refine .finished terminal (leaves.stored.trans stored) fun id => ?_
      rw [leaves.shown, gone]
  | expired unfinished late stored gone =>
      refine .expired unfinished late (leaves.stored.trans stored) fun id => ?_
      rw [leaves.shown, gone]
  | failed active fatal home listed wanted recorded stored shown =>
      refine .failed active fatal home listed wanted recorded (leaves.stored.trans stored)
        fun id => ?_
      rw [leaves.shown]
      exact shown id
  | given active fine unbarred stored shown slots =>
      refine .given active fine unbarred (leaves.stored.trans stored) (fun id => ?_)
        fun home listed slot => ?_
      · rw [leaves.shown]
        exact shown id
      · rw [leaves.shown]
        exact slots home listed slot

/-- A job is treated as it would have been while it was left alone. -/
theorem Treated.since {first : Pass} (treated : Treated now before after job told)
    (leaves : Pass.Leaves job.id first before) : Treated now first after job told := by
  have records := leaves.recordsOf job.id
  cases treated with
  | finished terminal stored gone => exact .finished terminal stored gone
  | expired unfinished late stored gone => exact .expired unfinished late stored gone
  | failed active fatal home listed wanted recorded stored shown =>
      rw [leaves.homes] at listed
      rw [records] at wanted
      rw [leaves.shown] at recorded
      exact .failed active fatal home listed wanted recorded stored shown
  | given active fine unbarred stored shown slots =>
      refine .given active fine (fun home listed => ?_) stored shown fun home listed slot => ?_
      · rw [← records, ← leaves.shown]
        exact unbarred home (leaves.homes ▸ listed)
      · rw [← records, ← leaves.shown]
        exact slots home (leaves.homes ▸ listed) slot

/-! ## Visits -/

section

variable {outage : Outage} {status : JobStatus} {id : TimeId} {floor : Floor}
  {managers : List Manager}

theorem Pass.mark_noted :
    (pass.mark outage id status).store = pass.store.noted id (outage.recorded status) := by
  unfold Pass.mark Outage.recorded
  split <;> rfl

theorem Pass.mark_group : (pass.mark outage id status).group = pass.group := by
  unfold Pass.mark
  split <;> rfl

theorem Pass.mark_report : (pass.mark outage id status).report = pass.report := by
  unfold Pass.mark
  split <;> rfl

theorem Pass.giveUp_parts :
    (pass.giveUp outage job).group = pass.group.present (job.withStatus .failed) ∧
      (pass.giveUp outage job).store = pass.store.noted job.id (outage.recorded .failed) ∧
      (pass.giveUp outage job).report =
        { pass.report with failedJobs := pass.report.failedJobs + 1 } := by
  have store : (pass.mark outage job.id .failed).store = _ := Pass.mark_noted
  refine ⟨?_, ?_, ?_⟩ <;> simp only [Pass.giveUp, Pass.mark_group, Pass.mark_report, store]
  rfl

/-- The slices of an active job are given out to the last. -/
theorem Pass.workOn_given {fresh : Nat} (read : ¬ outage.records = true)
    (done : submitRecords (pass.group.floor.describe job).2 (pass.group.present job).floor
      (pass.group.present job).managers (pass.store.recordsOf job.id) =
        (floor, managers, .ok fresh)) :
    (pass.workOn outage job).group = ⟨floor, managers⟩ ∧
      (pass.workOn outage job).store = pass.store ∧
      (pass.workOn outage job).report = { pass.report with
        activeJobs := pass.report.activeJobs + 1
        submittedSlices := pass.report.submittedSlices + fresh } := by
  unfold Group.present at done
  refine ⟨?_, ?_, ?_⟩ <;>
    simp only [Pass.workOn, Pass.ask, if_neg read, Pass.submitAll, done]

/-- An active job is given up. -/
theorem Pass.workOn_stopped {failure : FatalFailure} (read : ¬ outage.records = true)
    (done : submitRecords (pass.group.floor.describe job).2 (pass.group.present job).floor
      (pass.group.present job).managers (pass.store.recordsOf job.id) =
        (floor, managers, .error failure)) :
    (pass.workOn outage job).group = Group.present ⟨floor, managers⟩ (job.withStatus .failed) ∧
      (pass.workOn outage job).store = pass.store.noted job.id (outage.recorded .failed) ∧
      (pass.workOn outage job).report = { pass.report with
        activeJobs := pass.report.activeJobs + 1
        failedJobs := pass.report.failedJobs + 1 } := by
  unfold Group.present at done
  simp only [Pass.workOn, Pass.ask, if_neg read, Pass.submitAll, done]
  exact Pass.giveUp_parts

end

/-- What a visit has to show for itself. -/
structure Pass.Visited (now : Instant) (pass : Pass) (job : Job) (pass' : Pass) : Prop where
  around : Group.Around job.id pass.group pass'.group
  store : pass'.store = pass.store ∨
    ∃ status, pass'.store = pass.store.insertJob (job.withStatus status)
  treated : Treated now pass pass' job (pass.told now job)

theorem Pass.Visited.records {pass' : Pass} (visited : Pass.Visited now pass job pass') :
    pass'.store.records = pass.store.records := by
  rcases visited.store with same | ⟨status, same⟩ <;> rw [same]
  rfl

theorem Pass.Visited.distinct {pass' : Pass} (visited : Pass.Visited now pass job pass')
    (distinct : pass.store.Distinct) : pass'.store.Distinct := by
  rcases visited.store with same | ⟨status, same⟩ <;> rw [same]
  · exact distinct
  · exact distinct.insertJob _

/-- A visit leaves all other jobs alone. -/
theorem Pass.Visited.leaves {pass' : Pass} {id : TimeId} (visited : Pass.Visited now pass job pass')
    (other : id ≠ job.id) : Pass.Leaves id pass pass' := by
  refine ⟨?_, visited.records, visited.around.homes, fun home => visited.around.jobs home id other⟩
  rcases visited.store with same | ⟨status, same⟩
  · rw [same]
  · rw [same, Store.job?_insertJob]
    exact if_neg other

theorem Pass.dropFinished_visited (sound : pass.group.Sound)
    (stored : pass.store.job? job.id = some job) (terminal : job.IsTerminal) :
    Pass.Visited now pass job (pass.dropFinished job) := by
  obtain ⟨removed, -⟩ := sound.removed job.id
  refine ⟨removed.toAround, .inl rfl, ?_⟩
  rw [Pass.told, if_neg fun active => active.1 terminal]
  exact .finished terminal stored (removed.everywhere rfl)

theorem Pass.abort_visited (sound : pass.group.Sound)
    (stored : pass.store.job? job.id = some job) (unfinished : ¬ job.IsTerminal)
    (late : job.IsExpired now) : Pass.Visited now pass job (pass.abort {} job) := by
  obtain ⟨removed, -⟩ := sound.removed job.id
  have store : (pass.abort {} job).store = pass.store.insertJob (job.withStatus .aborted) :=
    Pass.mark_noted.trans (Store.noted_of_known stored _)
  have group : (pass.abort {} job).group = (pass.group.removeJob job.id).1 := by
    simp only [Pass.abort, Pass.mark_group]
  refine ⟨group ▸ removed.toAround, .inr ⟨_, store⟩, ?_⟩
  rw [Pass.told, if_neg fun active => active.2 late]
  refine .expired unfinished late ?_ fun id => ?_
  · rw [store, Store.job?_insertJob]
    exact if_pos rfl
  · rw [group]
    exact removed.everywhere rfl id

/-- All slices of a job were given out. -/
theorem Treated.of_taken (active : job.IsActive now)
    (presented : Group.Shows job.id (fun _ seen => Sight.described descriptor seen)
      before.group.homes before.group group)
    (label : descriptor.job = job)
    (shows : Group.Shows job.id (Sight.offerAll descriptor (before.store.recordsOf job.id))
      before.group.homes group after.group)
    (unbarred : ∀ home ∈ before.group.homes,
      (∃ record ∈ before.store.recordsOf job.id, home.Holds record.replicas) →
        (group.sight? home.id job.id).bind Sight.fatal = none)
    (fine : ∀ failure, .error (.fatal failure) ∉ told)
    (stored : after.store.job? job.id = some job) : Treated now before after job told := by
  have fatals : ∀ id, (group.sight? id job.id).bind Sight.fatal =
      (before.group.sight? id job.id).bind Sight.fatal := by
    intro id
    rw [presented.everywhere rfl, Sight.described_fatal]
  have mine : ∀ id, ∀ sight ∈ group.sight? id job.id, sight.descriptor = descriptor := by
    intro id sight shown
    rw [presented.everywhere rfl] at shown
    exact Sight.of_described shown
  refine .given active fine (fun home listed wanted => ?_) stored (fun id sight shown => ?_)
    fun home listed slot => ?_
  · rw [← fatals]
    exact unbarred home listed wanted
  · rw [← label]
    by_cases known : ∃ home ∈ before.group.homes, home.id = id
    · obtain ⟨home, listed, rfl⟩ := known
      rw [shows.here home listed] at shown
      exact congrArg _ (Sight.offerAll_descriptor (mine home.id) shown)
    · rw [shows.elsewhere id fun home listed same => known ⟨home, listed, same⟩] at shown
      exact congrArg _ (mine id sight shown)
  · have slots : (∃ sight ∈ group.sight? home.id job.id, slot ∈ sight.slots) ↔
        ∃ sight ∈ before.group.sight? home.id job.id, slot ∈ sight.slots := by
      rw [presented.everywhere rfl, Sight.described_slots]
    rw [shows.here home listed, ← slots]
    by_cases wanted : ∃ record ∈ before.store.recordsOf job.id, home.Holds record.replicas
    · exact Sight.mem_offerAll (unbarred home listed wanted)
    · have idle : Sight.offerAll descriptor (before.store.recordsOf job.id) home
          (group.sight? home.id job.id) = group.sight? home.id job.id :=
        Sight.offerAll_of_unwanted fun record inside holds => wanted ⟨record, inside, holds⟩
      rw [idle]
      refine (or_iff_left ?_).symm
      rintro ⟨record, inside, holds, -⟩
      exact wanted ⟨record, inside, holds⟩

/-- An instance has answered with a fatal failure, and the job was given up. -/
theorem Treated.of_stopped {failure : FatalFailure} {home : Instance} (active : job.IsActive now)
    (presented : Group.Shows job.id (fun _ seen => Sight.described descriptor seen)
      before.group.homes before.group group)
    (listed : home ∈ before.group.homes)
    (wanted : ∃ record ∈ before.store.recordsOf job.id, home.Holds record.replicas)
    (recorded : (group.sight? home.id job.id).bind Sight.fatal = some failure)
    (fatal : .error (.fatal failure) ∈ told) (sound : group'.Sound)
    (marked : after.group = group'.present (job.withStatus .failed))
    (stored : after.store.job? job.id = some (job.withStatus .failed)) :
    Treated now before after job told := by
  have failed := sound.presented (job.withStatus .failed)
  rw [presented.everywhere rfl, Sight.described_fatal] at recorded
  refine .failed active fatal home listed wanted recorded stored fun id sight shown => ?_
  have seen := failed.everywhere rfl id
  rw [marked] at shown
  exact congrArg _ (Sight.of_described (seen ▸ shown))

theorem Pass.workOn_visited (sound : pass.group.Sound)
    (stored : pass.store.job? job.id = some job) (active : job.IsActive now) :
    Pass.Visited now pass job (pass.workOn {} job) := by
  have presented := sound.presented job
  have offered := submitRecords_offered (pass.group.floor.describe job).2
    (pass.store.recordsOf job.id) (sound.reach presented.run) fun record inside =>
      Store.job_of_mem_recordsOf inside
  have tells := submitRecords_tells (pass.group.floor.describe job).2
    (pass.group.present job).floor (pass.group.present job).managers (pass.store.recordsOf job.id)
  have told : pass.told now job = _ := if_pos active
  rw [← told] at tells
  rw [presented.homes] at offered
  generalize done : submitRecords (pass.group.floor.describe job).2 (pass.group.present job).floor
    (pass.group.present job).managers (pass.store.recordsOf job.id) = result at offered tells
  obtain ⟨floor, managers, answer⟩ := result
  cases offered with
  | taken shows unbarred =>
      cases tells with
      | taken fine =>
          obtain ⟨group, store, -⟩ := Pass.workOn_given Outage.reads done
          rw [← group] at shows
          refine ⟨presented.toAround.trans shows.toAround, .inl store, ?_⟩
          exact .of_taken active presented rfl shows unbarred fine (by rwa [store])
  | stopped around home listed wanted recorded =>
      cases tells with
      | stopped fatal =>
          have given : Group.Around job.id pass.group ⟨floor, managers⟩ :=
            presented.toAround.trans around
          have sound' := sound.reach given.run
          have failed := sound'.presented (job.withStatus .failed)
          obtain ⟨group, marked, -⟩ := Pass.workOn_stopped Outage.reads done
          have store := marked.trans (Store.noted_of_known stored _)
          refine ⟨group ▸ given.trans failed.toAround, .inr ⟨_, store⟩, ?_⟩
          refine .of_stopped active presented listed wanted recorded fatal sound' group ?_
          rw [store, Store.job?_insertJob]
          exact if_pos rfl

theorem Pass.visit_visited (now : Instant) (sound : pass.group.Sound)
    (stored : pass.store.job? job.id = some job) :
    Pass.Visited now pass job (pass.visit {} now job) := by
  unfold Pass.visit
  split
  · next terminal => exact Pass.dropFinished_visited sound stored terminal
  · next unfinished =>
      split
      · next late => exact Pass.abort_visited sound stored unfinished late
      · next early => exact Pass.workOn_visited sound stored ⟨unfinished, early⟩

end Discovery

end Restage
