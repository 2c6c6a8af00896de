import Restage.Proofs.Discovery.Turns

/-!
# The order of visits

The jobs of a cycle have different identifiers, and the turn of each depends on nothing that the
turns of the others change. So the visits to some jobs come to what their turns come to one by one
(`Discovery.Pass.Toured`), and it does not matter in which order a cycle comes to them
(`Discovery.visits_in_any_order`).
-/

namespace Restage

open Manager

theorem CycleReport.plus_right_comm (report first second : CycleReport) :
    (report.plus first).plus second = (report.plus second).plus first := by
  simp only [CycleReport.plus, Nat.add_right_comm]

namespace Discovery

variable {base : Nat} {outage : TimeId → Outage} {now : Instant} {first pass : Pass} {job : Job}
  {jobs visited : List Job}

/-- The visits to some jobs, when the store may fail to answer about each of them on its own. -/
def Pass.visitAll (outage : TimeId → Outage) (now : Instant) (first : Pass) (jobs : List Job) :
    Pass :=
  jobs.foldl (fun pass job => pass.visit (outage job.id) now job) first

/-- What has come of the visits to some jobs: each has had the turn that it would have had at the
beginning. -/
structure Pass.Toured (base : Nat) (outage : TimeId → Outage) (now : Instant) (first : Pass)
    (visited : List Job) (pass : Pass) : Prop where
  run : first.group.Reach pass.group
  homes : pass.group.homes = first.group.homes
  posts : ∀ id, pass.group.queue? id = first.group.queue? id
  seen : ∀ job ∈ visited, ∀ id, pass.group.portrait? base id job.id =
    (first.turn base (outage job.id) now job).view.seen id
  others : ∀ id other, (∀ job ∈ visited, job.id ≠ other) →
    pass.group.portrait? base id other = first.group.portrait? base id other
  queued : ∀ id q, first.group.queue? id = some q → Floor.Pushed base q
    (visited.flatMap fun job => (first.turn base (outage job.id) now job).view.queued id)
    first.group.floor pass.group.floor
  store : pass.store =
    first.store.notedAll (fun job => (first.turn base (outage job.id) now job).mark) visited
  report : pass.report = visited.foldl (fun report job =>
    report.plus (first.turn base (outage job.id) now job).report) first.report

theorem Pass.Toured.refl : Pass.Toured base outage now first [] first :=
  ⟨.refl, rfl, fun _ => rfl, nofun, fun _ _ _ => rfl, fun _ _ _ => .nil rfl, rfl, rfl⟩

theorem Pass.Toured.records (toured : Pass.Toured base outage now first visited pass) :
    pass.store.records = first.store.records := by
  rw [toured.store, Store.notedAll_records]

/-- The turn of a job does not depend on the visits to other jobs. -/
theorem Pass.Toured.turn_eq (toured : Pass.Toured base outage now first visited pass)
    (new : job.id ∉ visited.map Job.id) (outage' : Outage) :
    pass.turn base outage' now job = first.turn base outage' now job := by
  have portraits : Panorama.ofGroup base pass.group job.id =
      Panorama.ofGroup base first.group job.id := by
    unfold Panorama.ofGroup
    congr 1
    funext id
    exact toured.others id job.id fun other inside same =>
      new (same ▸ List.mem_map_of_mem inside)
  rw [Pass.turn, Pass.turn, toured.homes, portraits, Store.recordsOf, Store.recordsOf,
    toured.records]

/-- One visit more. -/
theorem Pass.Toured.visit (toured : Pass.Toured base outage now first visited pass)
    (sound : first.group.Sound) (old : base ≤ first.group.floor.slices.size)
    (new : job.id ∉ visited.map Job.id) :
    Pass.Toured base outage now first (visited ++ [job])
      (pass.visit (outage job.id) now job) := by
  have current := sound.reach toured.run
  have grown := (sound.ages_reach toured.run).size_le
  obtain ⟨depicts, store, report⟩ :=
    Pass.visit_turn (outage job.id) now job current (Nat.le_trans old grown)
  rw [toured.turn_eq new] at depicts store report
  have apart : ∀ other ∈ visited, other.id ≠ job.id := fun other inside same =>
    new (same ▸ List.mem_map_of_mem inside)
  refine ⟨toured.run.trans depicts.run, depicts.homes.trans toured.homes,
    fun id => (depicts.posts id).trans (toured.posts id), fun other inside id => ?_,
    fun id other away => ?_, fun id q posted => ?_, ?_, ?_⟩
  · rcases List.mem_append.mp inside with inside | last
    · rw [depicts.others id other.id (apart other inside)]
      exact toured.seen other inside id
    · rw [List.mem_singleton.mp last]
      exact depicts.seen id
  · have here := away job (List.mem_append_right _ List.mem_cons_self)
    rw [depicts.others id other (Ne.symm here)]
    exact toured.others id other fun job' inside => away job' (List.mem_append_left _ inside)
  · have later := depicts.queued id q ((toured.posts id).trans posted)
    rw [List.flatMap_append, List.flatMap_singleton]
    exact (toured.queued id q posted).trans later (current.ages_reach depicts.run)
  · rw [Store.notedAll, List.foldl_append]
    rw [toured.store] at store
    exact store
  · rw [List.foldl_append, ← toured.report]
    exact report

theorem Pass.Toured.visitAll (toured : Pass.Toured base outage now first visited pass)
    (sound : first.group.Sound) (old : base ≤ first.group.floor.slices.size)
    (distinct : ((visited ++ jobs).map Job.id).Nodup) :
    Pass.Toured base outage now first (visited ++ jobs) (pass.visitAll outage now jobs) := by
  induction jobs generalizing visited pass with
  | nil =>
      rw [List.append_nil]
      exact toured
  | cons job rest ih =>
      have apart : job.id ∉ visited.map Job.id := by
        rw [List.map_append, List.map_cons] at distinct
        exact fun inside => (List.nodup_append.mp distinct).2.2 _ inside _ List.mem_cons_self rfl
      have onward : visited ++ job :: rest = (visited ++ [job]) ++ rest := by
        rw [List.append_assoc]
        rfl
      rw [onward] at distinct ⊢
      exact ih (toured.visit sound old apart) distinct

/-- The visits to different jobs give each its turn. -/
theorem Pass.visitAll_toured (outage : TimeId → Outage) (now : Instant)
    (sound : first.group.Sound) (old : base ≤ first.group.floor.slices.size)
    (distinct : (jobs.map Job.id).Nodup) :
    Pass.Toured base outage now first jobs (first.visitAll outage now jobs) :=
  Pass.Toured.visitAll .refl sound old distinct

/-! ## Any order -/

/-- Two ends of a pass that began with `first` are alike: the report and with it the pace, the store,
and on every instance the tracked jobs and all that is shown of them. The slices that have come to
the queues may stand there in another order. -/
structure Pass.Alike (first pass pass' : Pass) : Prop where
  report : pass'.report = pass.report
  pace : Pace.after pass'.report = Pace.after pass.report
  store : pass'.store = pass.store
  tracked : ∀ id job, pass'.group.tracks id job = pass.group.tracks id job
  shown : ∀ id job, pass'.group.portrait? first.group.floor.slices.size id job =
    pass.group.portrait? first.group.floor.slices.size id job
  queued : ∀ id q, first.group.queue? id = some q →
    pass.group.queue? id = some q ∧ pass'.group.queue? id = some q ∧ ∃ tags tags',
      Floor.Pushed first.group.floor.slices.size q tags first.group.floor pass.group.floor ∧
      Floor.Pushed first.group.floor.slices.size q tags' first.group.floor pass'.group.floor ∧
      tags.Perm tags'

/-- Jobs with different identifiers may be visited in any order. -/
theorem visits_in_any_order {jobs' : List Job} (reachable : first.group.Reachable)
    (distinct : (jobs.map Job.id).Nodup) (reordered : jobs.Perm jobs')
    (outage : TimeId → Outage) (now : Instant) :
    Pass.Alike first (first.visitAll outage now jobs) (first.visitAll outage now jobs') := by
  have sound := reachable.sound
  have distinct' : (jobs'.map Job.id).Nodup := (reordered.map Job.id).nodup_iff.mp distinct
  have toured := Pass.visitAll_toured outage now sound (Nat.le_refl _) distinct
  have toured' := Pass.visitAll_toured outage now sound (Nat.le_refl _) distinct'
  generalize first.visitAll outage now jobs = pass at toured
  generalize first.visitAll outage now jobs' = pass' at toured'
  have report : pass'.report = pass.report := by
    rw [toured.report, toured'.report]
    exact (reordered.foldl_eq' (fun _ _ _ _ report => report.plus_right_comm _ _) _).symm
  have store : pass'.store = pass.store := by
    rw [toured.store, toured'.store]
    refine (reordered.foldl_eq' (fun job inside other inside' store => ?_) _).symm
    by_cases same : job.id = other.id
    · rw [List.inj_on_of_nodup_map distinct inside inside' same]
    · exact Store.noted_comm same
  have shown : ∀ id job, pass'.group.portrait? first.group.floor.slices.size id job =
      pass.group.portrait? first.group.floor.slices.size id job := by
    intro id id'
    by_cases visited : ∃ job ∈ jobs, job.id = id'
    · obtain ⟨job, inside, rfl⟩ := visited
      rw [toured.seen job inside, toured'.seen job (reordered.mem_iff.mp inside)]
    · have away : ∀ job ∈ jobs, job.id ≠ id' := fun job inside same => visited ⟨job, inside, same⟩
      rw [toured.others id id' away,
        toured'.others id id' fun job inside => away job (reordered.mem_iff.mpr inside)]
  refine ⟨report, congrArg Pace.after report, store, fun id job => ?_, shown, fun id q posted => ?_⟩
  · rw [← (sound.reach toured.run).portrait?_isSome, ← (sound.reach toured'.run).portrait?_isSome,
      shown]
  · exact ⟨(toured.posts id).trans posted, (toured'.posts id).trans posted, _, _,
      toured.queued id q posted, toured'.queued id q posted, reordered.flatMap_right _⟩

end Discovery

/-! ## Both orders -/

/-- A finished job, one that expires after four seconds, and two of one slice each. -/
def Store.busy : Store where
  jobs := [.small 1 .succeeded 9000, .small 2 .created 4000, .small 3 .created 9000,
    .small 4 .created 9000]
  records := [.small 3 0 [], .small 4 0 []]

/-- The jobs whose slices wait on an instance, the first to come first. -/
def Group.waitingJobs (group : Group) (id : UInt32) : List (Option TimeId) :=
  match group.queue? id with
  | some q => (group.floor.waiting q).map group.floor.jobOf?
  | none => []

/-- Oldest first or youngest first, only the queue shows it. -/
theorem Discovery.visits_in_any_order_busy :
    ∃ first pass pass', first = Pass.start {} .busy (Group.smallAfter smallRun) ∧
      pass = first.visitAll (fun _ => {}) (.ofMillis 5000) Store.busy.jobs ∧
      pass' = first.visitAll (fun _ => {}) (.ofMillis 5000) Store.busy.jobs.reverse ∧
      Pass.Alike first pass pass' ∧
      pass.report = { activeJobs := 2, removedJobs := 1, abortedJobs := 1, submittedSlices := 2 } ∧
      pass.group.waitingJobs 1 = [1, 3, 4].map (fun born => some (.ofMillis born)) ∧
      pass'.group.waitingJobs 1 = [1, 4, 3].map fun born => some (.ofMillis born) :=
  ⟨_, _, _, rfl, rfl, rfl, visits_in_any_order (Group.reachable_smallAfter smallRun) (by decide)
    Store.busy.jobs.reverse_perm.symm _ _, by decide, by decide, by decide⟩

end Restage
