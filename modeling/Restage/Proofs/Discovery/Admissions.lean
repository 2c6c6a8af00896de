import Restage.Proofs.Discovery.Grants
import Restage.Proofs.Discovery.Repeats
import Mathlib.Algebra.Order.Ring.Nat

/-!
# What a cycle admits

A cycle admits a slice on an instance when no tracker there has one under its slot before, and one
has afterwards (`Group.Tracks`). Since the jobs of a cycle have turns of their own, what is admitted
in the cycle is what is admitted in the turns.

The report counts the slices that a job has given out to the last. If an instance answers with the
job's failure the count of the turn is lost, though other instances may have admitted slices before.
So the report counts just what was admitted of jobs that were not given up
(`Discovery.cycle_counts_admitted`), and it counts too little where the failure came later
(`Discovery.admitted_uncounted`).
-/

namespace Restage

open Manager Discovery

/-! ## Slots and their trackers -/

variable {base : Nat} {group : Group} {floor : Floor} {m : Manager} {id : UInt32} {job : TimeId}
  {slot : Slot}

/-- Whether a tracker of an instance's manager has a slice under a slot. -/
def Group.Tracks (group : Group) (id : UInt32) (slot : Slot) : Prop :=
  ∃ job, ∃ sight ∈ group.sight? id job, slot ∈ sight.slots

/-- Whether an instance shows a job as one that has failed. -/
def Group.givenUp (group : Group) (id : UInt32) (job : TimeId) : Bool :=
  (group.sight? id job).any fun sight => sight.descriptor.job.status = .failed

/-- A tracker has slices of its own job, and shows a face for each. -/
theorem Manager.Site.Sound.mem_slots (sound : Site.Sound (floor, m)) :
    (∃ sight ∈ Site.sight? (floor, m) job, slot ∈ sight.slots) ↔
      slot.job = job ∧ (Portrait.face? (Site.portrait? base (floor, m) job) slot).isSome = true := by
  cases tracked : m.tracker? job with
  | none =>
      rw [Site.sight?_untracked tracked, Site.portrait?_untracked tracked]
      simp [Portrait.face?]
  | some t =>
      obtain ⟨k, found, -, -, label⟩ := sound.tracks.of_tracked tracked
      rw [Site.sight?_tracked tracked found, Site.portrait?_tracked tracked found]
      constructor
      · rintro ⟨sight, shown, listed⟩
        obtain rfl := Option.mem_some_iff.mp shown
        obtain ⟨⟨slot', i⟩, member, rfl⟩ := List.mem_map.mp listed
        obtain ⟨s, here, owner, same⟩ := sound.floor.member found member
        have of := (sound.floor.owned here owner found).2.1
        have lookup := Table.lookup_of_mem (sound.floor.slots found) member
        refine ⟨?_, ?_⟩
        · rw [← label, ← of, ← same]
          rfl
        · have face : floor.face? base k slot' = some _ := floor.face?_of_lookup lookup here
          exact Option.isSome_iff_exists.mpr ⟨_, face⟩
      · rintro ⟨-, face⟩
        refine ⟨_, rfl, ?_⟩
        obtain ⟨face, shown⟩ := Option.isSome_iff_exists.mp face
        have shown : floor.face? base k slot = some face := shown
        obtain ⟨i, lookup, -⟩ := Option.bind_eq_some_iff.mp shown
        exact List.mem_map_of_mem (Table.mem_of_lookup lookup)

theorem Group.Sound.tracks_iff (base : Nat) (sound : group.Sound) :
    group.Tracks id slot ↔
      (Portrait.face? (group.portrait? base id slot.job) slot).isSome = true := by
  have site : ∀ job, (∃ sight ∈ group.sight? id job, slot ∈ sight.slots) ↔
      slot.job = job ∧ (Portrait.face? (group.portrait? base id job) slot).isSome = true := by
    intro job
    unfold Group.sight? Group.portrait?
    cases managed : group.manager? id with
    | none => simp [Portrait.face?]
    | some m =>
        obtain ⟨member, -⟩ := Group.mem_of_manager? managed
        exact (sound.manager member).mem_slots
  constructor
  · rintro ⟨job, seen⟩
    obtain ⟨rfl, face⟩ := (site job).mp seen
    exact face
  · exact fun face => ⟨slot.job, (site slot.job).mpr ⟨rfl, face⟩⟩

theorem Group.Sound.givenUp_eq (base : Nat) (sound : group.Sound) :
    group.givenUp id job =
      (group.portrait? base id job).any fun portrait => portrait.job.status = .failed := by
  unfold Group.givenUp Group.sight? Group.portrait?
  cases managed : group.manager? id with
  | none => rfl
  | some m =>
      obtain ⟨member, -⟩ := Group.mem_of_manager? managed
      rw [Option.bind_some, Option.bind_some]
      cases tracked : m.tracker? job with
      | none =>
          rw [Site.sight?_untracked tracked, Site.portrait?_untracked tracked]
          rfl
      | some t =>
          obtain ⟨k, found, -⟩ := (sound.manager member).tracks.of_tracked tracked
          rw [Site.sight?_tracked tracked found, Site.portrait?_tracked tracked found]
          rfl

/-- At the beginning all slices are older than the base. -/
theorem Panorama.aged_ofGroup (group : Group) (job : TimeId) :
    (Panorama.ofGroup group.floor.slices.size group job).Aged := by
  intro id slot face shown _
  obtain ⟨portrait, seen, shown⟩ := Option.bind_eq_some_iff.mp shown
  obtain ⟨m, -, seen⟩ := Option.bind_eq_some_iff.mp seen
  obtain ⟨t, -, seen⟩ := Option.bind_eq_some_iff.mp seen
  obtain ⟨k, -, rfl⟩ := Option.map_eq_some_iff.mp seen
  obtain ⟨i, -, shown⟩ := Option.bind_eq_some_iff.mp shown
  obtain ⟨s, here, rfl⟩ := Option.map_eq_some_iff.mp shown
  obtain ⟨old, -⟩ := Array.getElem?_eq_some_iff.mp here
  rw [Slice.face, Slice.tag, if_pos old]
  exact Option.some_ne_none _

namespace Discovery

variable {now : Instant} {outage : Outage} {job : Job}

/-! ## Passes -/

/-- The pieces that are new in the turn of a job that a cycle comes to. -/
def Pass.admitted (base : Nat) (outage : Outage) (now : Instant) (pass : Pass) (job : Job) :
    List (UInt32 × Piece) :=
  Turn.admitted outage now pass.group.homes (pass.store.recordsOf job.id) job
    (.ofGroup base pass.group job.id)

variable {base : Nat} {pass first : Pass} {jobs : List Job}

theorem Pass.admits (base : Nat) (outage : Outage) (now : Instant) (pass : Pass) (job : Job) :
    Turn.Admits job (.ofGroup base pass.group job.id) (pass.admitted base outage now job)
      (pass.turn base outage now job) := Turn.admits _ _ _ _ _ _

/-- The new pieces of a job are of that job. -/
theorem Pass.job_of_admitted {pair : UInt32 × Slot}
    (listed : pair ∈ (pass.admitted base outage now job).map place) : pair.2.job = job.id := by
  obtain ⟨offer, inside, rfl⟩ := List.mem_map.mp listed
  unfold Pass.admitted Turn.admitted at inside
  split at inside
  · cases inside
  · exact job_of_mem_offers (fun record => Store.job_of_mem_recordsOf)
      (Panorama.mem_of_admitted inside)

theorem submitted_of_turns (turn : Job → CycleReport) (report : CycleReport) :
    (jobs.foldl (fun report job => report.plus (turn job)) report).submittedSlices =
      report.submittedSlices + (jobs.map fun job => (turn job).submittedSlices).sum := by
  induction jobs generalizing report with
  | nil => rfl
  | cons job rest ih =>
      rw [List.foldl_cons, ih, List.map_cons, List.sum_cons, ← Nat.add_assoc]
      rfl

/-- What a pass has to show for the slices that have become new members of trackers. -/
structure Pass.Admissions (first pass : Pass) (admitted : List (UInt32 × Slot)) : Prop where
  once : admitted.Nodup
  mem_iff : ∀ id slot, (id, slot) ∈ admitted ↔
    ¬ first.group.Tracks id slot ∧ pass.group.Tracks id slot
  queued : ∀ id q, first.group.queue? id = some q → ∃ tags,
    Floor.Pushed first.group.floor.slices.size q tags first.group.floor pass.group.floor ∧
    ((tags.filter fun tag => tag.origin = none).map fun tag => tag.piece.slot) =
      (admitted.filter fun pair => pair.1 = id).map Prod.snd
  counted : pass.report.submittedSlices = first.report.submittedSlices +
    admitted.countP fun pair => !pass.group.givenUp pair.1 pair.2.job
  all : pass.report.failedJobs = 0 →
    pass.report.submittedSlices = first.report.submittedSlices + admitted.length

theorem Pass.Toured.admissions {outage : TimeId → Outage}
    (toured : Pass.Toured first.group.floor.slices.size outage now first jobs pass)
    (sound : first.group.Sound) (distinct : (jobs.map Job.id).Nodup) :
    Pass.Admissions first pass (jobs.flatMap fun job =>
      (first.admitted first.group.floor.slices.size (outage job.id) now job).map place) := by
  have current := sound.reach toured.run
  have admits := fun job : Job =>
    first.admits first.group.floor.slices.size (outage job.id) now job
  refine ⟨?once, fun id slot => ?mem, fun id q posted => ?queued, ?counted, fun fine => ?all⟩
  case once =>
    refine List.nodup_flatMap.mpr ⟨fun job _ => (admits job).once, ?_⟩
    refine (List.pairwise_map.mp distinct).imp fun {job other} apart pair inside inside' => apart ?_
    rw [← Pass.job_of_admitted inside, ← Pass.job_of_admitted inside']
  case mem =>
    rw [sound.tracks_iff first.group.floor.slices.size,
      current.tracks_iff first.group.floor.slices.size, List.mem_flatMap]
    constructor
    · rintro ⟨job, visited, inside⟩
      have of : slot.job = job.id := Pass.job_of_admitted inside
      rw [of, toured.seen job visited]
      exact ((admits job).mem_iff id slot).mp inside
    · rintro ⟨free, taken⟩
      by_cases visited : ∃ job ∈ jobs, job.id = slot.job
      · obtain ⟨job, visited, of⟩ := visited
        refine ⟨job, visited, ((admits job).mem_iff id slot).mpr ?_⟩
        rw [← of] at free taken
        rw [toured.seen job visited] at taken
        exact ⟨free, taken⟩
      · rw [toured.others id slot.job fun job inside same => visited ⟨job, inside, same⟩] at taken
        exact absurd taken free
  case queued =>
    refine ⟨_, toured.queued id q posted, ?_⟩
    rw [List.filter_flatMap, List.filter_flatMap, List.map_flatMap, List.map_flatMap]
    refine List.flatMap_congr fun job _ => ?_
    have young := (admits job).queued (Panorama.aged_ofGroup first.group job.id) id rfl
    rw [young, List.map_map, List.filter_map, List.map_map]
    rfl
  case counted =>
    rw [toured.report, submitted_of_turns, List.countP_flatMap]
    congr 2
    refine List.map_congr_left fun job visited => ?_
    refine (admits job).counted _ fun pair inside => ?_
    rw [current.givenUp_eq first.group.floor.slices.size, Pass.job_of_admitted inside,
      toured.seen job visited]
  case all =>
    rw [toured.report, submitted_of_turns, List.length_flatMap]
    congr 2
    refine List.map_congr_left fun job visited => ?_
    exact (admits job).counted_of_fine (toured.turn_fine fine visited)

/-! ## Cycles -/

variable {settings : Settings} {store : Store} {group : Group} {report : CycleReport}

/-- A cycle that succeeds has visited the recent jobs. -/
theorem cycle_visited (done : cycle settings now outage store group = (pass, .finished report)) :
    ∃ jobs, store.recentJobs? now settings.recencyDays = some jobs ∧ report = pass.report ∧
      pass = (Pass.start settings store group).visitAll (fun _ => outage) now jobs := by
  unfold cycle at done
  split at done
  · cases done
  · split at done
    · cases done
    · next jobs recent =>
        cases done
        exact ⟨jobs, recent, rfl, rfl⟩

/-- A cycle that succeeds reports the slices that it has admitted of jobs that it has not given up.
They are those that are tracked after it and were not before, and all that is new in the queues. If
no job was given up, all of them are reported. -/
theorem cycle_counts_admitted (reachable : group.Reachable) (distinct : store.Distinct)
    (done : cycle settings now outage store group = (pass, .finished report)) :
    ∃ admitted : List (UInt32 × Slot), admitted.Nodup ∧
      (∀ id slot, (id, slot) ∈ admitted ↔ ¬ group.Tracks id slot ∧ pass.group.Tracks id slot) ∧
      (∀ id q, group.queue? id = some q → ∃ tags,
        Floor.Pushed group.floor.slices.size q tags group.floor pass.group.floor ∧
        ((tags.filter fun tag => tag.origin = none).map fun tag => tag.piece.slot) =
          (admitted.filter fun pair => pair.1 = id).map Prod.snd) ∧
      report.submittedSlices =
        admitted.countP (fun pair => !pass.group.givenUp pair.1 pair.2.job) ∧
      (report.failedJobs = 0 → report.submittedSlices = admitted.length) := by
  obtain ⟨jobs, recent, rfl, visited⟩ := cycle_visited done
  have single := distinct.recent_nodup recent
  have sound : (Pass.start settings store group).group.Sound := reachable.sound
  have toured := Pass.visitAll_toured (fun _ => outage) now sound (Nat.le_refl _) single
  rw [← visited] at toured
  have admissions := toured.admissions sound single
  refine ⟨_, admissions.once, admissions.mem_iff, admissions.queued, ?_, fun fine => ?_⟩
  · exact admissions.counted.trans (Nat.zero_add _)
  · exact (admissions.all fine).trans (Nat.zero_add _)

end Discovery

/-! ## A failure that is met half way -/

/-- A slice has failed its job for good on the second of two instances. The first one has not heard
of the job. -/
def Group.halfFailedRun : List Group.Act :=
  [.build { Piece.small 5 with job := .ofMillis 3 }, .on 2 .start,
    .on 2 (.submit 0 ⟨0, .small 3 .created 9000⟩), .on 2 .take, .on 2 .grant, .on 2 .proceed,
    .on 2 (.land 0 (.answers (.fatal "gone")))]

def Group.halfFailed : Group := (Group.pair.run? halfFailedRun).getD .pair

/-- That job and another one, each of one slice for both instances. -/
def Store.halfFailed : Store where
  jobs := [.small 3 .created 9000, .small 4 .created 9000]
  records := [.small 3 0 [], .small 4 0 []]

theorem Group.halfFailed_reachable : Group.halfFailed.Reachable := by
  obtain ⟨group, done⟩ := Option.isSome_iff_exists.mp
    (by decide : (Group.pair.run? halfFailedRun).isSome = true)
  rw [halfFailed, done]
  exact ⟨_, _, _, .of_run? done⟩

namespace Discovery

/-- Where the slices of these jobs come to be: the slice of the first job on the first instance, and
that of the second job on both. -/
def halfFailedPairs : List (UInt32 × Slot) :=
  [(1, slotAt ⟨1, "db", 7000, ⟨"/s"⟩⟩ (.small 3 0 [])),
    (1, slotAt ⟨1, "db", 7000, ⟨"/s"⟩⟩ (.small 4 0 [])),
    (2, slotAt ⟨2, "db", 7001, ⟨"/r"⟩⟩ (.small 4 0 []))]

/-- The end of a cycle over the two jobs. -/
def halfFailedEnd : Pass :=
  Store.halfFailed.jobs.foldl (Pass.visit {} (.ofMillis 5000)) (.start {} .halfFailed .halfFailed)

theorem halfFailed_done : cycle {} (.ofMillis 5000) {} .halfFailed .halfFailed =
    (halfFailedEnd, .finished halfFailedEnd.report) :=
  cycle_finished .halfFailed
    (Store.recentJobs?_of_sorted ⟨-431995000000000⟩ (by decide) (by decide))

theorem halfFailed_admits : ∀ pair ∈ halfFailedPairs,
    ¬ Group.halfFailed.Tracks pair.1 pair.2 ∧ halfFailedEnd.group.Tracks pair.1 pair.2 := by
  have before : ∀ pair ∈ halfFailedPairs, ¬ (Portrait.face? (Group.halfFailed.portrait? 0 pair.1
      pair.2.job) pair.2).isSome = true := by
    decide
  have after : ∀ pair ∈ halfFailedPairs, ∃ sight ∈ halfFailedEnd.group.sight? pair.1 pair.2.job,
      pair.2 ∈ sight.slots := by
    -- The slots stay unevaluated: each is the one that the record was offered as.
    unfold halfFailedPairs
    rw [List.forall_mem_cons, List.forall_mem_cons, List.forall_mem_cons]
    exact ⟨⟨_, rfl, .head _⟩, ⟨_, rfl, .head _⟩, ⟨_, rfl, .head _⟩, nofun⟩
  intro pair listed
  rw [Group.halfFailed_reachable.sound.tracks_iff 0]
  exact ⟨before pair listed, pair.2.job, after pair listed⟩

/-- Three slices are admitted. Those of the job that was not given up are reported. -/
theorem cycle_counts_admitted_halfFailed :
    ∃ pass report, ∃ admitted : List (UInt32 × Slot),
      cycle {} (.ofMillis 5000) {} .halfFailed .halfFailed = (pass, .finished report) ∧
      report.failedJobs = 1 ∧ report.submittedSlices = 2 ∧
      (∀ pair ∈ halfFailedPairs, pair ∈ admitted) ∧
      admitted.countP (fun pair => !pass.group.givenUp pair.1 pair.2.job) = 2 := by
  obtain ⟨admitted, -, members, -, counted, -⟩ :=
    cycle_counts_admitted Group.halfFailed_reachable (by decide) halfFailed_done
  have told : halfFailedEnd.report.submittedSlices = 2 := by decide
  exact ⟨_, _, admitted, halfFailed_done, by decide, told,
    fun pair listed => (members pair.1 pair.2).mpr (halfFailed_admits pair listed),
    counted.symm.trans told⟩

/-- Three slices are admitted and wait in the queues, and two are reported. -/
theorem admitted_uncounted :
    ∃ pass report, cycle {} (.ofMillis 5000) {} .halfFailed .halfFailed =
        (pass, .finished report) ∧
      Group.halfFailed.Reachable ∧ halfFailedPairs.Nodup ∧
      (∀ pair ∈ halfFailedPairs, ¬ Group.halfFailed.Tracks pair.1 pair.2 ∧
        pass.group.Tracks pair.1 pair.2) ∧
      pass.group.waitingJobs 1 = [3, 4].map (fun born => some (.ofMillis born)) ∧
      pass.group.waitingJobs 2 = [some (.ofMillis 4)] ∧
      halfFailedPairs.length = 3 ∧ report.submittedSlices = 2 :=
  ⟨_, _, halfFailed_done, Group.halfFailed_reachable, by decide, halfFailed_admits, by decide,
    by decide, rfl, by decide⟩

end Discovery

end Restage
