import Mathlib.Data.List.Nodup
import Mathlib.Data.List.Perm.Basic
import Restage.Store

/-!
# What the store tells

The store keeps its jobs under their identifiers, so every identifier is there once
(`Store.Distinct`), whatever is inserted. What it tells of a job is what was inserted last, and
recent jobs are among those that it tells of.
-/

namespace Restage.Store

variable {store store' : Store} {job : Job} {id : TimeId} {status : JobStatus} {now : Instant}
  {days : UInt32} {jobs : List Job}

/-- Every identifier is that of one job. -/
def Distinct (store : Store) : Prop := (store.jobs.map Job.id).Nodup

instance : Decidable store.Distinct := inferInstanceAs (Decidable (List.Nodup _))

/-! ## Insertions -/

theorem map_insertInto (job : Job) (jobs : List Job) :
    (insertInto job jobs).map Job.id =
      if job.id ∈ jobs.map Job.id then jobs.map Job.id else jobs.map Job.id ++ [job.id] := by
  induction jobs with
  | nil => rfl
  | cons other rest ih =>
      rw [insertInto, List.map_cons]
      by_cases same : other.id = job.id
      · rw [if_pos same, if_pos (List.mem_cons.mpr (.inl same.symm)), List.map_cons, same]
      · have either : job.id ∈ other.id :: rest.map Job.id ↔ job.id ∈ rest.map Job.id := by
          rw [List.mem_cons]
          exact or_iff_right (Ne.symm same)
        rw [if_neg same, List.map_cons, ih]
        simp only [either]
        split <;> rfl

theorem Distinct.insertJob (distinct : store.Distinct) (job : Job) :
    (store.insertJob job).Distinct := by
  unfold Distinct Store.insertJob
  rw [map_insertInto]
  split
  · exact distinct
  · next absent => exact List.nodup_append.mpr ⟨distinct, List.nodup_singleton _, by
      intro id inside other single
      rw [List.mem_singleton.mp single]
      rintro rfl
      exact absent inside⟩

theorem find?_insertInto (job : Job) (jobs : List Job) (id : TimeId) :
    (insertInto job jobs).find? (fun job => job.id = id) =
      if id = job.id then some job else jobs.find? fun job => job.id = id := by
  induction jobs with
  | nil =>
      by_cases same : id = job.id
      · simp [insertInto, same]
      · simp [insertInto, same, Ne.symm same]
  | cons other rest ih =>
      rw [insertInto]
      by_cases here : other.id = job.id
      · rw [if_pos here]
        by_cases same : id = job.id
        · simp [same]
        · simp [here, same, Ne.symm same]
      · rw [if_neg here, List.find?_cons, List.find?_cons, ih]
        by_cases found : other.id = id
        · have apart : id ≠ job.id := fun same => here (found.trans same)
          simp [found, apart]
        · simp [found]

@[simp]
theorem job?_insertJob (store : Store) (job : Job) (id : TimeId) :
    (store.insertJob job).job? id = if id = job.id then some job else store.job? id :=
  find?_insertInto job store.jobs id

theorem id_of_job? (found : store.job? id = some job) : job.id = id := by
  simpa using List.find?_some found

theorem Distinct.job?_iff (distinct : store.Distinct) :
    store.job? job.id = some job ↔ job ∈ store.jobs := by
  constructor
  · exact List.mem_of_find?_eq_some
  · intro inside
    cases found : store.job? job.id with
    | none =>
        have absent := List.find?_eq_none.mp found job inside
        simp at absent
    | some other =>
        rw [List.inj_on_of_nodup_map distinct (List.mem_of_find?_eq_some found) inside
          (id_of_job? found)]

/-- A job that is there takes the status that is recorded for it. -/
theorem updateStatus_ok (found : store.job? id = some job) (status : JobStatus) :
    store.updateStatus id status = .ok (store.insertJob (job.withStatus status)) := by
  rw [updateStatus, found]

theorem Distinct.updateStatus (distinct : store.Distinct)
    (done : store.updateStatus id status = .ok store') : store'.Distinct := by
  unfold Store.updateStatus at done
  split at done
  · cases done
  · cases done
    exact distinct.insertJob _

/-! ## Marks -/

/-- The store once a status was recorded for a job, if it knows it. -/
def noted (store : Store) (id : TimeId) : Option JobStatus → Store
  | none => store
  | some status => (store.updateStatus id status).toOption.getD store

section

variable {other : TimeId} {mark mark' : Option JobStatus}

theorem noted_of_known (found : store.job? id = some job) (status : JobStatus) :
    store.noted id (some status) = store.insertJob (job.withStatus status) := by
  rw [noted, updateStatus_ok found]
  rfl

theorem noted_of_unknown (absent : store.job? id = none) : store.noted id mark = store := by
  cases mark with
  | none => rfl
  | some status =>
      rw [noted, updateStatus, absent]
      rfl

theorem noted_records : (store.noted id mark).records = store.records := by
  cases known : store.job? id with
  | none => rw [noted_of_unknown known]
  | some job =>
      cases mark with
      | none => rfl
      | some status =>
          rw [noted_of_known known]
          rfl

theorem job?_noted : (store.noted id mark).job? other =
    if other = id then (store.job? id).map fun job => mark.elim job job.withStatus
    else store.job? other := by
  cases known : store.job? id with
  | none =>
      rw [noted_of_unknown known]
      split
      · next same => rw [same, known, Option.map_none]
      · rfl
  | some job =>
      cases mark with
      | none =>
          split
          · next same =>
              rw [same]
              exact known
          · rfl
      | some status =>
          have own : job.id = id := id_of_job? known
          have label : (job.withStatus status).id = id := own
          rw [noted_of_known known, job?_insertJob, label]
          rfl

theorem Distinct.noted (distinct : store.Distinct) : (store.noted id mark).Distinct := by
  cases known : store.job? id with
  | none => rwa [noted_of_unknown known]
  | some job =>
      cases mark with
      | none => exact distinct
      | some status =>
          rw [noted_of_known known]
          exact distinct.insertJob _

/-- The store once a status was recorded for each of some jobs. -/
def notedAll (mark : Job → Option JobStatus) (store : Store) (jobs : List Job) : Store :=
  jobs.foldl (fun store job => store.noted job.id (mark job)) store

section

variable {mark : Job → Option JobStatus}

theorem notedAll_records : (store.notedAll mark jobs).records = store.records := by
  induction jobs generalizing store with
  | nil => rfl
  | cons job rest ih => exact (@ih (store.noted job.id (mark job))).trans noted_records

theorem Distinct.notedAll (distinct : store.Distinct) : (store.notedAll mark jobs).Distinct := by
  induction jobs generalizing store with
  | nil => exact distinct
  | cons job rest ih => exact ih distinct.noted

theorem job?_notedAll_other (away : ∀ job ∈ jobs, job.id ≠ id) :
    (store.notedAll mark jobs).job? id = store.job? id := by
  induction jobs generalizing store with
  | nil => rfl
  | cons job rest ih =>
      have later := @ih (store.noted job.id (mark job)) fun other inside =>
        away other (List.mem_cons_of_mem _ inside)
      refine later.trans ?_
      rw [job?_noted, if_neg (Ne.symm (away job List.mem_cons_self))]

theorem job?_notedAll (distinct : (jobs.map Job.id).Nodup) (inside : job ∈ jobs) :
    (store.notedAll mark jobs).job? job.id =
      (store.job? job.id).map fun found => (mark job).elim found found.withStatus := by
  induction jobs generalizing store with
  | nil => cases inside
  | cons head rest ih =>
      obtain ⟨new, others⟩ := List.nodup_cons.mp distinct
      have apart : ∀ other ∈ rest, other.id ≠ head.id := fun other listed same =>
        new (same ▸ List.mem_map_of_mem listed)
      rcases List.mem_cons.mp inside with rfl | later
      · refine (job?_notedAll_other apart).trans ?_
        rw [job?_noted, if_pos rfl]
      · refine (ih others later).trans ?_
        rw [job?_noted, if_neg (apart job later)]

end

/-- Two jobs that are put in their places may be put there in any order. -/
theorem insertInto_comm {left right : Job} {jobs : List Job} (apart : left.id ≠ right.id)
    (inside : left.id ∈ jobs.map Job.id) (inside' : right.id ∈ jobs.map Job.id) :
    insertInto left (insertInto right jobs) = insertInto right (insertInto left jobs) := by
  induction jobs with
  | nil => cases inside
  | cons head rest ih =>
      by_cases isLeft : head.id = left.id
      · simp only [insertInto, isLeft, if_true, apart, if_false]
      · by_cases isRight : head.id = right.id
        · simp only [insertInto, isRight, if_true, apart.symm, if_false]
        · have later := (List.mem_cons.mp inside).resolve_left (Ne.symm isLeft)
          have later' := (List.mem_cons.mp inside').resolve_left (Ne.symm isRight)
          simp only [insertInto, isLeft, isRight, if_false, ih later later']

/-- Statuses of different jobs may be recorded in any order. -/
theorem noted_comm (apart : id ≠ other) :
    (store.noted id mark).noted other mark' = (store.noted other mark').noted id mark := by
  have away : (store.noted id mark).job? other = store.job? other := by
    rw [job?_noted, if_neg (Ne.symm apart)]
  have away' : (store.noted other mark').job? id = store.job? id := by
    rw [job?_noted, if_neg apart]
  cases known : store.job? id with
  | none => rw [noted_of_unknown known, noted_of_unknown (away'.trans known)]
  | some left =>
      cases known' : store.job? other with
      | none => rw [noted_of_unknown known', noted_of_unknown (away.trans known')]
      | some right =>
          cases mark with
          | none => rfl
          | some status =>
              cases mark' with
              | none => rfl
              | some status' =>
                  rw [noted_of_known (away.trans known'), noted_of_known (away'.trans known),
                    noted_of_known known, noted_of_known known', insertJob, insertJob]
                  have inside : left.id ∈ store.jobs.map Job.id :=
                    List.mem_map_of_mem (List.mem_of_find?_eq_some known)
                  have inside' : right.id ∈ store.jobs.map Job.id :=
                    List.mem_map_of_mem (List.mem_of_find?_eq_some known')
                  have different : right.id ≠ left.id := by
                    rw [id_of_job? known, id_of_job? known']
                    exact apart.symm
                  have swapped : insertInto (right.withStatus status')
                      (insertInto (left.withStatus status) store.jobs) = _ :=
                    insertInto_comm different inside' inside
                  exact congrArg (fun jobs => Store.mk jobs store.records) swapped

end

/-! ## Recent jobs -/

theorem mem_recentJobs (recent : store.recentJobs? now days = some jobs) :
    ∃ cutoff, now.minus? (Span.ofDays days.toNat) = some cutoff ∧
      ∀ job, job ∈ jobs ↔ job ∈ store.jobs ∧ IsRecent cutoff job := by
  obtain ⟨cutoff, day, rfl⟩ := Option.map_eq_some_iff.mp recent
  refine ⟨cutoff, day, fun job => ?_⟩
  rw [List.mem_mergeSort, List.mem_filter, decide_eq_true_iff]

theorem Distinct.recent_nodup (distinct : store.Distinct)
    (recent : store.recentJobs? now days = some jobs) : (jobs.map Job.id).Nodup := by
  obtain ⟨cutoff, -, rfl⟩ := Option.map_eq_some_iff.mp recent
  have sorted := (List.mergeSort_perm (store.jobs.filter fun job => IsRecent cutoff job)
    fun left right => birth left ≤ birth right).map Job.id
  refine sorted.nodup_iff.mpr (List.Sublist.nodup ?_ distinct)
  exact List.filter_sublist.map _

/-- Jobs that are kept oldest first are told in their order. -/
theorem recentJobs?_of_sorted (cutoff : Instant)
    (day : now.minus? (Span.ofDays days.toNat) = some cutoff)
    (sorted : store.jobs.Pairwise fun left right => birth left ≤ birth right) :
    store.recentJobs? now days = some (store.jobs.filter fun job => IsRecent cutoff job) := by
  rw [recentJobs?, day, Option.map_some, List.mergeSort_of_pairwise]
  exact (sorted.sublist List.filter_sublist).imp fun older => decide_eq_true older

/-- What is recent is in the store. -/
theorem Distinct.recent_stored (distinct : store.Distinct)
    (recent : store.recentJobs? now days = some jobs) (inside : job ∈ jobs) :
    store.job? job.id = some job := by
  obtain ⟨cutoff, -, members⟩ := mem_recentJobs recent
  exact distinct.job?_iff.mpr ((members job).mp inside).1

/-- The recent jobs are the same once a status was recorded for some of them, but for the status. -/
theorem Distinct.recent_notedAll (distinct : store.Distinct)
    (recent : store.recentJobs? now days = some jobs) (mark : Job → Option JobStatus) :
    ∃ jobs', (store.notedAll mark jobs).recentJobs? now days = some jobs' ∧
      jobs'.Perm (jobs.map fun job => (mark job).elim job job.withStatus) := by
  have single := distinct.recent_nodup recent
  have distinct' : (store.notedAll mark jobs).Distinct := distinct.notedAll
  have label : ∀ job, ((mark job).elim job job.withStatus).id = job.id := fun job => by
    cases mark job <;> rfl
  have stored : ∀ job ∈ jobs, (store.notedAll mark jobs).job? job.id =
      some ((mark job).elim job job.withStatus) := fun job inside => by
    rw [job?_notedAll single inside, distinct.recent_stored recent inside, Option.map_some]
  obtain ⟨cutoff, day, members⟩ := mem_recentJobs recent
  have again : (store.notedAll mark jobs).recentJobs? now days = some _ :=
    congrArg (Option.map _) day
  refine ⟨_, again, (List.perm_ext_iff_of_nodup (distinct'.recent_nodup again).of_map ?_).mpr
    fun job => ?_⟩
  · refine List.Nodup.of_map Job.id ?_
    rw [List.map_map]
    simpa only [Function.comp_def, label] using single
  · obtain ⟨cutoff', day', members'⟩ := mem_recentJobs again
    obtain rfl := Option.some.inj (day.symm.trans day')
    rw [members', List.mem_map]
    constructor
    · rintro ⟨inside, young⟩
      have here := distinct'.job?_iff.mpr inside
      by_cases listed : ∃ old ∈ jobs, old.id = job.id
      · obtain ⟨old, listed, same⟩ := listed
        refine ⟨old, listed, ?_⟩
        rw [← same, stored old listed] at here
        exact Option.some.inj here
      · rw [job?_notedAll_other fun old inside same => listed ⟨old, inside, same⟩] at here
        exact absurd ⟨job, (members job).mpr ⟨distinct.job?_iff.mp here, young⟩, rfl⟩ listed
    · rintro ⟨old, listed, rfl⟩
      have here := stored old listed
      rw [← label old] at here
      refine ⟨distinct'.job?_iff.mp here, ?_⟩
      have young := ((members old).mp listed).2
      unfold IsRecent Job.createdAt? at *
      rw [label]
      exact young

/-- Records of a job are labelled with it. -/
theorem job_of_mem_recordsOf {record : SliceRecord} (inside : record ∈ store.recordsOf id) :
    record.job = id :=
  of_decide_eq_true (List.mem_filter.mp inside).2

end Restage.Store
