import Restage.Proofs.Disk
import Restage.Proofs.Manager.Steps

/-!
# Jobs that are let go

A sweep lets go of several jobs, some of which the manager may not have, and some of which it may be
told of twice. `Manager.Forgot` says all that this does: nobody holds the trackers of these jobs any
more, their slices that have not ended are cancelled, and nothing else is touched. It composes
(`Forgot.trans`), so that `Manager.forgot` is the induction over the jobs and nothing more. The
manager may be any, sound or not.
-/

namespace Restage

variable {m m' : Manager} {floor next : Floor} {jobs more : List TimeId} {t : TrackerRef}

/-- The trackers of some jobs. -/
def Manager.trackersOf (m : Manager) (jobs : List TimeId) : List TrackerRef :=
  jobs.filterMap m.tracker?

/-- The slices of some jobs. -/
def Manager.slicesOf (m : Manager) (floor : Floor) (jobs : List TimeId) : List SliceRef :=
  (m.trackersOf jobs).flatMap floor.membersOf

/-- What becomes of manager and floor when some jobs are let go: nobody holds their trackers any
more, and those of their slices are cancelled that have not ended. -/
structure Manager.Forgot (m : Manager) (floor : Floor) (jobs : List TimeId) (m' : Manager)
    (next : Floor) : Prop where
  manager : m' = { m with jobs := m.jobs.filter fun pair => pair.1 ∉ jobs }
  trackers : ∀ t : TrackerRef, next.trackers[t]? =
    if t ∈ m.trackersOf jobs then (floor.trackers[t]?).map fun k => { k with held := false }
    else floor.trackers[t]?
  slices : ∀ i : SliceRef, next.slices[i]? =
    if i ∈ m.slicesOf floor jobs then (floor.slices[i]?).map Slice.cancelled
    else floor.slices[i]?
  queues : next.queues = floor.queues
  minted : next.minted = floor.minted

theorem Manager.Forgot.members (forgot : m.Forgot floor jobs m' next) (t : TrackerRef) :
    next.membersOf t = floor.membersOf t := by
  rw [Floor.membersOf, Floor.membersOf, forgot.trackers]
  by_cases listed : t ∈ m.trackersOf jobs
  · rw [if_pos listed]
    cases floor.trackers[t]? <;> rfl
  · rw [if_neg listed]

theorem Manager.Forgot.tracker? (forgot : m.Forgot floor jobs m' next) (job : TimeId) :
    m'.tracker? job = if job ∈ jobs then none else m.tracker? job := by
  have found := lookup_filter (fun job => job ∉ jobs) job m.jobs
  rw [forgot.manager]
  refine found.trans ?_
  by_cases listed : job ∈ jobs <;> simp [listed, Manager.tracker?]

theorem Manager.Forgot.mem_trackersOf (forgot : m.Forgot floor jobs m' next) :
    t ∈ m.trackersOf (jobs ++ more) ↔ t ∈ m.trackersOf jobs ∨ t ∈ m'.trackersOf more := by
  simp only [Manager.trackersOf, List.mem_filterMap, forgot.tracker?]
  constructor
  · rintro ⟨job, listed, tracked⟩
    by_cases early : job ∈ jobs
    · exact .inl ⟨job, early, tracked⟩
    · exact .inr ⟨job, (List.mem_append.mp listed).resolve_left early, (if_neg early).trans tracked⟩
  · rintro (⟨job, listed, tracked⟩ | ⟨job, listed, tracked⟩)
    · exact ⟨job, List.mem_append_left _ listed, tracked⟩
    · exact ⟨job, List.mem_append_right _ listed, (Option.ite_none_left_eq_some.mp tracked).2⟩

theorem Manager.Forgot.mem_slicesOf (forgot : m.Forgot floor jobs m' next) {i : SliceRef} :
    i ∈ m.slicesOf floor (jobs ++ more) ↔
      i ∈ m.slicesOf floor jobs ∨ i ∈ m'.slicesOf next more := by
  simp only [Manager.slicesOf, List.mem_flatMap, forgot.mem_trackersOf, forgot.members,
    or_and_right, exists_or]

theorem Manager.Forgot.trans {m'' : Manager} {last : Floor}
    (first : m.Forgot floor jobs m' next) (second : m'.Forgot next more m'' last) :
    m.Forgot floor (jobs ++ more) m'' last where
  manager := by
    rw [second.manager, first.manager]
    simp only [List.filter_filter, List.mem_append, not_or, Bool.decide_and, Bool.and_comm]
  trackers := by
    intro t
    rw [second.trackers, first.trackers]
    simp only [first.mem_trackersOf]
    by_cases early : t ∈ m.trackersOf jobs <;> by_cases late : t ∈ m'.trackersOf more <;>
      simp [early, late, Function.comp_def]
  slices := by
    intro i
    rw [second.slices, first.slices]
    simp only [first.mem_slicesOf]
    by_cases early : i ∈ m.slicesOf floor jobs <;> by_cases late : i ∈ m'.slicesOf next more <;>
      simp [early, late, Function.comp_def, Slice.cancelled_cancelled]
  queues := second.queues.trans first.queues
  minted := second.minted.trans first.minted

theorem Manager.Forgot.nil : m.Forgot floor [] m floor := by
  refine ⟨by simp, fun t => (if_neg ?_).symm, fun i => (if_neg ?_).symm, rfl, rfl⟩
  · exact List.not_mem_nil
  · exact List.not_mem_nil

/-- Letting go of one job. -/
theorem Manager.Forgot.single (m : Manager) (floor : Floor) (job : TimeId) :
    m.Forgot floor [job] (m.removeJob floor job).2.1 (m.removeJob floor job).1 := by
  cases tracked : m.tracker? job with
  | none =>
      have none : m.trackersOf [job] = [] := List.filterMap_cons_none tracked
      rw [Manager.removeJob_of_unknown tracked]
      have untouched : ∀ pair ∈ m.jobs, pair.1 ∉ [job] := by
        intro pair listed same
        have apart := List.lookup_eq_none_iff.mp tracked pair listed
        exact bne_iff_ne.mp apart (List.mem_singleton.mp same).symm
      refine ⟨?_, fun t => ?_, fun i => ?_, rfl, rfl⟩
      · rw [List.filter_eq_self.mpr fun pair listed => decide_eq_true (untouched pair listed)]
      · rw [none, if_neg List.not_mem_nil]
      · rw [Manager.slicesOf, none, List.flatMap_nil, if_neg List.not_mem_nil]
  | some u =>
      have one : m.trackersOf [job] = [u] := List.filterMap_cons_some tracked
      rw [Manager.removeJob_of_tracked tracked]
      refine ⟨?_, fun t => ?_, fun i => ?_, Floor.queues_discarded, ?_⟩
      · simp [Manager.without]
      · rw [Floor.discarded, Floor.trackers_modifyTracker, Floor.trackers_cancelAll, one]
        simp only [List.mem_singleton, eq_comm]
      · rw [Floor.slices_discarded, Manager.slicesOf, one, List.flatMap_singleton]
      · rw [Floor.discarded, Floor.minted_modifyTracker, Floor.minted_cancelAll]

theorem Manager.forgot (m : Manager) (floor : Floor) (jobs : List TimeId) :
    m.Forgot floor jobs (m.removeAll floor jobs).2 (m.removeAll floor jobs).1 := by
  induction jobs generalizing m floor with
  | nil => exact .nil
  | cons job rest ih => exact (Forgot.single m floor job).trans (ih _ _)

end Restage
