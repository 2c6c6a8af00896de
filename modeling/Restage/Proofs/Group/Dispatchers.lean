import Restage.Proofs.Group.Runs
import Restage.Proofs.Manager.Permits

/-!
# The dispatchers of a group

Until a manager is told to stop, each of its acts is made of steps of its dispatcher
(`Manager.Site.Sound.dispatched`), and what other managers do does not concern it. So no run of a
group loses a permit of a manager (`Group.metered`).

`Group.permits_are_kept` is about every dispatcher of a group after any run, and after whatever its
dispatcher does from there, be it with slices that no submission would put into its queue.
-/

namespace Restage

open Manager

variable {group group' : Group} {floor next : Floor} {m m' : Manager} {t : TrackerRef}
  {k : Tracker} {i : SliceRef} {s : Slice} {recency : Span} {limit : Nat} {homes : List Instance}

/-! ## The acts of a manager -/

/-- Whatever was written before, a slice is put into the queue in the end. -/
theorem Manager.Dispatched.push (queue : next.queues[m.queue]? = floor.queues[m.queue]?)
    (minted : floor.minted ≤ next.minted) : Dispatched (floor, m) (next.enqueue m.queue i, m) := by
  have written : Dispatch (floor, m) (next, m) := .meanwhile queue minted
  exact .head written (.single (.enqueue i))

theorem Floor.Enrolled.dispatched {answer : Except JobFault Standing}
    (enrolled : Floor.Enrolled floor t k i s next answer) (queue : k.queue = m.queue) :
    Dispatched (floor, m) (next, m) := by
  cases enrolled with
  | barred | finished | underway | elsewhere => exact .refl
  | @again known s' fine member there state =>
      rw [Floor.reopened, queue]
      exact .push rfl (Nat.le_refl _)
  | admitted fine new free =>
      rw [Floor.admitted, queue]
      exact .push rfl (Nat.le_refl _)

theorem Manager.Dispatched.submit (sound : Site.Sound (floor, m)) (i : SliceRef)
    (descriptor : Descriptor) :
    Dispatched (floor, m) ((m.submit floor i descriptor).1, (m.submit floor i descriptor).2.1) := by
  have submitted := sound.submitted i descriptor
  generalize m.submit floor i descriptor = result at submitted
  cases submitted with
  | absent absent => exact .refl
  | foreign here foreign => exact .refl
  | tracked here of tracked found held queue label enrolled => exact enrolled.dispatched queue
  | first here of new found enrolled =>
      have made : Dispatch (floor, m) ((floor.addTracker (.fresh descriptor m.queue)).1,
          m.tracking descriptor.job.id floor.trackers.size) :=
        .meanwhile rfl (Nat.le_refl _)
      exact .head made (enrolled.dispatched rfl)

theorem Manager.Dispatched.remove (job : TimeId) :
    Dispatched (floor, m) ((m.removeJob floor job).1, (m.removeJob floor job).2.1) := by
  cases tracked : m.tracker? job with
  | none =>
      rw [Manager.removeJob_of_unknown tracked]
  | some t =>
      rw [Manager.removeJob_of_tracked tracked]
      have queues : (floor.discarded t).queues = floor.queues := Floor.queues_discarded
      exact .single (.meanwhile (by rw [queues]) (Nat.le_of_eq Floor.minted_cancelAll.symm))

theorem Manager.Dispatched.removeAll (site : Site) (jobs : List TimeId) :
    Dispatched site (site.2.removeAll site.1 jobs) := by
  induction jobs generalizing site with
  | nil => exact .refl
  | cons job rest ih => exact (Dispatched.remove job).trans (ih _)

/-- What a manager does that is not told to stop is made of steps of its dispatcher. -/
theorem Manager.Site.Sound.dispatched {site site' : Site} (sound : site.Sound) {act : Act}
    (going : site'.2.stopping = false) (done : Manager.act? site act = some site') :
    Dispatched site site' := by
  have before := (Moves.same (sound.act done)).2.2 going
  cases act with
  | submit i descriptor =>
      cases done
      exact .submit sound i descriptor
  | update descriptor =>
      cases done
      rw [Manager.updateJob]
      split
      · exact .single (.meanwhile rfl (Nat.le_refl _))
      · exact .refl
  | remove job =>
      cases done
      exact .remove job
  | sweep trouble now disk =>
      have sweep := site.2.sweep_eq site.1 trouble now disk
      rw [← Option.some.inj (done.symm.trans (congrArg some sweep)).symm]
      exact .removeAll site _
  | start =>
      cases done
      exact .single .start
  | stop =>
      cases done
      cases going
  | take => exact .single (.take done)
  | grant => exact .single (.grant done)
  | proceed => exact .single (.proceed done)
  | quit =>
      have stays : site.2.quit? site.1 = none := by
        rw [Manager.quit?, before]
      cases stays.symm.trans done
  | land number ending => exact .single (.land ending done)

/-! ## The steps of a group -/

/-- A manager that goes on was going on before, and its dispatcher did nothing else. -/
theorem Group.Sound.dispatched (sound : group.Sound) (step : group.Step group')
    (member : m' ∈ group'.managers) (going : m'.stopping = false) :
    ∃ m ∈ group.managers, m.stopping = false ∧
      Dispatched (group.floor, m) (group'.floor, m') := by
  obtain ⟨act, done⟩ := step
  cases act with
  | build piece =>
      cases done
      have built : Dispatch (group.floor, m') ((group.floor.addSlice (.ofPiece piece)).1, m') :=
        .meanwhile rfl (Nat.le_refl _)
      exact ⟨m', member, going, .single built⟩
  | describe job =>
      cases done
      have made : Dispatch (group.floor, m') (group.floor.mint.1, m') :=
        .meanwhile rfl (Nat.le_succ _)
      exact ⟨m', member, going, .single made⟩
  | on id act =>
      obtain ⟨m, next, after, managed, acted, rfl⟩ := Group.act?_on done
      obtain ⟨inside, -⟩ := Group.mem_of_manager? managed
      have site := sound.manager inside
      have moves := site.act acted
      obtain ⟨home, -, stopping⟩ := Moves.same moves
      rcases (sound.mem_put inside home).mp member with same | ⟨old, apart⟩
      · subst same
        exact ⟨m, inside, stopping going, site.dispatched going acted⟩
      · have within := Moves.within moves site
        have away : m'.queue ≠ m.queue := fun same => apart (sound.eq_of_queue old inside same)
        have aside : Dispatch (group.floor, m') (next, m') :=
          .meanwhile (within.queues _ away) within.minted
        exact ⟨m', old, going, .single aside⟩

theorem Group.Untouched.metered (untouched : group.Untouched recency limit)
    (member : m ∈ group.managers) : m.Metered limit group.floor := by
  obtain ⟨made, empty⟩ := untouched.manager member
  rw [made]
  exact .ofInstance empty

/-- In no run of a group does a manager that goes on lose a permit. -/
theorem Group.metered (run : (Group.ofInstances recency limit homes).Reach group)
    (member : m ∈ group.managers) (going : m.stopping = false) : m.Metered limit group.floor := by
  have untouched := Group.untouched_ofInstances recency limit homes
  induction run generalizing m with
  | refl => exact untouched.metered member
  | tail before step ih =>
      have sound := untouched.sound.reach before
      obtain ⟨old, inside, still, steps⟩ := sound.dispatched step member going
      exact Metered.dispatched (ih inside still) steps

/-- The permits and the count of waiting slices of a dispatcher, after any run of the group and any
further steps of the dispatcher. -/
theorem Group.permits_are_kept (run : (Group.ofInstances recency limit homes).Reach group)
    (member : m ∈ group.managers) (going : m.stopping = false)
    (further : Dispatched (group.floor, m) (floor, m')) :
    m'.flights.length ≤ limit ∧
      m'.free + m'.flights.length + m'.worker.permits = limit ∧
      (m'.worker ≠ .unborn → floor.waiting m'.queue ≠ [] ∨ m'.worker.hand ≠ [] →
        m'.flights.length < limit → (m'.step? floor).isSome = true) ∧
      m'.queuedCount floor = (floor.waiting m'.queue).length + m'.worker.waits ∧
      ∀ i, m'.worker = .waiting i → 0 < m'.queuedCount floor := by
  have before := Group.metered run member going
  have metered : m'.Metered limit floor := Metered.dispatched before further
  exact ⟨metered.bound, metered.permits, metered.enabled, metered.queued,
    fun i waiting => metered.queued_pos waiting⟩

/-- A slice fails for good, and the worker skips another one that was cancelled by that. -/
def Group.permitsRun : List Group.Act :=
  [.build (.small 0), .build (.small 1), .on 1 .start, .on 1 (.submit 0 .small),
    .on 1 (.submit 1 .small), .on 1 .take, .on 1 .grant, .on 1 .proceed,
    .on 1 (.land 0 (.answers (.fatal "gone"))), .on 1 .take, .on 1 .grant, .on 1 .proceed]

/-- The dispatcher once a slice was put into its queue and the worker has taken it, if it can. -/
def Manager.Site.handed (site : Site) (i : SliceRef) : Site :=
  (site.2.take? (site.1.enqueue site.2.queue i)).getD site

theorem Manager.Dispatched.handed {site : Site} : Dispatched site (site.handed i) := by
  rw [Site.handed]
  cases taken : site.2.take? (site.1.enqueue site.2.queue i) with
  | none => exact .refl
  | some after => exact .tail (.single (.enqueue i)) (.take taken)

theorem Group.permits_are_kept_small :
    ∃ m ∈ (Group.smallAfter permitsRun).managers,
      let site := Site.handed ((Group.smallAfter permitsRun).floor, m) 0
      site.2.worker = .waiting 0 ∧
        site.2.free + site.2.flights.length + site.2.worker.permits = 1 ∧
        (site.2.step? site.1).isSome = true ∧ 0 < site.2.queuedCount site.1 := by
  have known : ((Group.smallAfter permitsRun).manager? 1).map (fun m =>
      let site := Site.handed ((Group.smallAfter permitsRun).floor, m) 0
      (m.stopping, site.2.worker, site.2.flights.length)) = some (false, .waiting 0, 0) := by
    decide
  obtain ⟨m, managed, facts⟩ := Option.map_eq_some_iff.mp known
  obtain ⟨member, -⟩ := Group.mem_of_manager? managed
  simp only [Prod.mk.injEq] at facts
  obtain ⟨going, waiting, landed⟩ := facts
  have further : Dispatched ((Group.smallAfter permitsRun).floor, m) (Site.handed _ 0) := .handed
  refine ⟨m, member, ?_⟩
  generalize Site.handed ((Group.smallAfter permitsRun).floor, m) 0 = site at *
  obtain ⟨next, m'⟩ := site
  have permits := Group.permits_are_kept (Group.small_reach permitsRun) member going further
  refine ⟨waiting, permits.2.1, ?_, permits.2.2.2.2 0 waiting⟩
  refine permits.2.2.1 ?_ (Or.inr ?_) ?_
  · rw [waiting]
    exact Worker.noConfusion
  · rw [waiting]
    exact List.cons_ne_nil _ _
  · rw [landed]
    exact Nat.zero_lt_one

end Restage
