import Restage.Proofs.Manager.Acts

/-!
# What a manager shows of a job

A sight of a job is what its tracker shows to those who look at it from outside: the descriptor, the
failure it recorded and the slots of its slices. Sights do not show how far the slices have come, so
of all that a manager does only few acts change one.

Here are those that discovery makes use of. A slice that was just built is offered to a job
(`Manager.Site.Sound.offered`), the job's descriptor is replaced, and the job is removed. Each of
them concerns the sight of the one job.
-/

namespace Restage

open Manager

structure Sight where
  descriptor : Descriptor
  fatal : Option FatalFailure
  /-- The slots of the job's slices, the first to come first. -/
  slots : List Slot

def Tracker.sight (k : Tracker) : Sight := ⟨k.descriptor, k.fatal, k.members.map Prod.fst⟩

/-- What a manager shows of a job, if it tracks it. -/
def Manager.Site.sight? (site : Site) (job : TimeId) : Option Sight :=
  (site.2.tracker? job).bind fun t => (site.1.trackers[t]?).map Tracker.sight

namespace Sight

/-- What a tracker shows that was offered a new slice. One that has failed takes nothing. -/
def add (sight : Sight) (slot : Slot) : Sight :=
  if sight.fatal.isSome = true ∨ slot ∈ sight.slots then sight
  else { sight with slots := sight.slots ++ [slot] }

/-- What is seen of a job that was offered a new slice. A job that was not tracked is from then
on. -/
def offer (descriptor : Descriptor) (slot : Slot) (seen : Option Sight) : Sight :=
  (seen.getD ⟨descriptor, none, []⟩).add slot

/-- The answer to a new slice, by what was seen of its job before. -/
inductive Answers (seen : Option Sight) (slot : Slot) : Except JobFault Standing → Prop
  | failed {f : FatalFailure} (fatal : seen.bind Sight.fatal = some f) :
    Answers seen slot (.error (.fatal f))
  | known {sight : Sight} {standing : Standing} (here : seen = some sight)
    (fine : sight.fatal = none) (inside : slot ∈ sight.slots) (old : standing ≠ .created) :
    Answers seen slot (.ok standing)
  | new (fine : seen.bind Sight.fatal = none) (absent : ∀ sight ∈ seen, slot ∉ sight.slots) :
    Answers seen slot (.ok .created)

variable {descriptor : Descriptor} {slot other : Slot} {seen : Option Sight}

theorem add_fatal (sight : Sight) : (sight.add slot).fatal = sight.fatal := by
  unfold add
  split <;> rfl

theorem add_descriptor (sight : Sight) : (sight.add slot).descriptor = sight.descriptor := by
  unfold add
  split <;> rfl

theorem mem_add {sight : Sight} (fine : sight.fatal = none) :
    other ∈ (sight.add slot).slots ↔ other ∈ sight.slots ∨ other = slot := by
  unfold add
  rw [fine]
  split
  · next either =>
      have inside : slot ∈ sight.slots := either.resolve_left (by decide)
      constructor
      · exact Or.inl
      · rintro (member | rfl)
        · exact member
        · exact inside
  · rw [List.mem_append, List.mem_singleton]

theorem offer_fatal : (offer descriptor slot seen).fatal = seen.bind Sight.fatal := by
  unfold offer
  rw [add_fatal]
  cases seen <;> rfl

theorem offer_descriptor :
    (offer descriptor slot seen).descriptor = (seen.map Sight.descriptor).getD descriptor := by
  unfold offer
  rw [add_descriptor]
  cases seen <;> rfl

theorem mem_offer (fine : seen.bind Sight.fatal = none) :
    other ∈ (offer descriptor slot seen).slots ↔
      (∃ sight ∈ seen, other ∈ sight.slots) ∨ other = slot := by
  unfold offer
  cases seen with
  | none => simp [mem_add]
  | some sight =>
      have open' : sight.fatal = none := fine
      simp [mem_add open']

end Sight

variable {floor next : Floor} {m m' : Manager} {t : TrackerRef} {k : Tracker} {i : SliceRef}
  {s : Slice} {descriptor : Descriptor} {job : TimeId}

theorem Manager.Site.sight?_tracked (tracked : m.tracker? job = some t)
    (found : floor.trackers[t]? = some k) : Site.sight? (floor, m) job = some k.sight := by
  rw [Site.sight?, tracked, Option.bind_some, found, Option.map_some]

theorem Manager.Site.sight?_untracked (new : m.tracker? job = none) :
    Site.sight? (floor, m) job = none := by
  rw [Site.sight?, new, Option.bind_none]

/-- A manager tracks exactly the jobs that it shows. -/
theorem Manager.Site.sight?_eq_none (tracks : m.Tracks floor) :
    Site.sight? (floor, m) job = none ↔ m.tracker? job = none := by
  constructor
  · intro hidden
    cases tracked : m.tracker? job with
    | none => rfl
    | some t =>
        obtain ⟨k, found, -⟩ := tracks.of_tracked tracked
        rw [Site.sight?_tracked tracked found] at hidden
        cases hidden
  · exact Site.sight?_untracked

/-- A tracker that is of no tracked job makes no difference to a sight. -/
theorem Manager.Tracks.sight?_congr (tracks : m.Tracks floor)
    (same : m'.tracker? job = m.tracker? job)
    (trackers : ∀ t k, m.tracker? job = some t → floor.trackers[t]? = some k →
      next.trackers[t]? = some k) : Site.sight? (next, m') job = Site.sight? (floor, m) job := by
  unfold Site.sight?
  simp only [same]
  cases tracked : m.tracker? job with
  | none => rfl
  | some t =>
      obtain ⟨k, found, -⟩ := tracks.of_tracked tracked
      rw [Option.bind_some, Option.bind_some, found, trackers t k tracked found]

/-- What is changed of one tracked job does not show in the sight of another one. -/
theorem Floor.Reworks.sight?_other {k' : Tracker} {job' : TimeId}
    (rework : Floor.Reworks t k k' floor next) (tracks : m.Tracks floor)
    (tracked : m.tracker? job = some t) (same : m'.tracker? job' = m.tracker? job')
    (other : job' ≠ job) : Site.sight? (next, m') job' = Site.sight? (floor, m) job' := by
  refine tracks.sight?_congr same fun u k₁ tracked' found => ?_
  have apart : u ≠ t := by
    rintro rfl
    exact other (tracks.job_unique tracked' tracked)
  rw [rework.others u apart]
  exact found

/-! ## New slices -/

theorem Floor.sight_admitted (found : floor.trackers[t]? = some k) :
    ((floor.admitted t k i s).trackers[t]?).map Tracker.sight =
      some { k.sight with slots := k.sight.slots ++ [s.slot] } := by
  rw [Floor.trackers_admitted found, if_pos rfl, Option.map_some]
  simp only [Tracker.sight, List.map_append, List.map_cons, List.map_nil]

/-- What a tracker makes of a slice that was just built. -/
theorem Floor.Enrolled.offered {answer : Except JobFault Standing}
    (enrolled : Floor.Enrolled floor t k i s next answer) (found : floor.trackers[t]? = some k)
    (free : s.owner = none) (descriptor : Descriptor) :
    Sight.Answers (some k.sight) s.slot answer ∧
      (next.trackers[t]?).map Tracker.sight =
        some (Sight.offer descriptor s.slot (some k.sight)) ∧
      ∀ u : TrackerRef, u ≠ t → next.trackers[u]? = floor.trackers[u]? := by
  have shown : (floor.trackers[t]?).map Tracker.sight = some k.sight := by
    rw [found, Option.map_some]
  have known : ∀ {j : SliceRef}, k.members.lookup s.slot = some j → s.slot ∈ k.sight.slots :=
    fun member => List.mem_map_of_mem (Table.mem_of_lookup member)
  have kept : s.slot ∈ k.sight.slots →
      Sight.offer descriptor s.slot (some k.sight) = k.sight := fun inside => if_pos (Or.inr inside)
  cases enrolled with
  | barred fatal =>
      have failed : k.sight.fatal.isSome = true := by
        rw [Tracker.sight, fatal]
        rfl
      have stays : Sight.offer descriptor s.slot (some k.sight) = k.sight := if_pos (Or.inl failed)
      refine ⟨.failed fatal, ?_, fun u _ => rfl⟩
      rw [stays]
      exact shown
  | finished fine member there state =>
      refine ⟨.known rfl fine (known member) (by decide), ?_, fun u _ => rfl⟩
      rw [kept (known member)]
      exact shown
  | underway fine member there state =>
      refine ⟨.known rfl fine (known member) (by decide), ?_, fun u _ => rfl⟩
      rw [kept (known member)]
      exact shown
  | again fine member there state =>
      refine ⟨.known rfl fine (known member) (by decide), ?_, fun u _ => rfl⟩
      rw [kept (known member)]
      exact shown
  | elsewhere fine new owner other =>
      rw [free] at owner
      cases owner
  | admitted fine new free =>
      have absent : s.slot ∉ k.sight.slots := Table.notMem_keys_of_lookup new
      have taken : Sight.offer descriptor s.slot (some k.sight) =
          { k.sight with slots := k.sight.slots ++ [s.slot] } := by
        refine if_neg ?_
        rintro (failed | inside)
        · rw [Option.getD_some, Tracker.sight, fine] at failed
          cases failed
        · exact absent inside
      refine ⟨.new fine fun sight same => ?_, ?_, fun u other => ?_⟩
      · cases same
        exact absent
      · rw [taken]
        exact Floor.sight_admitted found
      · rw [Floor.trackers_admitted found, if_neg (Ne.symm other)]

/-- What a manager makes of a slice that was just built for a job. -/
theorem Manager.Site.Sound.offered (sound : Site.Sound (floor, m))
    (here : floor.slices[i]? = some s) (free : s.owner = none)
    (of : s.piece.job = descriptor.job.id) :
    Sight.Answers (Site.sight? (floor, m) descriptor.job.id) s.slot
        (m.submit floor i descriptor).2.2 ∧
      ∀ job, Site.sight? ((m.submit floor i descriptor).1, (m.submit floor i descriptor).2.1) job =
        if job = descriptor.job.id then
          some (Sight.offer descriptor s.slot (Site.sight? (floor, m) descriptor.job.id))
        else Site.sight? (floor, m) job := by
  have submitted := sound.submitted i descriptor
  generalize m.submit floor i descriptor = result at submitted
  cases submitted with
  | absent absent =>
      rw [here] at absent
      cases absent
  | foreign there foreign =>
      rw [here] at there
      cases there
      exact absurd of foreign
  | tracked there of tracked found held queue label enrolled =>
      rw [here] at there
      cases there
      obtain ⟨answers, shown, others⟩ := enrolled.offered found free descriptor
      rw [Site.sight?_tracked tracked found]
      refine ⟨answers, fun job => ?_⟩
      split
      · next same =>
          simp only [Site.sight?, same, tracked, Option.bind_some]
          exact shown
      · next other =>
          refine sound.tracks.sight?_congr rfl fun u k' tracked' found' => ?_
          rw [others u]
          · exact found'
          · rintro rfl
            exact other (sound.tracks.job_unique tracked' tracked)
  | first there of new found enrolled =>
      rw [here] at there
      cases there
      obtain ⟨answers, shown, others⟩ := enrolled.offered found free descriptor
      rw [Site.sight?_untracked new]
      refine ⟨?_, fun job => ?_⟩
      · cases answers with
        | known here fine inside old =>
            cases here
            cases inside
        | failed fatal => cases fatal
        | new fine absent => exact .new rfl fun sight same => by cases same
      · simp only [Site.sight?, Manager.tracker?_tracking new]
        split
        · exact shown
        · cases tracked : m.tracker? job with
          | none => rfl
          | some u =>
              obtain ⟨k', found', -⟩ := sound.tracks.of_tracked tracked
              have older := Floor.tracker_ne_size found'
              rw [Option.bind_some, Option.bind_some, others u older, Floor.trackers_addTracker,
                if_neg older]

/-! ## New descriptors and removals -/

theorem Manager.Site.Sound.sight?_updateJob (sound : Site.Sound (floor, m)) (job : TimeId) :
    Site.sight? (m.updateJob floor descriptor, m) job =
      if job = descriptor.job.id then
        (Site.sight? (floor, m) job).map fun sight => { sight with descriptor := descriptor }
      else Site.sight? (floor, m) job := by
  cases tracked : m.tracker? descriptor.job.id with
  | none =>
      have stays : m.updateJob floor descriptor = floor := by rw [Manager.updateJob, tracked]
      rw [stays]
      split
      · next same =>
          rw [same, Site.sight?_untracked tracked]
          rfl
      · rfl
  | some t =>
      obtain ⟨k, found, -, -, label⟩ := sound.tracks.of_tracked tracked
      have rework := Floor.Reworks.described found label
      have updated : m.updateJob floor descriptor = floor.modifyTracker t fun found =>
          { found with descriptor := descriptor } := by
        rw [Manager.updateJob, tracked]
      rw [updated]
      split
      · next same =>
          rw [same, Site.sight?_tracked tracked found, Site.sight?_tracked tracked rework.after]
          rfl
      · next other => exact rework.sight?_other sound.tracks tracked rfl other

theorem Manager.Site.Sound.sight?_removeJob (sound : Site.Sound (floor, m)) (job other : TimeId) :
    Site.sight? ((m.removeJob floor job).1, (m.removeJob floor job).2.1) other =
      if other = job then none else Site.sight? (floor, m) other := by
  cases tracked : m.tracker? job with
  | none =>
      rw [Manager.removeJob_of_unknown tracked]
      split
      · next same => rw [same, Site.sight?_untracked tracked]
      · rfl
  | some t =>
      obtain ⟨k, found, -⟩ := sound.tracks.of_tracked tracked
      rw [Manager.removeJob_of_tracked tracked]
      split
      · next same =>
          rw [same]
          exact Site.sight?_untracked Manager.tracker?_without_self
      · next apart =>
          exact (Floor.Reworks.discarded sound.floor found).sight?_other sound.tracks tracked
            (Manager.tracker?_without sound.tracks.keys apart) apart

/-- What another manager does leaves the sights of a manager alone. -/
theorem Floor.Within.sight? {q : QueueRef} (within : Floor.Within q floor next)
    (tracks : m.Tracks floor) (other : m.queue ≠ q) :
    Site.sight? (next, m) = Site.sight? (floor, m) := by
  funext job
  refine tracks.sight?_congr rfl fun t k tracked found => ?_
  obtain ⟨k', found', -, queue, -⟩ := tracks.of_tracked tracked
  rw [found] at found'
  cases found'
  exact (within.trackers t k (by rwa [queue])).mpr found

end Restage
