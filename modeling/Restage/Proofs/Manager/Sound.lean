import Mathlib.Data.List.Perm.Basic
import Restage.Proofs.Manager.Moves

/-!
# Sound managers

`Manager.Site.Sound` adds to a sound floor what its manager answers for:

* `Manager.Tracks`: the manager has every held tracker of its queue, each under its job.
* `Manager.Places`: a slice is in one place at most among the queue, the worker's hand and the
  flights, it is PENDING or was cancelled there, and while the manager was not told to stop every
  PENDING slice of its trackers is in one of them.
* `Manager.Numbers`: flights are told apart by their numbers, which were all given out.

The places are kept by three kinds of change, `Manager.Places.gain`, `.ease` and `.drop`: one
slice comes in, slices are moved about or cancelled where they are, and one slice that is not
PENDING any more goes out.
-/

namespace Restage

open Manager

variable {floor next : Floor} {m m' : Manager} {i : SliceRef}

/-! ## Places -/

/-- The slices that wait in a queue. -/
def Floor.waiting (floor : Floor) (q : QueueRef) : List SliceRef :=
  match floor.queues[q]? with
  | some found => found.waiting
  | none => []

theorem Floor.waiting_of {q : QueueRef} {found : Queue} (here : floor.queues[q]? = some found) :
    floor.waiting q = found.waiting := by
  rw [Floor.waiting, here]

/-- Everything a manager has to do: what waits in its queue, what its worker holds and what is with
the processor. -/
def Manager.placed (m : Manager) (floor : Floor) : List SliceRef :=
  floor.waiting m.queue ++ (m.worker.hand ++ m.flights.map Flight.slice)

structure Manager.Tracks (m : Manager) (floor : Floor) : Prop where
  keys : (m.jobs.map Prod.fst).Nodup
  tracker : ∀ {job : TimeId} {t : TrackerRef}, (job, t) ∈ m.jobs → ∃ k,
    floor.trackers[t]? = some k ∧ k.held = true ∧ k.queue = m.queue ∧ k.descriptor.job.id = job
  held : ∀ {t : TrackerRef} {k : Tracker}, floor.trackers[t]? = some k → k.held = true →
    k.queue = m.queue → (k.descriptor.job.id, t) ∈ m.jobs

structure Manager.Places (m : Manager) (floor : Floor) : Prop where
  usable : ∃ found, floor.queues[m.queue]? = some found ∧ (found.closed = true → m.stopping = true)
  once : (m.placed floor).Nodup
  posted : ∀ {i : SliceRef}, i ∈ m.placed floor →
    floor.post? i = some (m.queue, .pending) ∨ floor.post? i = some (m.queue, .cancelled)
  kept : m.stopping = false → ∀ {i : SliceRef}, floor.post? i = some (m.queue, .pending) →
    i ∈ m.placed floor

structure Manager.Numbers (m : Manager) (floor : Floor) : Prop where
  own : (m.flights.map Flight.number).Nodup
  minted : ∀ {flight : Flight}, flight ∈ m.flights → flight.number < floor.minted

/-- A slice comes to the end of the queue, unless the queue is closed. -/
theorem Manager.Places.gain (places : m.Places floor)
    (queues : ∀ found, floor.queues[m.queue]? = some found →
      next.queues[m.queue]? = some (found.push i))
    (out : floor.post? i ≠ some (m.queue, .pending) ∧ floor.post? i ≠ some (m.queue, .cancelled))
    (post : ∀ j, next.post? j = if i = j then some (m.queue, .pending) else floor.post? j) :
    m.Places next := by
  obtain ⟨found, here, closed⟩ := places.usable
  have there := queues found here
  have away : i ∉ m.placed floor := fun inside => (places.posted inside).elim out.1 out.2
  have posted : ∀ {j}, j ∈ m.placed floor →
      next.post? j = some (m.queue, .pending) ∨ next.post? j = some (m.queue, .cancelled) := by
    intro j inside
    have other : i ≠ j := by
      rintro rfl
      exact away inside
    rw [post, if_neg other]
    exact places.posted inside
  cases shut : found.closed with
  | true =>
      have same : found.push i = found := by rw [Queue.push, if_pos shut]
      have placed : m.placed next = m.placed floor := by
        rw [Manager.placed, Manager.placed, Floor.waiting_of here, Floor.waiting_of there, same]
      refine ⟨⟨found, by rw [there, same], closed⟩, ?_, ?_, ?_⟩
      · rw [placed]
        exact places.once
      · intro j inside
        rw [placed] at inside
        exact posted inside
      · intro going
        rw [closed shut] at going
        cases going
  | false =>
      have open' : ¬ found.closed = true := by rw [shut]; decide
      have same : found.push i =
          { found with waiting := found.waiting ++ [i], counted := found.counted + 1 } := by
        rw [Queue.push, if_neg open']
      have placed : (m.placed next).Perm (i :: m.placed floor) := by
        rw [Manager.placed, Manager.placed, Floor.waiting_of here, Floor.waiting_of there, same,
          List.append_assoc]
        exact List.perm_middle
      refine ⟨⟨found.push i, there, fun after => ?_⟩, ?_, ?_, ?_⟩
      · rw [same] at after
        exact closed after
      · rw [placed.nodup_iff, List.nodup_cons]
        exact ⟨away, places.once⟩
      · intro j inside
        rcases List.mem_cons.mp (placed.mem_iff.mp inside) with rfl | inside
        · rw [post, if_pos rfl]
          exact Or.inl rfl
        · exact posted inside
      · intro going j pending
        rw [placed.mem_iff, List.mem_cons]
        rw [post] at pending
        split at pending
        · next same => exact Or.inl same.symm
        · exact Or.inr (places.kept going pending)

/-- Slices are moved about within their places, and some are cancelled where they are. -/
theorem Manager.Places.ease (places : m.Places floor) (queue : m'.queue = m.queue)
    (usable : ∃ found, next.queues[m.queue]? = some found ∧
      (found.closed = true → m'.stopping = true))
    (stopping : m'.stopping = false → m.stopping = false)
    (placed : (m'.placed next).Perm (m.placed floor))
    (eases : ∀ j, Floor.Eases m.queue floor next j) : m'.Places next := by
  refine ⟨by rw [queue]; exact usable, placed.nodup_iff.mpr places.once, ?_, ?_⟩
  · intro j inside
    rw [queue]
    rcases eases j with same | ⟨-, cancelled⟩
    · rw [same]
      exact places.posted (placed.mem_iff.mp inside)
    · exact Or.inr cancelled
  · intro going j pending
    rw [queue] at pending
    rw [placed.mem_iff]
    rcases eases j with same | ⟨-, cancelled⟩
    · rw [same] at pending
      exact places.kept (stopping going) pending
    · rw [cancelled] at pending
      cases pending

/-- A slice that is not PENDING any more goes out, and some others are cancelled. -/
theorem Manager.Places.drop {state : SliceState} (places : m.Places floor)
    (queue : m'.queue = m.queue) (stopping : m'.stopping = m.stopping)
    (queues : next.queues = floor.queues)
    (placed : (m.placed floor).Perm (i :: m'.placed next))
    (past : state ≠ .pending) (gone : next.post? i = some (m.queue, state))
    (eases : ∀ j, j ≠ i → Floor.Eases m.queue floor next j) : m'.Places next := by
  have once := placed.nodup_iff.mp places.once
  rw [List.nodup_cons] at once
  obtain ⟨found, here, closed⟩ := places.usable
  refine ⟨⟨found, by rw [queue, queues]; exact here, fun shut => by
    rw [stopping]; exact closed shut⟩, once.2, ?_, ?_⟩
  · intro j inside
    rw [queue]
    have other : j ≠ i := fun same => once.1 (same ▸ inside)
    rcases eases j other with same | ⟨-, cancelled⟩
    · rw [same]
      exact places.posted (placed.mem_iff.mpr (List.mem_cons_of_mem _ inside))
    · exact Or.inr cancelled
  · intro going j pending
    rw [queue] at pending
    have other : j ≠ i := by
      rintro rfl
      rw [gone] at pending
      cases pending
      exact past rfl
    rcases eases j other with same | ⟨-, cancelled⟩
    · rw [same] at pending
      have inside := placed.mem_iff.mp (places.kept (by rwa [stopping] at going) pending)
      exact (List.mem_cons.mp inside).resolve_left other
    · rw [cancelled] at pending
      cases pending

/-- A flight that takes off has a number of its own. -/
theorem Manager.Numbers.pass {worker : Worker} {active : List Slot} (numbers : m.Numbers floor) :
    ({ m with
      worker := worker
      flights := m.flights ++ [⟨floor.minted, i⟩]
      active := active } : Manager).Numbers floor.mint.1 := by
  constructor
  · rw [List.map_append, List.map_cons, List.map_nil]
    refine List.Nodup.append numbers.own (List.nodup_singleton _) ?_
    rw [List.disjoint_singleton]
    intro taken
    obtain ⟨flight, member, number⟩ := List.mem_map.mp taken
    have older := numbers.minted member
    simp only at number older
    omega
  · intro flight member
    rcases List.mem_append.mp member with member | member
    · exact Nat.lt_succ_of_lt (numbers.minted member)
    · rw [List.mem_singleton] at member
      subst member
      exact Nat.lt_succ_self _

theorem Manager.Numbers.land {number free : Nat} {active : List Slot} (numbers : m.Numbers floor)
    (minted : floor.minted ≤ next.minted) :
    ({ m with
      flights := m.flights.filter fun other => other.number ≠ number
      active := active
      free := free } : Manager).Numbers next :=
  ⟨(List.filter_sublist.map _).nodup numbers.own, fun member =>
    Nat.lt_of_lt_of_le (numbers.minted (List.mem_filter.mp member).1) minted⟩

/-- The flights without the one of a number, which no other has. -/
theorem Flight.perm_of_find {flights : List Flight} {number : Nat} {flight : Flight}
    (own : (flights.map Flight.number).Nodup)
    (aloft : flights.find? (fun flight => flight.number = number) = some flight) :
    flights.Perm (flight :: flights.filter fun other => other.number ≠ number) := by
  induction flights with
  | nil => cases aloft
  | cons head rest ih =>
      rw [List.map_cons, List.nodup_cons] at own
      by_cases same : head.number = number
      · rw [List.find?_cons_of_pos (by simpa using same)] at aloft
        cases aloft
        have others : rest.filter (fun other => other.number ≠ number) = rest := by
          rw [List.filter_eq_self]
          intro other member
          have apart : other.number ≠ number := by
            intro equal
            apply own.1
            rw [same, ← equal]
            exact List.mem_map_of_mem member
          simpa using apart
        rw [List.filter_cons_of_neg (by simpa using same), others]
      · rw [List.find?_cons_of_neg (by simpa using same)] at aloft
        rw [List.filter_cons_of_pos (by simpa using same)]
        exact ((ih own.2 aloft).cons head).trans (List.Perm.swap flight head _)

/-! ## Soundness -/

structure Manager.Site.Sound (site : Manager.Site) : Prop where
  floor : site.1.Sound
  tracks : site.2.Tracks site.1
  places : site.2.Places site.1
  numbers : site.2.Numbers site.1

/-- What another manager's work leaves a manager with. -/
theorem Manager.Tracks.within {q : QueueRef} (tracks : m.Tracks floor)
    (within : Floor.Within q floor next) (other : m.queue ≠ q) : m.Tracks next where
  keys := tracks.keys
  tracker := fun member => by
    obtain ⟨k, found, held, queue, job⟩ := tracks.tracker member
    exact ⟨k, (within.trackers _ k (by rwa [queue])).mpr found, held, queue, job⟩
  held := fun {t k} found held queue =>
    tracks.held ((within.trackers t k (by rwa [queue])).mp found) held queue

theorem Manager.placed_within {q : QueueRef} (within : Floor.Within q floor next)
    (other : m.queue ≠ q) : m.placed next = m.placed floor := by
  rw [Manager.placed, Manager.placed, Floor.waiting, Floor.waiting, within.queues _ other]

theorem Manager.Places.within {q : QueueRef} (places : m.Places floor)
    (within : Floor.Within q floor next) (other : m.queue ≠ q) : m.Places next where
  usable := by
    rw [within.queues _ other]
    exact places.usable
  once := by
    rw [Manager.placed_within within other]
    exact places.once
  posted := fun inside => by
    rw [Manager.placed_within within other] at inside
    rw [within.post?_iff other, within.post?_iff other]
    exact places.posted inside
  kept := fun going i pending => by
    rw [Manager.placed_within within other]
    exact places.kept going ((within.post?_iff other).mp pending)

theorem Manager.Numbers.mono (numbers : m.Numbers floor) (flights : m'.flights = m.flights)
    (minted : floor.minted ≤ next.minted) : m'.Numbers next where
  own := by rw [flights]; exact numbers.own
  minted := fun member => by
    rw [flights] at member
    exact Nat.lt_of_lt_of_le (numbers.minted member) minted

end Restage
