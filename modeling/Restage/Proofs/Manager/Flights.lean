import Mathlib.Data.List.Count
import Mathlib.Data.List.Perm.Subperm
import Restage.Proofs.Manager.Ages

/-!
# Flights and their slots

Two slices with one slot are one piece of work, and no tracker has both. A manager has one tracker
of a job at a time, so it never has two PENDING slices of one slot
(`Manager.Site.Sound.eq_of_slot`). The slices of a tracker that was let go may still be in flight
when the job comes back, and then a second slice of their slot takes off beside them.

A manager writes down the slots of its flights. `Manager.Listed` says what that list is worth: it
names no slot twice and only slots of flights, and it names all of them as long as the manager let
go of no tracker of their job.
-/

namespace Restage

open Manager

variable {floor next : Floor} {m m' : Manager} {t u : TrackerRef} {k k' : Tracker}
  {i j : SliceRef} {s s' : Slice} {slot : Slot}

/-- The slot of a slice. -/
def Floor.slotOf? (floor : Floor) (i : SliceRef) : Option Slot := (floor.slices[i]?).map Slice.slot

/-- The slots of the slices that are with the processor. -/
def Manager.aloft (m : Manager) (floor : Floor) : List Slot :=
  (m.flights.map Flight.slice).filterMap floor.slotOf?

/-- The manager has let go of no tracker of a job. -/
def Manager.Retains (m : Manager) (floor : Floor) (job : TimeId) : Prop :=
  ∀ (t : TrackerRef) (k : Tracker), floor.trackers[t]? = some k → k.queue = m.queue →
    k.descriptor.job.id = job → k.held = true

structure Manager.Listed (m : Manager) (floor : Floor) : Prop where
  once : ∀ slot, m.active.count slot ≤ 1
  flown : ∀ slot, m.active.count slot ≤ (m.aloft floor).count slot
  kept : ∀ slot, m.Retains floor slot.job →
    m.active.count slot = (m.aloft floor).count slot ∧ (m.aloft floor).count slot ≤ 1

theorem Floor.slotOf?_of (here : floor.slices[i]? = some s) : floor.slotOf? i = some s.slot := by
  rw [Floor.slotOf?, here, Option.map_some]

theorem Floor.Ages.slotOf? (ages : Floor.Ages floor next) (here : floor.slices[i]? = some s) :
    next.slotOf? i = floor.slotOf? i := by
  obtain ⟨s', there, older⟩ := ages.slice i s here
  rw [Floor.slotOf?_of here, Floor.slotOf?_of there, Slice.slot, Slice.slot, older.piece]

theorem Manager.Retains.of_ages (retains : m.Retains next slot.job) (ages : Floor.Ages floor next) :
    m.Retains floor slot.job := by
  intro t k found queue job
  obtain ⟨k', found', older⟩ := ages.tracker t k found
  cases held : k.held with
  | true => rfl
  | false =>
      have gone := older.letGo held
      have stays := retains t k' found' (older.queue.trans queue) (older.job.trans job)
      rw [gone] at stays
      cases stays

/-! ## One slice for one slot -/

/-- Among the slices of a manager's held trackers no two have one slot. -/
theorem Manager.Site.Sound.eq_of_slot (sound : Site.Sound (floor, m))
    (here : floor.slices[i]? = some s) (owner : s.owner = some t)
    (found : floor.trackers[t]? = some k) (held : k.held = true) (queue : k.queue = m.queue)
    (there : floor.slices[j]? = some s') (owner' : s'.owner = some u)
    (found' : floor.trackers[u]? = some k') (held' : k'.held = true) (queue' : k'.queue = m.queue)
    (same : s.slot = s'.slot) : i = j := by
  obtain ⟨member, job, -⟩ := sound.floor.owned here owner found
  obtain ⟨member', job', -⟩ := sound.floor.owned there owner' found'
  have jobs : k.descriptor.job.id = k'.descriptor.job.id :=
    job.symm.trans ((congrArg Slot.job same).trans job')
  have tracked := Table.lookup_of_mem sound.tracks.keys (sound.tracks.held found held queue)
  have tracked' := Table.lookup_of_mem sound.tracks.keys (sound.tracks.held found' held' queue')
  rw [jobs] at tracked
  cases tracked.symm.trans tracked'
  rw [found] at found'
  cases found'
  rw [same] at member
  exact congrArg Prod.snd (List.inj_on_of_nodup_map (sound.floor.slots found) member member' rfl)

/-- Of two slices with one slot that a manager has to do, one was cancelled. -/
theorem Manager.Site.Sound.cancelled_of_slot (sound : Site.Sound (floor, m))
    (inside : i ∈ m.placed floor) (inside' : j ∈ m.placed floor) (apart : i ≠ j)
    (same : floor.slotOf? i = floor.slotOf? j) :
    floor.stateOf? i = some .cancelled ∨ floor.stateOf? j = some .cancelled := by
  obtain ⟨s, t, k, here, owner, found, queue, state⟩ := sound.places.slice inside
  obtain ⟨s', u, k', there, owner', found', queue', state'⟩ := sound.places.slice inside'
  rw [Floor.slotOf?_of here, Floor.slotOf?_of there, Option.some_inj] at same
  rw [Floor.stateOf?, Floor.stateOf?, here, there, Option.map_some, Option.map_some]
  rcases state with pending | cancelled
  · rcases state' with pending' | cancelled'
    · obtain ⟨-, -, governs⟩ := sound.floor.owned here owner found
      obtain ⟨-, -, governs'⟩ := sound.floor.owned there owner' found'
      obtain ⟨-, held⟩ := governs.open_of_pending pending
      obtain ⟨-, held'⟩ := governs'.open_of_pending pending'
      exact absurd (sound.eq_of_slot here owner found held queue there owner' found' held' queue'
        same) apart
    · exact Or.inr (congrArg some cancelled')
  · exact Or.inl (congrArg some cancelled)

/-- As long as a manager lets go of no tracker of a job, it has a slot of that job to do once at
most. -/
theorem Manager.Site.Sound.count_slot (sound : Site.Sound (floor, m))
    (retains : m.Retains floor slot.job) :
    ((m.placed floor).filterMap floor.slotOf?).count slot ≤ 1 := by
  have only : ∀ i ∈ m.placed floor, floor.slotOf? i = some slot → ∀ j ∈ m.placed floor,
      floor.slotOf? j = some slot → i = j := by
    intro i inside of j inside' of'
    obtain ⟨s, t, k, here, owner, found, queue, -⟩ := sound.places.slice inside
    obtain ⟨s', u, k', there, owner', found', queue', -⟩ := sound.places.slice inside'
    rw [Floor.slotOf?_of here, Option.some_inj] at of
    rw [Floor.slotOf?_of there, Option.some_inj] at of'
    obtain ⟨-, job, -⟩ := sound.floor.owned here owner found
    obtain ⟨-, job', -⟩ := sound.floor.owned there owner' found'
    have held := retains t k found queue (job.symm.trans (congrArg Slot.job of))
    have held' := retains u k' found' queue' (job'.symm.trans (congrArg Slot.job of'))
    exact sound.eq_of_slot here owner found held queue there owner' found' held' queue'
      (of.trans of'.symm)
  have once := sound.places.once
  generalize m.placed floor = list at only once
  induction list with
  | nil => exact Nat.zero_le _
  | cons head rest ih =>
      rw [List.nodup_cons] at once
      have later := ih (fun i inside of j inside' of' => only i (List.mem_cons_of_mem _ inside) of j
        (List.mem_cons_of_mem _ inside') of') once.2
      cases first : floor.slotOf? head with
      | none => rwa [List.filterMap_cons_none first]
      | some other =>
          rw [List.filterMap_cons_some first]
          by_cases same : other = slot
          · -- the head has the slot, so none of the others has
            have none : (rest.filterMap floor.slotOf?).count slot = 0 := by
              rw [List.count_eq_zero]
              intro listed
              obtain ⟨j, inside, of⟩ := List.mem_filterMap.mp listed
              have equal := only head List.mem_cons_self (by rw [first, same]) j
                (List.mem_cons_of_mem _ inside) of
              rw [equal] at once
              exact once.1 inside
            rw [List.count_cons, none]
            split <;> omega
          · rw [List.count_cons_of_ne same]
            exact later

/-! ## The list is kept -/

theorem Manager.aloft_of_ages (places : m.Places floor) (ages : Floor.Ages floor next)
    (flights : m'.flights = m.flights) : m'.aloft next = m.aloft floor := by
  unfold Manager.aloft
  rw [flights]
  refine List.filterMap_congr fun i inside => ?_
  obtain ⟨flight, member, rfl⟩ := List.mem_map.mp inside
  obtain ⟨s, t, k, here, -⟩ := places.flight member
  exact ages.slotOf? here

/-- What neither starts nor ends a flight leaves the list as good as it was. -/
theorem Manager.Listed.age (listed : m.Listed floor) (places : m.Places floor)
    (ages : Floor.Ages floor next) (flights : m'.flights = m.flights)
    (active : m'.active = m.active) (queue : m'.queue = m.queue) : m'.Listed next := by
  have aloft := Manager.aloft_of_ages places ages flights
  refine ⟨fun slot => ?_, fun slot => ?_, fun slot retains => ?_⟩
  · rw [active]
    exact listed.once slot
  · rw [active, aloft]
    exact listed.flown slot
  · rw [active, aloft]
    have before : m.Retains next slot.job := fun t k found post =>
      retains t k found (post.trans queue.symm)
    exact listed.kept slot (before.of_ages ages)

theorem Manager.count_activate (slot other : Slot) (active : List Slot) :
    (activate slot active).count other =
      active.count other + if slot ∉ active ∧ slot = other then 1 else 0 := by
  unfold Manager.activate
  by_cases inside : slot ∈ active
  · rw [if_pos inside, if_neg fun new => new.1 inside]
    rfl
  · rw [if_neg inside, List.count_append, List.count_singleton]
    by_cases same : slot = other
    · rw [if_pos (beq_iff_eq.mpr same), if_pos ⟨inside, same⟩]
    · rw [if_neg (by rwa [beq_iff_eq]), if_neg fun new => same new.2]

/-- A flight takes off. -/
theorem Manager.Listed.pass (listed : m.Listed floor) (sound : Site.Sound (floor, m))
    (ready : m.worker = .ready i) (here : floor.slices[i]? = some s) :
    ({ m with
      worker := .idle
      flights := m.flights ++ [⟨floor.minted, i⟩]
      active := activate s.slot m.active } : Manager).Listed floor.mint.1 := by
  have aloft : ({ m with
      worker := .idle
      flights := m.flights ++ [⟨floor.minted, i⟩]
      active := activate s.slot m.active } : Manager).aloft floor.mint.1 =
        m.aloft floor ++ [s.slot] := by
    have same : floor.mint.1.slotOf? = floor.slotOf? := rfl
    unfold Manager.aloft
    rw [List.map_append, List.filterMap_append, same]
    refine congrArg _ ?_
    rw [List.map_singleton, List.filterMap_cons_some (Floor.slotOf?_of here), List.filterMap_nil]
  refine ⟨fun slot => ?_, fun slot => ?_, fun slot retains => ?_⟩
  · have once := listed.once slot
    rw [Manager.count_activate]
    split
    · next new =>
        have absent : m.active.count slot = 0 := by
          rw [List.count_eq_zero, ← new.2]
          exact new.1
        omega
    · exact once
  · have flown := listed.flown slot
    rw [Manager.count_activate, aloft, List.count_append, List.count_singleton]
    split
    · next new =>
        rw [if_pos (beq_iff_eq.mpr new.2)]
        omega
    · exact Nat.le_trans flown (Nat.le_add_right _ _)
  · obtain ⟨counted, -⟩ := listed.kept slot retains
    rw [Manager.count_activate, aloft, List.count_append, List.count_singleton]
    by_cases same : s.slot = slot
    · -- the slice in the worker's hand is the only one of its slot
      have once := sound.count_slot retains
      unfold Manager.placed at once
      rw [ready, List.filterMap_append, List.filterMap_append, List.count_append,
        List.count_append] at once
      have hand : ((Worker.ready i).hand.filterMap floor.slotOf?).count slot = 1 := by
        rw [Worker.hand, List.filterMap_cons_some (Floor.slotOf?_of here), List.filterMap_nil, same]
        exact List.count_singleton_self
      rw [hand] at once
      have grounded : (m.aloft floor).count slot = 0 := by
        unfold Manager.aloft
        omega
      have absent : s.slot ∉ m.active := by
        rw [same, ← List.count_eq_zero]
        omega
      rw [if_pos ⟨absent, same⟩, if_pos (beq_iff_eq.mpr same)]
      omega
    · rw [if_neg fun new => same new.2, if_neg (by rwa [beq_iff_eq])]
      exact listed.kept slot retains

/-- A flight ends. -/
theorem Manager.Listed.land {number free : Nat} {flight : Flight} (listed : m.Listed floor)
    (sound : Site.Sound (floor, m)) (ages : Floor.Ages floor next)
    (aloft : m.flights.find? (fun flight => flight.number = number) = some flight)
    (here : floor.slices[flight.slice]? = some s) :
    ({ m with
      flights := m.flights.filter fun other => other.number ≠ number
      active := m.active.filter fun slot => slot ≠ s.slot
      free := free } : Manager).Listed next := by
  have before : ∀ slot, (m.aloft floor).count slot = (Manager.aloft { m with
      flights := m.flights.filter fun other => other.number ≠ number
      active := m.active.filter fun slot => slot ≠ s.slot
      free := free } next).count slot + if s.slot = slot then 1 else 0 := by
    intro slot
    have flights := ((Flight.perm_of_find sound.numbers.own aloft).map Flight.slice).filterMap
      floor.slotOf?
    have remaining : Manager.aloft { m with
        flights := m.flights.filter fun other => other.number ≠ number
        active := m.active.filter fun slot => slot ≠ s.slot
        free := free } next =
        ((m.flights.filter fun other => other.number ≠ number).map
          Flight.slice).filterMap floor.slotOf? := by
      unfold Manager.aloft
      refine List.filterMap_congr fun i inside => ?_
      obtain ⟨other, member, rfl⟩ := List.mem_map.mp inside
      obtain ⟨s', t, k, there, -⟩ := sound.places.flight (List.mem_filter.mp member).1
      exact ages.slotOf? there
    rw [List.map_cons, List.filterMap_cons_some (Floor.slotOf?_of here)] at flights
    rw [remaining, Manager.aloft, flights.count_eq, List.count_cons]
    by_cases same : s.slot = slot
    · rw [if_pos same, if_pos (beq_iff_eq.mpr same)]
    · rw [if_neg same, if_neg (by rwa [beq_iff_eq])]
  have fewer : ∀ slot, (m.active.filter fun slot => slot ≠ s.slot).count slot =
      if s.slot = slot then 0 else m.active.count slot := by
    intro slot
    by_cases same : s.slot = slot
    · rw [if_pos same, List.count_eq_zero, same]
      intro inside
      simpa using (List.mem_filter.mp inside).2
    · rw [if_neg same, List.count_filter (by simpa using Ne.symm same)]
  refine ⟨fun slot => ?_, fun slot => ?_, fun slot retains => ?_⟩
  · have once := listed.once slot
    rw [fewer]
    split <;> omega
  · have flown := listed.flown slot
    have counted := before slot
    rw [fewer]
    split at counted <;> split <;> omega
  · obtain ⟨equal, once⟩ := listed.kept slot (retains.of_ages ages)
    have counted := before slot
    rw [fewer]
    by_cases same : s.slot = slot
    · rw [if_pos same] at counted ⊢
      omega
    · rw [if_neg same] at counted ⊢
      omega

theorem Manager.Move.listed {site site' : Site} (move : Move site site') (sound : site.Sound)
    (listed : site.2.Listed site.1) : site'.2.Listed site'.1 := by
  have ages := move.ages sound.floor
  cases move with
  | track | accept | reopen | update | discard | start | stop | take | grant | skip | quit =>
      exact listed.age sound.places ages rfl rfl rfl
  | pass ready here pending => exact listed.pass sound ready here
  | land aloft here owner found queue landed => exact listed.land sound ages aloft here

theorem Manager.Moves.listed {site site' : Site} (moves : Moves site site') (sound : site.Sound)
    (listed : site.2.Listed site.1) : site'.2.Listed site'.1 := by
  induction moves with
  | refl => exact listed
  | tail before move ih => exact move.listed (Moves.sound before sound) ih

end Restage
