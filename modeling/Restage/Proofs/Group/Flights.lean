import Restage.Proofs.Group.Runs
import Restage.Proofs.Manager.Flights

/-!
# Flights of one slot

A manager that lets go of a job and takes it on again may have two slices of one slot with the
processor, and counts them as one: `Group.two_flights_of_one_slot` is such a run. Once the older
flight has ended the younger one is not counted at all.

`Group.Reachable.flights_of_one_slot` is what holds instead. No slice is with the processor twice,
of two with one slot one was cancelled, the manager never counts more flights than there are, and it
counts those of a job exactly until it lets go of a tracker of the job.
-/

namespace Restage

open Manager

variable {group group' : Group} {m : Manager} {recency : Span} {limit : Nat}

theorem Group.Untouched.listed (untouched : group.Untouched recency limit)
    (member : m ∈ group.managers) : m.Listed group.floor := by
  obtain ⟨made, -⟩ := untouched.manager member
  have active : m.active = [] := by
    rw [made]
    rfl
  have flights : m.flights = [] := by
    rw [made]
    rfl
  have aloft : m.aloft group.floor = [] := by
    unfold Manager.aloft
    rw [flights]
    rfl
  refine ⟨fun slot => ?_, fun slot => ?_, fun slot _ => ?_⟩
  · rw [active]
    exact Nat.zero_le _
  · rw [active]
    exact Nat.zero_le _
  · rw [active, aloft]
    exact ⟨rfl, Nat.zero_le _⟩

theorem Group.Sound.listed (sound : group.Sound) (step : group.Step group')
    (listed : ∀ m ∈ group.managers, m.Listed group.floor) :
    ∀ m ∈ group'.managers, m.Listed group'.floor := by
  have ages := sound.ages step
  rcases sound.step_cases step with ⟨piece, rfl⟩ | rfl | ⟨m, member, next, m', moves, rfl⟩
  · exact fun m member => (listed m member).age (sound.manager member).places ages rfl rfl rfl
  · exact fun m member => (listed m member).age (sound.manager member).places ages rfl rfl rfl
  · intro other inside
    rcases (sound.mem_put member (Moves.same moves).1).mp inside with rfl | ⟨old, -⟩
    · exact Moves.listed moves (sound.manager member) (listed m member)
    · exact (listed other old).age (sound.manager old).places ages rfl rfl rfl

theorem Group.Reachable.listed (reachable : group.Reachable) (member : m ∈ group.managers) :
    m.Listed group.floor := by
  obtain ⟨recency, limit, homes, run⟩ := reachable
  have untouched := Group.untouched_ofInstances recency limit homes
  induction run generalizing m with
  | refl => exact untouched.listed member
  | tail before step ih => exact (untouched.sound.reach before).listed step (fun m => ih) m member

theorem Group.Reachable.flights_of_one_slot (reachable : group.Reachable)
    (member : m ∈ group.managers) :
    (m.flights.map Flight.slice).Nodup ∧
      (∀ flight ∈ m.flights, ∀ other ∈ m.flights, flight ≠ other →
        group.floor.slotOf? flight.slice = group.floor.slotOf? other.slice →
        group.floor.stateOf? flight.slice = some .cancelled ∨
          group.floor.stateOf? other.slice = some .cancelled) ∧
      m.active.Nodup ∧ m.active ⊆ m.aloft group.floor ∧ m.activeCount ≤ m.flights.length ∧
      (∀ slot, m.Retains group.floor slot.job →
        m.active.count slot = (m.aloft group.floor).count slot ∧
          (m.aloft group.floor).count slot ≤ 1) ∧
      ((∀ job, m.Retains group.floor job) →
        (m.aloft group.floor).Nodup ∧ m.activeCount = m.flights.length) := by
  have site := reachable.sound.manager member
  have listed := reachable.listed member
  have once : (m.flights.map Flight.slice).Nodup := by
    have placed := site.places.once
    unfold Manager.placed at placed
    exact placed.of_append_right.of_append_right
  have length : (m.aloft group.floor).length = m.flights.length := by
    have full : (m.aloft group.floor).length = (m.flights.map Flight.slice).length := by
      rw [Manager.aloft, List.length_filterMap_eq_countP, List.countP_eq_length]
      intro i inside
      obtain ⟨flight, aloft, rfl⟩ := List.mem_map.mp inside
      obtain ⟨s, t, k, here, -⟩ := site.places.flight aloft
      rw [Floor.slotOf?_of here]
      rfl
    rw [full, List.length_map]
  have distinct : m.active.Nodup := List.nodup_iff_count_le_one.mpr listed.once
  have inside : m.active ⊆ m.aloft group.floor := by
    intro slot member
    have flown := listed.flown slot
    rw [← List.count_pos_iff] at member ⊢
    omega
  refine ⟨once, ?_, distinct, inside, ?_, listed.kept, fun retains => ?_⟩
  · intro flight aloft other aloft' apart same
    refine site.cancelled_of_slot (mem_placed_of_flight aloft) (mem_placed_of_flight aloft') ?_ same
    exact fun equal => apart (List.inj_on_of_nodup_map once aloft aloft' equal)
  · have fewer := (List.subperm_of_subset distinct inside).length_le
    unfold Manager.activeCount
    omega
  · have same : m.active.Perm (m.aloft group.floor) := by
      rw [List.perm_iff_count]
      exact fun slot => (listed.kept slot (retains slot.job)).1
    exact ⟨same.nodup_iff.mp distinct, same.length_eq.trans length⟩

/-- One instance that may process two slices at a time. -/
def Group.wide : Group :=
  .ofInstances ⟨0⟩ 2 [⟨1, "db", 7000, ⟨"/s"⟩⟩]

/-- The worker has taken the next slice and passed it on. -/
def Group.passRun : List Group.Act := [.on 1 .take, .on 1 .grant, .on 1 .proceed]

/-- Two buckets of a job are with the processor. -/
def Group.flightsRun : List Group.Act :=
  [.build (.small 0), .build (.small 1), .on 1 .start, .on 1 (.submit 0 .small),
    .on 1 (.submit 1 .small)] ++ passRun ++ passRun

theorem Group.flights_of_one_slot_wide :
    ∃ group m, Group.wide.run? flightsRun = some group ∧ m ∈ group.managers ∧
      (m.flights.map Flight.slice).Nodup ∧ m.activeCount = m.flights.length ∧
      m.flights.length = 2 := by
  have known : (Group.wide.run? flightsRun).bind (fun group => (group.manager? 1).map fun m =>
      (group.floor.trackers.toList.all Tracker.held, m.flights.length)) = some (true, 2) := by
    decide
  obtain ⟨group, done, rest⟩ := Option.bind_eq_some_iff.mp known
  obtain ⟨m, managed, facts⟩ := Option.map_eq_some_iff.mp rest
  obtain ⟨held, two⟩ := Prod.mk.inj facts
  obtain ⟨member, -⟩ := Group.mem_of_manager? managed
  have retains : ∀ job, m.Retains group.floor job := by
    intro job t k found _ _
    exact List.all_eq_true.mp held k (Array.mem_toList_iff.mpr (Array.mem_of_getElem? found))
  have flights := Group.Reachable.flights_of_one_slot ⟨_, _, _, .of_run? done⟩ member
  exact ⟨group, m, done, member, flights.1, (flights.2.2.2.2.2.2 retains).2, two⟩

/-- A slice is with the processor, its job is let go, and another slice of the same slot is
submitted and passed on. -/
def Group.overlapRun : List Group.Act :=
  [.build (.small 0), .build (.small 0), .on 1 .start, .on 1 (.submit 0 .small)] ++ passRun ++
    [.on 1 (.remove Descriptor.small.job.id), .on 1 (.submit 1 .small)] ++ passRun

/-- Two flights of one slot, counted as one; and the younger of them alone, not counted at all. -/
theorem Group.two_flights_of_one_slot :
    ∃ (group : Group) (m : Manager) (next : Group) (m' : Manager),
      group.Reachable ∧ m ∈ group.managers ∧
      m.aloft group.floor = [(Piece.small 0).slot, (Piece.small 0).slot] ∧
      m.flights.length = 2 ∧ m.activeCount = 1 ∧
      group.Step next ∧ m' ∈ next.managers ∧ m'.flights.length = 1 ∧ m'.activeCount = 0 := by
  have known : (Group.wide.run? overlapRun).bind (fun group => (group.manager? 1).bind fun m =>
      (group.act? (.on 1 (.land 0 (.answers .success)))).bind fun next =>
        (next.manager? 1).map fun m' =>
          (m.aloft group.floor, (m.flights.length, m.activeCount),
            (m'.flights.length, m'.activeCount))) =
      some ([(Piece.small 0).slot, (Piece.small 0).slot], (2, 1), (1, 0)) := by
    decide
  obtain ⟨group, done, rest⟩ := Option.bind_eq_some_iff.mp known
  obtain ⟨m, managed, rest⟩ := Option.bind_eq_some_iff.mp rest
  obtain ⟨next, step, rest⟩ := Option.bind_eq_some_iff.mp rest
  obtain ⟨m', managed', facts⟩ := Option.map_eq_some_iff.mp rest
  simp only [Prod.mk.injEq] at facts
  obtain ⟨aloft, ⟨two, one⟩, ⟨last, none⟩⟩ := facts
  exact ⟨group, m, next, m', ⟨_, _, _, .of_run? done⟩, (Group.mem_of_manager? managed).1, aloft,
    two, one, ⟨_, step⟩, (Group.mem_of_manager? managed').1, last, none⟩

end Restage
