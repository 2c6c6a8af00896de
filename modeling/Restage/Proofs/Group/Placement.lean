import Restage.Proofs.Group.Runs

/-!
# No slice is lost and none is queued twice

`Group.placed` is everything that waits in a queue, is in a worker's hand or is with a processor.
`Group.Reachable.placement` says that it never names a slice twice, and that until a manager is told
to stop it names every PENDING slice.
-/

namespace Restage

open Manager

variable {group : Group} {m m' : Manager} {i : SliceRef}

/-- The places of all managers. -/
def Group.placed (group : Group) : List SliceRef :=
  group.managers.flatMap fun m => m.placed group.floor

/-- What two managers have to do is apart, since it is posted to different queues. -/
theorem Group.Sound.placed_apart (sound : group.Sound) (member : m ∈ group.managers)
    (member' : m' ∈ group.managers) (inside : i ∈ m.placed group.floor)
    (inside' : i ∈ m'.placed group.floor) : m = m' := by
  have post := (sound.manager member).places.posted inside
  have post' := (sound.manager member').places.posted inside'
  refine sound.eq_of_queue member member' ?_
  rcases post with post | post <;> rcases post' with post' | post' <;>
    exact congrArg Prod.fst (Option.some.inj (post.symm.trans post'))

theorem Group.Sound.placed_nodup (sound : group.Sound) : group.placed.Nodup := by
  have apart : group.managers.Pairwise fun m m' => m.queue ≠ m'.queue :=
    List.pairwise_map.mp sound.queues
  refine List.nodup_flatMap.mpr ⟨fun m member => (sound.manager member).places.once, ?_⟩
  refine apart.imp_of_mem fun {m m'} member member' other i inside inside' => other ?_
  rw [sound.placed_apart member member' inside inside']

/-- A slice that is PENDING belongs to the queue of some manager. -/
theorem Group.Sound.post_of_pending (sound : group.Sound)
    (pending : group.floor.stateOf? i = some .pending) :
    ∃ m ∈ group.managers, group.floor.post? i = some (m.queue, .pending) := by
  obtain ⟨s, here, state⟩ := Option.map_eq_some_iff.mp pending
  cases owner : s.owner with
  | none =>
      rw [sound.floor.unbound here owner] at state
      cases state
  | some t =>
      obtain ⟨k, found, -⟩ := sound.floor.bound here owner
      obtain ⟨m, member, queue⟩ := sound.served found
      refine ⟨m, member, ?_⟩
      rw [Floor.post?_of here owner found, queue, state]

theorem Group.Reachable.placement (reachable : group.Reachable) :
    (∀ i, group.placed.count i ≤ 1) ∧
      ((∀ m ∈ group.managers, m.stopping = false) →
        (∀ i, group.floor.stateOf? i = some .pending → group.placed.count i = 1) ∧
          (group.placed = [] → ∀ i, group.floor.stateOf? i ≠ some .pending)) := by
  have sound := reachable.sound
  have once := sound.placed_nodup
  refine ⟨List.nodup_iff_count_le_one.mp once, fun going => ?_⟩
  have placed : ∀ i, group.floor.stateOf? i = some .pending → i ∈ group.placed := by
    intro i pending
    obtain ⟨m, member, post⟩ := sound.post_of_pending pending
    have inside := (sound.manager member).places.kept (going m member) post
    exact List.mem_flatMap.mpr ⟨m, member, inside⟩
  refine ⟨fun i pending => List.count_eq_one_of_mem once (placed i pending), ?_⟩
  intro empty i pending
  have inside := placed i pending
  rw [empty] at inside
  cases inside

/-- One slice is with the processor, one waits, and one was built only. -/
def Group.placementRun : List Group.Act :=
  [.build (.small 0), .build (.small 1), .build (.small 2), .on 1 .start, .on 1 (.submit 0 .small),
    .on 1 .take, .on 1 .grant, .on 1 .proceed, .on 1 (.submit 1 .small)]

theorem Group.placement_small :
    (Group.smallAfter placementRun).placed = [1, 0] ∧
      (Group.smallAfter placementRun).floor.stateOf? 0 = some .pending ∧
      (Group.smallAfter placementRun).placed.count 0 = 1 := by
  have placement := Group.Reachable.placement (Group.reachable_smallAfter placementRun)
  have pending : (Group.smallAfter placementRun).floor.stateOf? 0 = some .pending := by decide
  exact ⟨by decide, pending, (placement.2 (by decide)).1 0 pending⟩

end Restage
