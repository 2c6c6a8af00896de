import Restage.Proofs.Floor.Landing

/-!
# Where a slice belongs

`Floor.post?` is the queue that a bound slice belongs to, which is its tracker's, and the state it
is in. What the work of a manager does to the floor is said in terms of it: an admission and a
reopening post one slice (`Floor.post?_admitted`, `Floor.post?_reopened`), and everything else
`Floor.Eases` the posts of the others, which may be cancelled and nothing more.

`Floor.Within` is the frame of one queue: trackers and slices that belong to another queue, and the
other queues themselves, stay as they were.
-/

namespace Restage

/-- The queue a bound slice belongs to and the state it is in. -/
def Floor.post? (floor : Floor) (i : SliceRef) : Option (QueueRef × SliceState) := do
  let s ← floor.slices[i]?
  let t ← s.owner
  let k ← floor.trackers[t]?
  some (k.queue, s.state)

variable {floor next last : Floor} {t : TrackerRef} {k k' : Tracker} {i j : SliceRef} {s : Slice}
  {q : QueueRef}

theorem Floor.post?_eq_some {state : SliceState} :
    floor.post? i = some (q, state) ↔ ∃ s t k, floor.slices[i]? = some s ∧ s.owner = some t ∧
      floor.trackers[t]? = some k ∧ k.queue = q ∧ s.state = state := by
  simp only [Floor.post?, Option.bind_eq_bind, Option.bind_eq_some_iff, Option.some.injEq,
    Prod.mk.injEq]
  constructor
  · intro listed
    rcases listed with ⟨s, here, t, owner, k, found, queue, state⟩
    exact ⟨s, t, k, here, owner, found, queue, state⟩
  · intro posted
    rcases posted with ⟨s, t, k, here, owner, found, queue, state⟩
    exact ⟨s, here, t, owner, k, found, queue, state⟩

theorem Floor.post?_of (here : floor.slices[i]? = some s) (owner : s.owner = some t)
    (found : floor.trackers[t]? = some k) : floor.post? i = some (k.queue, s.state) :=
  Floor.post?_eq_some.mpr ⟨s, t, k, here, owner, found, rfl, rfl⟩

theorem Floor.post?_of_free (here : floor.slices[i]? = some s) (free : s.owner = none) :
    floor.post? i = none := by
  rw [Floor.post?, here, Option.bind_eq_bind, Option.bind_some, free]
  rfl

theorem Floor.post?_of_none (absent : floor.slices[i]? = none) : floor.post? i = none := by
  rw [Floor.post?, absent]
  rfl

/-- The post of a slice hangs on the slice and on the queue of its tracker. -/
theorem Floor.post?_congr (slices : next.slices[i]? = floor.slices[i]?)
    (trackers : ∀ s t, floor.slices[i]? = some s → s.owner = some t →
      (next.trackers[t]?).map Tracker.queue = (floor.trackers[t]?).map Tracker.queue) :
    next.post? i = floor.post? i := by
  rw [Floor.post?, Floor.post?, slices]
  cases here : floor.slices[i]? with
  | none => rfl
  | some s =>
      cases owner : s.owner with
      | none => simp [owner]
      | some t =>
          have same := trackers s t here owner
          simp only [Option.bind_eq_bind, Option.bind_some, owner]
          cases before : floor.trackers[t]? <;> cases after : next.trackers[t]? <;>
            simp_all

/-! ## What each change posts -/

theorem Floor.Reworks.queue_eq (rework : Floor.Reworks t k k' floor next) (u : TrackerRef) :
    (next.trackers[u]?).map Tracker.queue = (floor.trackers[u]?).map Tracker.queue := by
  by_cases same : u = t
  · subst same
    rw [rework.after, rework.before, Option.map_some, Option.map_some, rework.queue]
  · rw [rework.others u same]

/-- A change that concerns one tracker posts no slice of another one differently. -/
theorem Floor.Reworks.post?_of_foreign (rework : Floor.Reworks t k k' floor next)
    (foreign : ∀ s, floor.slices[i]? = some s → s.owner ≠ some t) :
    next.post? i = floor.post? i := by
  refine Floor.post?_congr ?_ fun s u _ _ => rework.queue_eq u
  cases here : floor.slices[i]? with
  | none => exact rework.absent i here
  | some s => exact rework.outside i s here (foreign s here)

theorem Floor.Reworks.post?_of_own {s' : Slice} (rework : Floor.Reworks t k k' floor next)
    (here : floor.slices[i]? = some s) (owner : s.owner = some t)
    (there : next.slices[i]? = some s') : next.post? i = some (k.queue, s'.state) := by
  obtain ⟨s₁, there₁, owner₁, -⟩ := rework.inside i s here owner
  rw [there] at there₁
  cases there₁
  rw [Floor.post?_of there owner₁ rework.after, rework.queue]

/-- A new tracker governs no slice yet. -/
theorem Floor.Sound.post?_addTracker (sound : floor.Sound) {tracker : Tracker} :
    (floor.addTracker tracker).1.post? i = floor.post? i := by
  refine Floor.post?_congr rfl fun s u here owner => ?_
  obtain ⟨k, found, -⟩ := sound.bound here owner
  rw [Floor.trackers_addTracker, if_neg (Floor.tracker_ne_size found)]

/-- A new slice belongs nowhere yet. -/
theorem Floor.post?_addSlice {piece : Piece} :
    (floor.addSlice (Slice.ofPiece piece)).1.post? i = floor.post? i := by
  by_cases new : i = floor.slices.size
  · have there : (floor.addSlice (Slice.ofPiece piece)).1.slices[i]? =
        some (Slice.ofPiece piece) := by
      rw [Floor.slices_addSlice, if_pos new]
    have absent : floor.slices[i]? = none := by
      rw [new, Array.getElem?_size]
    rw [Floor.post?_of_free there rfl, Floor.post?_of_none absent]
  · refine Floor.post?_congr ?_ fun s u _ _ => by rw [Floor.trackers_addSlice]
    rw [Floor.slices_addSlice, if_neg new]

theorem Floor.post?_admitted (found : floor.trackers[t]? = some k)
    (here : floor.slices[i]? = some s) :
    (floor.admitted t k i s).post? j =
      if i = j then some (k.queue, .pending) else floor.post? j := by
  split
  · next same =>
      subst same
      refine Floor.post?_eq_some.mpr ⟨{ s with owner := some t, state := .pending }, t,
        { k with members := k.members ++ [(s.slot, i)] }, ?_, rfl, ?_, rfl, rfl⟩
      · rw [Floor.slices_admitted here, if_pos rfl]
      · rw [Floor.trackers_admitted found, if_pos rfl]
  · next other =>
      refine Floor.post?_congr ?_ fun s₁ u _ _ => ?_
      · rw [Floor.slices_admitted here, if_neg other]
      · rw [Floor.trackers_admitted found]
        split
        · next same =>
            subst same
            rw [found]
            rfl
        · rfl

theorem Floor.post?_reopened (found : floor.trackers[t]? = some k)
    (here : floor.slices[i]? = some s) (owner : s.owner = some t) :
    (floor.reopened k i s).post? j =
      if i = j then some (k.queue, .pending) else floor.post? j := by
  have rework := Floor.Reworks.reopened found here owner
  split
  · next same =>
      subst same
      have there : (floor.reopened k i s).slices[i]? =
          some { s with state := .pending, failure := none } := by
        rw [Floor.slices_reopened here, if_pos rfl]
      exact rework.post?_of_own here owner there
  · next other =>
      refine Floor.post?_congr ?_ fun s₁ u _ _ => rework.queue_eq u
      rw [Floor.slices_reopened here, if_neg other]

/-! ## Posts that are eased -/

/-- Slices of queue `q` that were PENDING may be cancelled, and no post differs otherwise. -/
def Floor.Eases (q : QueueRef) (floor next : Floor) (j : SliceRef) : Prop :=
  next.post? j = floor.post? j ∨
    (floor.post? j = some (q, .pending) ∧ next.post? j = some (q, .cancelled))

/-- Cancelling eases the posts of the slices of a tracker. -/
theorem Floor.Reworks.eases (rework : Floor.Reworks t k k' floor next)
    (own : ∀ s, floor.slices[j]? = some s → s.owner = some t →
      s.state ≠ .created ∧ next.slices[j]? = some s.cancelled) :
    Floor.Eases k.queue floor next j := by
  cases here : floor.slices[j]? with
  | none =>
      refine Or.inl (rework.post?_of_foreign fun s found => ?_)
      rw [here] at found
      cases found
  | some s =>
      by_cases owner : s.owner = some t
      · obtain ⟨begun, there⟩ := own s here owner
        have before := Floor.post?_of here owner rework.before
        have after := rework.post?_of_own here owner there
        rw [Slice.state_cancelled] at after
        cases state : s.state with
        | created => exact absurd state begun
        | pending =>
            rw [state] at before after
            exact Or.inr ⟨before, after⟩
        | completed | failed | cancelled =>
            rw [state] at before after
            exact Or.inl (after.trans before.symm)
      · refine Or.inl (rework.post?_of_foreign fun s' found => ?_)
        rw [here] at found
        cases found
        exact owner

/-- What an outcome makes of the posts: the slice it is about is not PENDING any more, and the
others are eased. -/
theorem Floor.Landed.post? {replica : String} {outcome : Outcome}
    (landed : Floor.Landed floor t k i s replica outcome next) (sound : floor.Sound)
    (here : floor.slices[i]? = some s) (owner : s.owner = some t)
    (found : floor.trackers[t]? = some k) :
    (∃ state : SliceState, state.IsTerminal ∧ next.post? i = some (k.queue, state)) ∧
      ∀ j, j ≠ i → Floor.Eases k.queue floor next j := by
  obtain ⟨fatal, rework⟩ := landed.reworks sound here owner found
  have single : ∀ s' : Slice,
      (∀ j : SliceRef, next.slices[j]? = if i = j then some s' else floor.slices[j]?) →
      s'.state.IsTerminal →
      (∃ state : SliceState, state.IsTerminal ∧ next.post? i = some (k.queue, state)) ∧
        ∀ j, j ≠ i → Floor.Eases k.queue floor next j := by
    intro s' slices terminal
    constructor
    · refine ⟨s'.state, terminal, rework.post?_of_own here owner ?_⟩
      rw [slices, if_pos rfl]
    · intro j other
      refine Or.inl (Floor.post?_congr ?_ fun s₁ u _ _ => rework.queue_eq u)
      rw [slices, if_neg (Ne.symm other)]
  cases landed with
  | completed pending =>
      exact single (s.ended _ _ _ _) (fun _ => Floor.slices_modifySlice_of here) (Or.inl rfl)
  | failed pending =>
      exact single (s.ended _ _ _ _) (fun _ => Floor.slices_modifySlice_of here)
        (Or.inr (Or.inl rfl))
  | @doomed detail pending =>
      constructor
      · have there := @Floor.slices_doomed floor t k i s replica ⟨floor.minted, detail⟩ i found here
        rw [if_pos rfl] at there
        exact ⟨.failed, Or.inr (Or.inl rfl), rework.post?_of_own here owner there⟩
      · intro j other
        refine rework.eases fun s₁ there owned => ⟨?_, ?_⟩
        · obtain ⟨k₁, -, -, -, governs⟩ := sound.bound there owned
          exact governs.begun
        · rw [Floor.slices_doomed found here, if_neg (Ne.symm other),
            if_pos ((sound.mem_membersOf_iff found there).mpr owned), there, Option.map_some]
  | late statuses cancelled noted slices trackers queues minted =>
      exact single { s with replicaStatus := statuses } slices (Or.inr (Or.inr cancelled))

/-! ## The frame of a queue -/

/-- All that differs between two floors belongs to queue `q`. -/
structure Floor.Within (q : QueueRef) (floor next : Floor) : Prop where
  trackers : ∀ (u : TrackerRef) (k : Tracker), k.queue ≠ q →
    (next.trackers[u]? = some k ↔ floor.trackers[u]? = some k)
  slices : ∀ (u : TrackerRef) (k : Tracker) (i : SliceRef) (s : Slice),
    floor.trackers[u]? = some k → k.queue ≠ q → s.owner = some u →
    (next.slices[i]? = some s ↔ floor.slices[i]? = some s)
  queues : ∀ r, r ≠ q → next.queues[r]? = floor.queues[r]?
  minted : floor.minted ≤ next.minted

theorem Floor.Within.refl : Floor.Within q floor floor where
  trackers := fun _ _ _ => Iff.rfl
  slices := fun _ _ _ _ _ _ _ => Iff.rfl
  queues := fun _ _ => rfl
  minted := Nat.le_refl _

theorem Floor.Within.trans (first : Floor.Within q floor next)
    (second : Floor.Within q next last) : Floor.Within q floor last where
  trackers := fun u k other => (second.trackers u k other).trans (first.trackers u k other)
  slices := fun u k i s found other owner =>
    (second.slices u k i s ((first.trackers u k other).mpr found) other owner).trans
      (first.slices u k i s found other owner)
  queues := fun r other => (second.queues r other).trans (first.queues r other)
  minted := Nat.le_trans first.minted second.minted

/-- A change that leaves trackers and slices alone stays within the one queue it changes. -/
theorem Floor.Within.of_tables (trackers : next.trackers = floor.trackers)
    (slices : next.slices = floor.slices)
    (queues : ∀ r, r ≠ q → next.queues[r]? = floor.queues[r]?)
    (minted : floor.minted ≤ next.minted) : Floor.Within q floor next where
  trackers := fun u k _ => by rw [trackers]
  slices := fun u k i s _ _ _ => by rw [slices]
  queues := queues
  minted := minted

/-- A change that concerns one tracker stays within its queue. -/
theorem Floor.Reworks.within (rework : Floor.Reworks t k k' floor next)
    (queues : ∀ r, r ≠ k.queue → next.queues[r]? = floor.queues[r]?) :
    Floor.Within k.queue floor next where
  trackers := fun u k₁ other => by
    by_cases same : u = t
    · subst same
      rw [rework.before, rework.after]
      constructor
      · intro after
        cases after
        exact absurd rework.queue other
      · intro before
        cases before
        exact absurd rfl other
    · rw [rework.others u same]
  slices := fun u k₁ i s found other owner => by
    have foreign : some u ≠ some t := by
      intro same
      cases same
      rw [rework.before] at found
      cases found
      exact other rfl
    constructor
    · intro there
      rcases rework.slice_cases there with ⟨here, -⟩ | ⟨-, -, -, owned, -⟩
      · exact here
      · exact absurd (owner.symm.trans owned) foreign
    · intro here
      exact rework.outside i s here fun owned => foreign (owner.symm.trans owned)
  queues := queues
  minted := rework.minted

theorem Floor.Within.addTracker {descriptor : Descriptor} :
    Floor.Within q floor (floor.addTracker (.fresh descriptor q)).1 where
  trackers := fun u k other => by
    rw [Floor.trackers_addTracker]
    split
    · next new =>
        constructor
        · intro fresh
          cases fresh
          exact absurd rfl other
        · intro found
          exact absurd new (Floor.tracker_ne_size found)
    · exact Iff.rfl
  slices := fun _ _ _ _ _ _ _ => Iff.rfl
  queues := fun _ _ => rfl
  minted := Nat.le_refl _

theorem Floor.Within.admitted (found : floor.trackers[t]? = some k)
    (here : floor.slices[i]? = some s) (free : s.owner = none) :
    Floor.Within k.queue floor (floor.admitted t k i s) where
  trackers := fun u k₁ other => by
    rw [Floor.trackers_admitted found]
    split
    · next same =>
        subst same
        rw [found]
        constructor
        · intro after
          cases after
          exact absurd rfl other
        · intro before
          cases before
          exact absurd rfl other
    · exact Iff.rfl
  slices := fun u k₁ j s₁ found₁ other owner => by
    rw [Floor.slices_admitted here]
    split
    · next same =>
        subst same
        rw [here]
        constructor
        · intro after
          cases after
          cases owner
          rw [found] at found₁
          cases found₁
          exact absurd rfl other
        · intro before
          cases before
          rw [free] at owner
          cases owner
    · exact Iff.rfl
  queues := fun r other => by
    rw [Floor.admitted, Floor.queues_enqueue, if_neg (Ne.symm other)]
    rfl
  minted := Nat.le_refl _

/-- A slice of another queue keeps its post. -/
theorem Floor.Within.post?_iff (within : Floor.Within q floor next) {r : QueueRef}
    {state : SliceState} (other : r ≠ q) :
    next.post? i = some (r, state) ↔ floor.post? i = some (r, state) := by
  rw [Floor.post?_eq_some, Floor.post?_eq_some]
  constructor
  · intro posted
    rcases posted with ⟨s, t, k, there, owner, found, rfl, rfl⟩
    have before := (within.trackers t k other).mp found
    exact ⟨s, t, k, (within.slices t k i s before other owner).mp there, owner, before, rfl, rfl⟩
  · intro posted
    rcases posted with ⟨s, t, k, here, owner, found, rfl, rfl⟩
    exact ⟨s, t, k, (within.slices t k i s found other owner).mpr here, owner,
      (within.trackers t k other).mpr found, rfl, rfl⟩

end Restage
