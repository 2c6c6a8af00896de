import Restage.Proofs.Floor.Cancelling

/-!
# Sound floors

`Floor.Sound` ties the tables of a floor together: who owns a slice, who counts it among its
members, and what state the owner allows it to be in. A tracker that is held and has not failed
never has a cancelled slice, and one that has failed or was let go has only slices that ended.

Every change of the floor but three is confined to what one tracker governs. `Floor.Reworks`
states that frame, and `Floor.Sound.rework` reduces soundness after such a change to the slices of
that tracker. The other three make a slice, make a tracker, and admit a slice
(`Floor.Sound.addSlice`, `Floor.Sound.addTracker`, `Floor.Sound.admitted`).
-/

namespace Restage

/-! ## What a tracker allows -/

/-- A slice has a cause exactly when it failed, and its token is cancelled exactly when it is. -/
structure Slice.Sound (s : Slice) : Prop where
  cause : s.failure.isSome = true ↔ s.state = .failed
  token : s.tokenCancelled = true ↔ s.state = .cancelled

/-- What the owner of a slice allows it to be. -/
structure Tracker.Governs (k : Tracker) (s : Slice) : Prop where
  begun : s.state ≠ .created
  ended : k.fatal.isSome = true ∨ k.held = false → s.state.IsTerminal
  alive : k.fatal = none → k.held = true → s.state ≠ .cancelled
  fatal : ∀ f, s.failure = some (.fatal f) → k.fatal = some f

structure Floor.Sound (floor : Floor) : Prop where
  slice : ∀ {i : SliceRef} {s : Slice}, floor.slices[i]? = some s → s.Sound
  unbound : ∀ {i : SliceRef} {s : Slice}, floor.slices[i]? = some s → s.owner = none →
    s.state = .created
  bound : ∀ {i : SliceRef} {s : Slice} {t : TrackerRef}, floor.slices[i]? = some s →
    s.owner = some t → ∃ k, floor.trackers[t]? = some k ∧ (s.slot, i) ∈ k.members ∧
      s.piece.job = k.descriptor.job.id ∧ k.Governs s
  slots : ∀ {t : TrackerRef} {k : Tracker}, floor.trackers[t]? = some k →
    (k.members.map Prod.fst).Nodup
  member : ∀ {t : TrackerRef} {k : Tracker} {slot : Slot} {i : SliceRef},
    floor.trackers[t]? = some k → (slot, i) ∈ k.members →
    ∃ s, floor.slices[i]? = some s ∧ s.owner = some t ∧ s.slot = slot
  serial : ∀ {t : TrackerRef} {k : Tracker} {f : FatalFailure}, floor.trackers[t]? = some k →
    k.fatal = some f → f.serial < floor.minted

theorem Slice.Sound.ofPiece (piece : Piece) : (Slice.ofPiece piece).Sound where
  cause := by simp [Slice.ofPiece]
  token := by simp [Slice.ofPiece]

theorem Slice.Sound.cancelled {s : Slice} (sound : s.Sound) : s.cancelled.Sound := by
  by_cases ended : s.state.IsTerminal
  · rw [s.cancelled_of_terminal ended]
    exact sound
  · rw [s.cancelled_of_not_terminal ended]
    refine ⟨?_, by simp⟩
    have running : s.state ≠ .failed := fun failed => ended (Or.inr (Or.inl failed))
    simp [sound.cause, running]

theorem Slice.Sound.failure_of_ne {s : Slice} (sound : s.Sound) (other : s.state ≠ .failed) :
    s.failure = none := by
  rwa [← Option.not_isSome_iff_eq_none, sound.cause]

theorem Slice.Sound.token_of_ne {s : Slice} (sound : s.Sound) (other : s.state ≠ .cancelled) :
    ¬ s.tokenCancelled = true := by
  rwa [sound.token]

theorem Slice.Sound.failure_of_created {s : Slice} (sound : s.Sound)
    (created : s.state = .created) : s.failure = none :=
  sound.failure_of_ne (by rw [created]; exact SliceState.noConfusion)

theorem Slice.Sound.admitted {s : Slice} (sound : s.Sound) (created : s.state = .created)
    (t : TrackerRef) : ({ s with owner := some t, state := .pending } : Slice).Sound where
  cause := by
    rw [sound.failure_of_created created]
    simp
  token := by
    rw [sound.token, created]
    simp

/-- A pending slice without a cause is allowed by a tracker that is held and has not failed. -/
theorem Tracker.Governs.of_pending {k : Tracker} {s : Slice} (fine : k.fatal = none)
    (held : k.held = true) (pending : s.state = .pending) (cause : s.failure = none) :
    k.Governs s where
  begun := by
    rw [pending]
    exact SliceState.noConfusion
  ended := by
    rw [fine, held]
    intro past
    rcases past with failed | gone
    · cases failed
    · cases gone
  alive := fun _ _ => by
    rw [pending]
    exact SliceState.noConfusion
  fatal := fun f failure => by
    rw [cause] at failure
    cases failure

/-- A pending slice shows that its tracker is held and has not failed. -/
theorem Tracker.Governs.open_of_pending {k : Tracker} {s : Slice} (governs : k.Governs s)
    (pending : s.state = .pending) : k.fatal = none ∧ k.held = true := by
  have running : ¬ (k.fatal.isSome = true ∨ k.held = false) := by
    intro past
    have ended := governs.ended past
    rw [pending] at ended
    exact absurd ended (by decide)
  cases fatal : k.fatal with
  | some f => exact absurd (Or.inl (by rw [fatal]; rfl)) running
  | none =>
      cases held : k.held with
      | false => exact absurd (Or.inr held) running
      | true => exact ⟨rfl, rfl⟩

/-- A cancelled slice shows that its tracker has failed or was let go. -/
theorem Tracker.Governs.over_of_cancelled {k : Tracker} {s : Slice} (governs : k.Governs s)
    (cancelled : s.state = .cancelled) : k.fatal.isSome = true ∨ k.held = false := by
  cases fatal : k.fatal with
  | some f => exact Or.inl rfl
  | none =>
      cases held : k.held with
      | false => exact Or.inr rfl
      | true => exact absurd cancelled (governs.alive fatal held)

/-- Cancelling leaves a slice in a state that a tracker allows which lets go of it. -/
theorem Tracker.Governs.discard {k : Tracker} {s : Slice} (governs : k.Governs s) :
    ({ k with held := false } : Tracker).Governs s.cancelled where
  begun := by
    rw [Slice.state_cancelled]
    intro created
    have ended := s.state.terminal_onCancel
    rw [created] at ended
    exact absurd ended (by decide)
  ended := fun _ => by
    rw [Slice.state_cancelled]
    exact s.state.terminal_onCancel
  alive := fun _ held => by cases held
  fatal := fun f failure => governs.fatal f (by rwa [Slice.failure_cancelled] at failure)

/-- Cancelling leaves a slice in a state that a tracker allows which has just failed. -/
theorem Tracker.Governs.doom {k : Tracker} {s : Slice} {f : FatalFailure} (governs : k.Governs s)
    (fine : k.fatal = none) : ({ k with fatal := some f } : Tracker).Governs s.cancelled where
  begun := governs.discard.begun
  ended := fun _ => governs.discard.ended (Or.inr rfl)
  alive := fun none => by cases none
  fatal := fun g failure => by
    have recorded := governs.fatal g (by rwa [Slice.failure_cancelled] at failure)
    rw [fine] at recorded
    cases recorded

/-! ## Changes that concern one tracker -/

/-- All that differs between two floors belongs to one tracker, which keeps its members, its job
and its queue; its slices keep their owner and their piece. -/
structure Floor.Reworks (t : TrackerRef) (k k' : Tracker) (floor next : Floor) : Prop where
  before : floor.trackers[t]? = some k
  after : next.trackers[t]? = some k'
  members : k'.members = k.members
  job : k'.descriptor.job.id = k.descriptor.job.id
  queue : k'.queue = k.queue
  others : ∀ u, u ≠ t → next.trackers[u]? = floor.trackers[u]?
  outside : ∀ (i : SliceRef) (s : Slice), floor.slices[i]? = some s → s.owner ≠ some t →
    next.slices[i]? = some s
  inside : ∀ (i : SliceRef) (s : Slice), floor.slices[i]? = some s → s.owner = some t →
    ∃ s', next.slices[i]? = some s' ∧ s'.owner = some t ∧ s'.piece = s.piece
  absent : ∀ i : SliceRef, floor.slices[i]? = none → next.slices[i]? = none
  minted : floor.minted ≤ next.minted

theorem Floor.Reworks.trans {t : TrackerRef} {k k' k'' : Tracker} {floor next last : Floor}
    (first : Floor.Reworks t k k' floor next) (second : Floor.Reworks t k' k'' next last) :
    Floor.Reworks t k k'' floor last where
  before := first.before
  after := second.after
  members := second.members.trans first.members
  job := second.job.trans first.job
  queue := second.queue.trans first.queue
  others := fun u other => (second.others u other).trans (first.others u other)
  outside := fun i s here owner => second.outside i s (first.outside i s here owner) owner
  inside := fun i s here owner => by
    obtain ⟨s', here', owner', piece'⟩ := first.inside i s here owner
    obtain ⟨s'', here'', owner'', piece''⟩ := second.inside i s' here' owner'
    exact ⟨s'', here'', owner'', piece''.trans piece'⟩
  absent := fun i none => second.absent i (first.absent i none)
  minted := Nat.le_trans first.minted second.minted

theorem Floor.Reworks.modifyTracker {t : TrackerRef} {k : Tracker} {floor : Floor}
    (change : Tracker → Tracker) (found : floor.trackers[t]? = some k)
    (members : (change k).members = k.members)
    (job : (change k).descriptor.job.id = k.descriptor.job.id)
    (queue : (change k).queue = k.queue) :
    Floor.Reworks t k (change k) floor (floor.modifyTracker t change) where
  before := found
  after := by rw [Floor.trackers_modifyTracker, if_pos rfl, found, Option.map_some]
  members := members
  job := job
  queue := queue
  others := fun u other => by rw [Floor.trackers_modifyTracker, if_neg (Ne.symm other)]
  outside := fun i s here _ => here
  inside := fun i s here owner => ⟨s, here, owner, rfl⟩
  absent := fun i none => none
  minted := Nat.le_refl _

/-- A tracker gets a new descriptor of its job. -/
theorem Floor.Reworks.described {t : TrackerRef} {k : Tracker} {floor : Floor}
    {descriptor : Descriptor} (found : floor.trackers[t]? = some k)
    (job : k.descriptor.job.id = descriptor.job.id) :
    Floor.Reworks t k { k with descriptor := descriptor } floor
      (floor.modifyTracker t fun k => { k with descriptor := descriptor }) :=
  .modifyTracker (fun k => { k with descriptor := descriptor }) found rfl job.symm rfl

/-- A change of one slice of a tracker. -/
theorem Floor.Reworks.of_slice {t : TrackerRef} {k : Tracker} {floor next : Floor} {i : SliceRef}
    {s : Slice} (s' : Slice) (found : floor.trackers[t]? = some k) (here : floor.slices[i]? = some s)
    (owner : s.owner = some t) (owner' : s'.owner = s.owner) (piece : s'.piece = s.piece)
    (slices : ∀ j : SliceRef, next.slices[j]? = if i = j then some s' else floor.slices[j]?)
    (trackers : next.trackers = floor.trackers) (minted : floor.minted ≤ next.minted) :
    Floor.Reworks t k k floor next where
  before := found
  after := by rw [trackers]; exact found
  members := rfl
  job := rfl
  queue := rfl
  others := fun u _ => by rw [trackers]
  outside := fun j s₁ there foreign => by
    rw [slices]
    split
    · next same =>
        subst same
        rw [here] at there
        cases there
        exact absurd owner foreign
    · exact there
  inside := fun j s₁ there owned => by
    rw [slices]
    split
    · next same =>
        subst same
        rw [here] at there
        cases there
        exact ⟨s', rfl, owner'.trans owner, piece⟩
    · exact ⟨s₁, there, owned, rfl⟩
  absent := fun j none => by
    rw [slices]
    split
    · next same =>
        subst same
        rw [here] at none
        cases none
    · exact none
  minted := minted

theorem Floor.mem_membersOf {floor : Floor} {t : TrackerRef} {k : Tracker} {i : SliceRef}
    (found : floor.trackers[t]? = some k) :
    i ∈ floor.membersOf t ↔ ∃ slot, (slot, i) ∈ k.members := by
  rw [Floor.membersOf, found, List.mem_map]
  constructor
  · intro listed
    rcases listed with ⟨⟨slot, j⟩, member, rfl⟩
    exact ⟨slot, member⟩
  · intro listed
    rcases listed with ⟨slot, member⟩
    exact ⟨(slot, i), member, rfl⟩

theorem Floor.Sound.owned {floor : Floor} (sound : floor.Sound) {t : TrackerRef} {k : Tracker}
    {i : SliceRef} {s : Slice} (here : floor.slices[i]? = some s) (owner : s.owner = some t)
    (found : floor.trackers[t]? = some k) :
    (s.slot, i) ∈ k.members ∧ s.piece.job = k.descriptor.job.id ∧ k.Governs s := by
  obtain ⟨k', found', owned⟩ := sound.bound here owner
  rw [found] at found'
  cases found'
  exact owned

theorem Floor.Sound.owner_of_member {floor : Floor} (sound : floor.Sound) {t : TrackerRef}
    {k : Tracker} {slot : Slot} {i : SliceRef} {s : Slice} (found : floor.trackers[t]? = some k)
    (member : (slot, i) ∈ k.members) (here : floor.slices[i]? = some s) :
    s.owner = some t ∧ s.slot = slot := by
  obtain ⟨s', here', owned⟩ := sound.member found member
  rw [here] at here'
  cases here'
  exact owned

/-- The members of a tracker are the slices it owns. -/
theorem Floor.Sound.mem_membersOf_iff {floor : Floor} (sound : floor.Sound) {t : TrackerRef}
    {k : Tracker} {i : SliceRef} {s : Slice} (found : floor.trackers[t]? = some k)
    (here : floor.slices[i]? = some s) : i ∈ floor.membersOf t ↔ s.owner = some t := by
  rw [Floor.mem_membersOf found]
  constructor
  · intro listed
    rcases listed with ⟨slot, member⟩
    exact (sound.owner_of_member found member here).1
  · intro owner
    obtain ⟨member, -⟩ := sound.owned here owner found
    exact ⟨s.slot, member⟩

theorem Floor.Reworks.cancelAll {t : TrackerRef} {k : Tracker} {floor : Floor}
    (sound : floor.Sound) (found : floor.trackers[t]? = some k) :
    Floor.Reworks t k k floor (floor.cancelAll t).1 where
  before := found
  after := by rw [Floor.trackers_cancelAll]; exact found
  members := rfl
  job := rfl
  queue := rfl
  others := fun u _ => by rw [Floor.trackers_cancelAll]
  outside := fun i s here foreign => by
    rw [Floor.slices_cancelAll, if_neg fun member => foreign
      ((sound.mem_membersOf_iff found here).mp member)]
    exact here
  inside := fun i s here owner => by
    refine ⟨s.cancelled, ?_, s.owner_cancelled.trans owner, s.piece_cancelled⟩
    rw [Floor.slices_cancelAll, if_pos ((sound.mem_membersOf_iff found here).mpr owner), here,
      Option.map_some]
  absent := fun i none => by rw [Floor.slices_cancelAll, none, Option.map_none, ite_self]
  minted := Nat.le_of_eq Floor.minted_cancelAll.symm

/-- What a slice after the change was before it. -/
theorem Floor.Reworks.slice_cases {t : TrackerRef} {k k' : Tracker} {floor next : Floor}
    (rework : Floor.Reworks t k k' floor next) {i : SliceRef} {s' : Slice}
    (there : next.slices[i]? = some s') :
    (floor.slices[i]? = some s' ∧ s'.owner ≠ some t) ∨
      ∃ s, floor.slices[i]? = some s ∧ s.owner = some t ∧ s'.owner = some t ∧
        s'.piece = s.piece := by
  cases here : floor.slices[i]? with
  | none => rw [rework.absent i here] at there; cases there
  | some s =>
      by_cases owner : s.owner = some t
      · obtain ⟨s₁, there₁, owner', piece⟩ := rework.inside i s here owner
        rw [there] at there₁
        cases there₁
        exact Or.inr ⟨s, rfl, owner, owner', piece⟩
      · have same := rework.outside i s here owner
        rw [there] at same
        cases same
        exact Or.inl ⟨rfl, owner⟩

/-- A change that concerns one tracker keeps a floor sound when that tracker's slices are. -/
theorem Floor.Sound.rework {floor next : Floor} {t : TrackerRef} {k k' : Tracker}
    (sound : floor.Sound) (rework : Floor.Reworks t k k' floor next)
    (governs : ∀ (i : SliceRef) (s s' : Slice), floor.slices[i]? = some s → s.owner = some t →
      next.slices[i]? = some s' → k.Governs s → s'.Sound ∧ k'.Governs s')
    (serial : ∀ f, k'.fatal = some f → f.serial < next.minted) : next.Sound where
  slice := fun {i s'} there => by
    rcases rework.slice_cases there with ⟨here, -⟩ | ⟨s, here, owner, -, -⟩
    · exact sound.slice here
    · obtain ⟨k₁, found, -, -, governed⟩ := sound.bound here owner
      rw [rework.before] at found
      cases found
      exact (governs i s s' here owner there governed).1
  unbound := fun {i s'} there free => by
    rcases rework.slice_cases there with ⟨here, -⟩ | ⟨s, -, -, owner', -⟩
    · exact sound.unbound here free
    · rw [free] at owner'
      cases owner'
  bound := fun {i s' u} there owner => by
    rcases rework.slice_cases there with ⟨here, foreign⟩ | ⟨s, here, owned, owner', piece⟩
    · obtain ⟨k₁, found, member, job, governed⟩ := sound.bound here owner
      have other : u ≠ t := by
        intro same
        rw [same] at owner
        exact foreign owner
      exact ⟨k₁, by rw [rework.others u other]; exact found, member, job, governed⟩
    · rw [owner'] at owner
      cases owner
      obtain ⟨k₁, found, member, job, governed⟩ := sound.bound here owned
      rw [rework.before] at found
      cases found
      refine ⟨k', rework.after, ?_, ?_, (governs i s s' here owned there governed).2⟩
      · rw [rework.members, Slice.slot, piece]
        exact member
      · rw [piece, rework.job]
        exact job
  slots := fun {u k₁} found => by
    by_cases same : u = t
    · subst same
      rw [rework.after] at found
      cases found
      rw [rework.members]
      exact sound.slots rework.before
    · rw [rework.others u same] at found
      exact sound.slots found
  member := fun {u k₁ slot i} found member => by
    by_cases same : u = t
    · subst same
      rw [rework.after] at found
      cases found
      rw [rework.members] at member
      obtain ⟨s, here, owner, slotEq⟩ := sound.member rework.before member
      obtain ⟨s', there, owner', piece⟩ := rework.inside i s here owner
      exact ⟨s', there, owner', by rw [← slotEq, Slice.slot, piece, Slice.slot]⟩
    · rw [rework.others u same] at found
      obtain ⟨s, here, owner, slotEq⟩ := sound.member found member
      refine ⟨s, rework.outside i s here ?_, owner, slotEq⟩
      rw [owner]
      exact fun equal => same (Option.some.inj equal)
  serial := fun {u k₁ f} found fatal => by
    by_cases same : u = t
    · subst same
      rw [rework.after] at found
      cases found
      exact serial f fatal
    · rw [rework.others u same] at found
      exact Nat.lt_of_lt_of_le (sound.serial found fatal) rework.minted

/-- A change of one slice keeps a floor sound when its tracker allows what the slice becomes. -/
theorem Floor.Sound.of_slice {t : TrackerRef} {k : Tracker} {floor next : Floor} {i : SliceRef}
    {s : Slice} (sound : floor.Sound) (s' : Slice) (found : floor.trackers[t]? = some k)
    (here : floor.slices[i]? = some s) (owner : s.owner = some t) (owner' : s'.owner = s.owner)
    (piece : s'.piece = s.piece)
    (slices : ∀ j : SliceRef, next.slices[j]? = if i = j then some s' else floor.slices[j]?)
    (trackers : next.trackers = floor.trackers) (minted : floor.minted ≤ next.minted)
    (clean : s'.Sound) (governs : k.Governs s') : next.Sound := by
  refine sound.rework (.of_slice s' found here owner owner' piece slices trackers minted) ?_
    fun f fatal => Nat.lt_of_lt_of_le (sound.serial found fatal) minted
  intro j s₁ s₂ before _ after governed
  rw [slices] at after
  split at after
  · cases after
    exact ⟨clean, governs⟩
  · rw [before] at after
    cases after
    exact ⟨sound.slice before, governed⟩

theorem Floor.Sound.of_same {floor next : Floor} (sound : floor.Sound)
    (slices : next.slices = floor.slices) (trackers : next.trackers = floor.trackers)
    (minted : floor.minted ≤ next.minted) : next.Sound where
  slice := fun here => sound.slice (by rwa [slices] at here)
  unbound := fun here => sound.unbound (by rwa [slices] at here)
  bound := fun here owner => by
    rw [trackers]
    exact sound.bound (by rwa [slices] at here) owner
  slots := fun found => sound.slots (by rwa [trackers] at found)
  member := fun found member => by
    rw [slices]
    exact sound.member (by rwa [trackers] at found) member
  serial := fun found fatal =>
    Nat.lt_of_lt_of_le (sound.serial (by rwa [trackers] at found) fatal) minted

/-! ## New slices, new trackers, new members -/

theorem Floor.Sound.empty : ({} : Floor).Sound where
  slice := fun here => by simp at here
  unbound := fun here => by simp at here
  bound := fun here => by simp at here
  slots := fun found => by simp at found
  member := fun found => by simp at found
  serial := fun found => by simp at found

/-- The number of a slice that is in its table is not the next one to be given out. -/
theorem Floor.slice_ne_size {floor : Floor} {i : SliceRef} {s : Slice}
    (here : floor.slices[i]? = some s) : i ≠ floor.slices.size := by
  rintro rfl
  rw [Array.getElem?_size] at here
  cases here

theorem Floor.tracker_ne_size {floor : Floor} {t : TrackerRef} {k : Tracker}
    (found : floor.trackers[t]? = some k) : t ≠ floor.trackers.size := by
  rintro rfl
  rw [Array.getElem?_size] at found
  cases found

theorem Floor.Sound.addSlice {floor : Floor} (sound : floor.Sound) (piece : Piece) :
    (floor.addSlice (Slice.ofPiece piece)).1.Sound where
  slice := fun {i s} here => by
    rw [Floor.slices_addSlice] at here
    split at here
    · cases here
      exact Slice.Sound.ofPiece piece
    · exact sound.slice here
  unbound := fun {i s} here free => by
    rw [Floor.slices_addSlice] at here
    split at here
    · cases here
      rfl
    · exact sound.unbound here free
  bound := fun {i s t} here owner => by
    rw [Floor.slices_addSlice] at here
    split at here
    · cases here
      cases owner
    · exact sound.bound here owner
  slots := fun found => sound.slots found
  member := fun {t k slot i} found member => by
    obtain ⟨s, here, rest⟩ := sound.member found member
    refine ⟨s, ?_, rest⟩
    rw [Floor.slices_addSlice, if_neg (Floor.slice_ne_size here)]
    exact here
  serial := fun found fatal => sound.serial found fatal

/-- A tracker that nothing has been submitted to yet. -/
def Tracker.fresh (descriptor : Descriptor) (queue : QueueRef) : Tracker where
  descriptor := descriptor
  members := []
  fatal := none
  queue := queue
  held := true

theorem Floor.Sound.addTracker {floor : Floor} (sound : floor.Sound) (descriptor : Descriptor)
    (queue : QueueRef) : (floor.addTracker (.fresh descriptor queue)).1.Sound where
  slice := fun here => sound.slice here
  unbound := fun here free => sound.unbound here free
  bound := fun {i s t} here owner => by
    obtain ⟨k, found, rest⟩ := sound.bound here owner
    refine ⟨k, ?_, rest⟩
    rw [Floor.trackers_addTracker, if_neg (Floor.tracker_ne_size found)]
    exact found
  slots := fun {t k} found => by
    rw [Floor.trackers_addTracker] at found
    split at found
    · cases found
      exact List.nodup_nil
    · exact sound.slots found
  member := fun {t k slot i} found member => by
    rw [Floor.trackers_addTracker] at found
    split at found
    · cases found
      cases member
    · exact sound.member found member
  serial := fun {t k f} found fatal => by
    rw [Floor.trackers_addTracker] at found
    split at found
    · cases found
      cases fatal
    · exact sound.serial found fatal

/-- The floor once a tracker has admitted a slice: the slice is bound to it, PENDING and at the end
of its queue. -/
def Floor.admitted (floor : Floor) (t : TrackerRef) (k : Tracker) (i : SliceRef) (s : Slice) :
    Floor :=
  ((floor.modifySlice i fun _ => { s with owner := some t, state := .pending }).addMember
    t s.slot i).enqueue k.queue i

theorem Floor.slices_admitted {floor : Floor} {t : TrackerRef} {k : Tracker} {i j : SliceRef}
    {s : Slice} (here : floor.slices[i]? = some s) :
    (floor.admitted t k i s).slices[j]? =
      if i = j then some { s with owner := some t, state := .pending } else floor.slices[j]? := by
  rw [Floor.admitted, Floor.slices_enqueue, Floor.slices_addMember]
  exact Floor.slices_modifySlice_of here

/-- Slices of two owners are two slices. -/
theorem Floor.slice_ne_of_owner {floor : Floor} {i j : SliceRef} {s s' : Slice}
    (here : floor.slices[i]? = some s) (there : floor.slices[j]? = some s')
    (differ : s.owner ≠ s'.owner) : i ≠ j := by
  rintro rfl
  rw [here] at there
  cases there
  exact differ rfl

/-- A slice that is bound already stays as it is when another one is admitted. -/
theorem Floor.slices_admitted_of_bound {floor : Floor} {t u : TrackerRef} {k : Tracker}
    {i j : SliceRef} {s s' : Slice} (here : floor.slices[i]? = some s) (free : s.owner = none)
    (there : floor.slices[j]? = some s') (owner : s'.owner = some u) :
    (floor.admitted t k i s).slices[j]? = some s' := by
  have apart : i ≠ j := Floor.slice_ne_of_owner here there (by rw [free, owner]; exact nofun)
  rw [Floor.slices_admitted here, if_neg apart]
  exact there

theorem Floor.trackers_admitted {floor : Floor} {t u : TrackerRef} {k : Tracker} {i : SliceRef}
    {s : Slice} (found : floor.trackers[t]? = some k) :
    (floor.admitted t k i s).trackers[u]? =
      if t = u then some { k with members := k.members ++ [(s.slot, i)] }
      else floor.trackers[u]? := by
  rw [Floor.admitted, Floor.trackers_enqueue, Floor.trackers_addMember,
    Floor.trackers_modifySlice]
  split
  · next same =>
      subst same
      rw [found, Option.map_some]
  · rfl

theorem Floor.Sound.admitted {floor : Floor} (sound : floor.Sound) {t : TrackerRef} {k : Tracker}
    {i : SliceRef} {s : Slice} (found : floor.trackers[t]? = some k)
    (here : floor.slices[i]? = some s) (fine : k.fatal = none) (held : k.held = true)
    (free : s.owner = none) (job : s.piece.job = k.descriptor.job.id)
    (new : k.members.lookup s.slot = none) : (floor.admitted t k i s).Sound := by
  have created := sound.unbound here free
  have clean := sound.slice here
  refine ⟨?_, ?_, ?_, ?_, ?_, ?_⟩
  · intro j s' there
    rw [Floor.slices_admitted here] at there
    split at there
    · cases there
      exact clean.admitted created t
    · exact sound.slice there
  · intro j s' there none
    rw [Floor.slices_admitted here] at there
    split at there
    · cases there
      cases none
    · exact sound.unbound there none
  · intro j s' u there owner
    rw [Floor.slices_admitted here] at there
    split at there
    · next same =>
        subst same
        cases there
        cases owner
        refine ⟨{ k with members := k.members ++ [(s.slot, i)] }, ?_, ?_, job, ?_⟩
        · rw [Floor.trackers_admitted found, if_pos rfl]
        · exact List.mem_append_right _ List.mem_cons_self
        · exact .of_pending fine held rfl (clean.failure_of_created created)
    · obtain ⟨k₁, found₁, member, job₁, governs⟩ := sound.bound there owner
      rw [Floor.trackers_admitted found]
      split
      · next same =>
          subst same
          rw [found] at found₁
          cases found₁
          exact ⟨_, rfl, List.mem_append_left _ member, job₁, governs.begun, governs.ended,
            governs.alive, governs.fatal⟩
      · exact ⟨k₁, found₁, member, job₁, governs⟩
  · intro u k₁ found₁
    rw [Floor.trackers_admitted found] at found₁
    split at found₁
    · cases found₁
      rw [List.map_append, List.map_cons, List.map_nil]
      refine List.Nodup.append (sound.slots found) (List.nodup_singleton _) ?_
      rw [List.disjoint_singleton]
      exact Table.notMem_keys_of_lookup new
    · exact sound.slots found₁
  · intro u k₁ slot j found₁ member
    rw [Floor.trackers_admitted found] at found₁
    have old : ∀ {k₂}, floor.trackers[u]? = some k₂ → (slot, j) ∈ k₂.members →
        ∃ s', (floor.admitted t k i s).slices[j]? = some s' ∧ s'.owner = some u ∧
          s'.slot = slot := by
      intro k₂ found₂ member₂
      obtain ⟨s', there, owner, slotEq⟩ := sound.member found₂ member₂
      exact ⟨s', Floor.slices_admitted_of_bound here free there owner, owner, slotEq⟩
    split at found₁
    · next same =>
        subst same
        cases found₁
        rcases List.mem_append.mp member with member | member
        · exact old found member
        · rw [List.mem_singleton] at member
          cases member
          refine ⟨{ s with owner := some t, state := .pending }, ?_, rfl, rfl⟩
          rw [Floor.slices_admitted here, if_pos rfl]
    · exact old found₁ member
  · intro u k₁ f found₁ fatal
    rw [Floor.trackers_admitted found] at found₁
    split at found₁
    · cases found₁
      rw [fine] at fatal
      cases fatal
    · exact sound.serial found₁ fatal

end Restage
