import Restage.Proofs.Group.Sights
import Restage.Proofs.Manager.Rolls

/-!
# Trackers own their slices

`Rolls` has a roll for every instance. It is kept from what is told of each act (`Group.enter`),
beginning with nothing, and `Group.Sound.rolls_act` says that the rolls that are kept are those that
can be read off the group.

`Group.Owned` says who owns what: managers their trackers, each under its job, trackers their
slices, each under its slot, and nobody has what another one has. What a slice reads through its
tracker is settled by the rolls. `Group.trackers_own_slices` is that this holds after every run.
-/

namespace Restage

open Manager

/-- A roll for every instance. -/
abbrev Rolls := UInt32 → Roll

/-- The rolls before anything has happened. -/
def Rolls.empty : Rolls := fun _ _ => none

/-- The rolls after one more act. -/
def Group.enter (group : Group) (rolls : Rolls) : Group.Act → Rolls
  | .on id act =>
      match group.manager? id with
      | some m => Function.update rolls id ((rolls id).record (Site.notice (group.floor, m) act))
      | none => rolls
  | _ => rolls

/-- A run with its rolls, when each of its acts is possible. -/
def Group.entered? (group : Group) (rolls : Rolls) : List Group.Act → Option (Group × Rolls)
  | [] => some (group, rolls)
  | act :: rest => (group.act? act).bind fun next => next.entered? (group.enter rolls act) rest

/-- The rolls that can be read off a group. -/
def Group.rolls (group : Group) : Rolls := fun id job =>
  (group.sight? id job).map Sight.descriptor

variable {group group' : Group} {rolls : Rolls} {floor : Floor} {m m' : Manager} {t : TrackerRef}
  {k : Tracker} {i : SliceRef} {s : Slice} {id : UInt32} {job : TimeId}

/-! ## Keeping the rolls -/

theorem Group.Sound.rolls_of_mem (sound : group.Sound) (member : m ∈ group.managers) :
    group.rolls m.home.id = Site.roll (group.floor, m) := by
  funext job
  rw [Group.rolls, sound.sight?_of_mem member, Site.roll]

/-- What is read off a group after an act is what was read before, with the act entered. -/
theorem Group.Sound.rolls_act (sound : group.Sound) {act : Group.Act}
    (done : group.act? act = some group') : group'.rolls = group.enter group.rolls act := by
  cases act with
  | build piece =>
      cases done
      rfl
  | describe job =>
      cases done
      rfl
  | on id act =>
      obtain ⟨m, next, m', managed, acted, rfl⟩ := Group.act?_on done
      obtain ⟨member, rfl⟩ := Group.mem_of_manager? managed
      have site := sound.manager member
      have kept := site.roll_act acted
      rw [Group.enter, managed]
      simp only
      rw [sound.rolls_of_mem member, ← kept]
      funext other
      rw [Function.update_apply]
      funext job
      rw [Group.rolls, sound.sight?_put member (site.act acted)]
      split <;> rfl

theorem Group.Untouched.rolls_eq {recency : Span} {limit : Nat}
    (untouched : group.Untouched recency limit) : group.rolls = .empty := by
  funext id job
  have untracked : ∀ m ∈ group.managers, m.tracker? job = none := fun m member => by
    rw [Manager.tracker?, (untouched.manager member).1]
    rfl
  rw [Group.rolls, untouched.sound.untracked_iff.mpr untracked]
  rfl

theorem Group.Sound.rolls_entered {acts : List Group.Act} (sound : group.Sound)
    (kept : rolls = group.rolls) {last : Group} {final : Rolls}
    (run : group.entered? rolls acts = some (last, final)) :
    group.Reach last ∧ final = last.rolls := by
  induction acts generalizing group rolls with
  | nil =>
      cases run
      exact ⟨.refl, kept⟩
  | cons act rest ih =>
      obtain ⟨next, done, others⟩ := Option.bind_eq_some_iff.mp run
      have step : group.Step next := ⟨act, done⟩
      have kept' : group.enter rolls act = next.rolls := by rw [kept, sound.rolls_act done]
      obtain ⟨reach, same⟩ := ih (sound.step step) kept' others
      exact ⟨.head step reach, same⟩

/-! ## Who owns what -/

/-- Whether a manager of the group has a tracker. -/
def Group.Holds (group : Group) (t : TrackerRef) : Prop :=
  ∃ m ∈ group.managers, ∃ job, m.tracker? job = some t

/-- Managers own their trackers and trackers their slices, and a slice reads through its tracker what
the rolls say of its job. -/
structure Group.Owned (group : Group) (rolls : Rolls) : Prop where
  /-- A tracker is under the job of its descriptor. -/
  key : ∀ m ∈ group.managers, ∀ (job : TimeId) (t : TrackerRef), m.tracker? job = some t →
    ∃ k, group.floor.trackers[t]? = some k ∧ k.descriptor.job.id = job
  /-- A tracker is had once. -/
  sole : ∀ m ∈ group.managers, ∀ m' ∈ group.managers, ∀ (job job' : TimeId) (t : TrackerRef),
    m.tracker? job = some t → m'.tracker? job' = some t → m' = m ∧ job' = job
  /-- A slice is under its own slot, is bound to the tracker and belongs to the tracker's job. -/
  member : ∀ (t : TrackerRef) (k : Tracker), group.floor.trackers[t]? = some k →
    ∀ slot i, (slot, i) ∈ k.members → ∃ s, group.floor.slices[i]? = some s ∧ s.slot = slot ∧
      s.owner = some t ∧ s.piece.job = k.descriptor.job.id
  slots : ∀ (t : TrackerRef) (k : Tracker), group.floor.trackers[t]? = some k →
    (k.members.map Prod.fst).Nodup
  /-- No slice is in two trackers, whoever has them. -/
  apart : ∀ (i : SliceRef) (t t' : TrackerRef), i ∈ group.floor.membersOf t →
    i ∈ group.floor.membersOf t' → t' = t
  /-- A slice reads a descriptor exactly while somebody has its tracker. -/
  readable : ∀ (i : SliceRef) (s : Slice), group.floor.slices[i]? = some s →
    ((group.floor.descriptorOf? i).isSome = true ↔ ∃ t, s.owner = some t ∧ group.Holds t)
  /-- What a slice reads was given last for its job. -/
  reads : ∀ (i : SliceRef) (s : Slice) (t : TrackerRef), group.floor.slices[i]? = some s →
    s.owner = some t → ∀ m ∈ group.managers, ∀ job, m.tracker? job = some t →
      s.piece.job = job ∧ group.floor.descriptorOf? i = rolls m.home.id job

/-- A tracker is held as long as a manager has it. -/
theorem Group.Sound.held_iff (sound : group.Sound) (found : group.floor.trackers[t]? = some k) :
    k.held = true ↔ group.Holds t := by
  constructor
  · intro held
    obtain ⟨m, member, queue⟩ := sound.served found
    have tracks := (sound.manager member).tracks
    exact ⟨m, member, _, Table.lookup_of_mem tracks.keys (tracks.held found held queue.symm)⟩
  · rintro ⟨m, member, job, tracked⟩
    obtain ⟨k', found', held, -⟩ := (sound.manager member).tracks.of_tracked tracked
    rw [found] at found'
    cases found'
    exact held

theorem Floor.descriptorOf?_of_held (here : floor.slices[i]? = some s) (owner : s.owner = some t)
    (found : floor.trackers[t]? = some k) (held : k.held = true) :
    floor.descriptorOf? i = some k.descriptor := by
  simp only [Floor.descriptorOf?, here, Option.bind_eq_bind, Option.bind_some,
    Floor.keeper?_of_held owner found held, found]

theorem Floor.descriptorOf?_of_let_go (here : floor.slices[i]? = some s)
    (owner : s.owner = some t) (found : floor.trackers[t]? = some k) (gone : k.held = false) :
    floor.descriptorOf? i = none := by
  simp only [Floor.descriptorOf?, here, Option.bind_eq_bind, Option.bind_some,
    Floor.keeper?_of_let_go owner found gone, Option.bind_none]

theorem Floor.descriptorOf?_of_free (here : floor.slices[i]? = some s) (free : s.owner = none) :
    floor.descriptorOf? i = none := by
  simp only [Floor.descriptorOf?, here, Option.bind_eq_bind, Option.bind_some, Floor.keeper?, free,
    Option.filter_none, Option.bind_none]

/-- A slice reads a descriptor exactly while a manager has its tracker. -/
theorem Group.Sound.readable_iff (sound : group.Sound) (here : group.floor.slices[i]? = some s) :
    (group.floor.descriptorOf? i).isSome = true ↔ ∃ t, s.owner = some t ∧ group.Holds t := by
  cases owner : s.owner with
  | none => simp [Floor.descriptorOf?_of_free here owner]
  | some t =>
      obtain ⟨k, found, -⟩ := sound.floor.bound here owner
      have holds := sound.held_iff found
      cases held : k.held with
      | true => simpa [Floor.descriptorOf?_of_held here owner found held] using holds.mp held
      | false =>
          rw [held] at holds
          simpa [Floor.descriptorOf?_of_let_go here owner found held] using holds

theorem Group.Sound.owned (sound : group.Sound) : group.Owned group.rolls where
  key := fun m member job t tracked => by
    obtain ⟨k, found, -, -, label⟩ := (sound.manager member).tracks.of_tracked tracked
    exact ⟨k, found, label⟩
  sole := fun m member m' member' job job' t tracked tracked' => by
    have tracks := (sound.manager member).tracks
    obtain ⟨k, found, -, queue, label⟩ := tracks.of_tracked tracked
    obtain ⟨k', found', -, queue', label'⟩ := (sound.manager member').tracks.of_tracked tracked'
    rw [found] at found'
    cases found'
    exact ⟨sound.eq_of_queue member' member (queue'.symm.trans queue), label'.symm.trans label⟩
  member := fun t k found slot i inside => by
    obtain ⟨s, here, owner, slot⟩ := sound.floor.member found inside
    obtain ⟨-, of, -⟩ := sound.floor.owned here owner found
    exact ⟨s, here, slot, owner, of⟩
  slots := fun t k found => sound.floor.slots found
  apart := fun i t t' inside inside' => by
    have owned : ∀ u, i ∈ group.floor.membersOf u →
        ∃ s, group.floor.slices[i]? = some s ∧ s.owner = some u := by
      intro u listed
      cases found : group.floor.trackers[u]? with
      | none =>
          rw [Floor.membersOf, found] at listed
          cases listed
      | some k =>
          obtain ⟨slot, listed⟩ := (Floor.mem_membersOf found).mp listed
          obtain ⟨s, here, owner, -⟩ := sound.floor.member found listed
          exact ⟨s, here, owner⟩
    obtain ⟨s, here, owner⟩ := owned t inside
    obtain ⟨s', here', owner'⟩ := owned t' inside'
    rw [here] at here'
    cases here'
    exact Option.some.inj (owner'.symm.trans owner)
  readable := fun i s here => sound.readable_iff here
  reads := fun i s t here owner m member job tracked => by
    obtain ⟨k, found, held, -, label⟩ := (sound.manager member).tracks.of_tracked tracked
    obtain ⟨-, of, -⟩ := sound.floor.owned here owner found
    refine ⟨of.trans label, ?_⟩
    rw [Floor.descriptorOf?_of_held here owner found held, sound.rolls_of_mem member,
      Site.roll_tracked tracked, found, Option.map_some]

/-- After every run managers own their trackers, trackers own their slices, and every slice reads the
descriptor that its tracker was made with or that replaced it since. -/
theorem Group.trackers_own_slices {recency : Span} {limit : Nat} {homes : List Instance}
    {acts : List Group.Act}
    (run : (Group.ofInstances recency limit homes).entered? .empty acts = some (group, rolls)) :
    group.Owned rolls := by
  have untouched := Group.untouched_ofInstances recency limit homes
  obtain ⟨reach, kept⟩ := untouched.sound.rolls_entered untouched.rolls_eq.symm run
  rw [kept]
  exact (untouched.sound.reach reach).owned

/-- Two slices of a job are submitted with different descriptors, then the descriptor is replaced,
and one of them is submitted with yet another one. -/
def Group.relabelledRun : List Group.Act :=
  [.build (.small 0), .build (.small 1), .on 1 (.submit 0 .small),
    .on 1 (.submit 1 { Descriptor.small with serial := 1 }),
    .on 1 (.update { Descriptor.small with serial := 2 }),
    .on 1 (.submit 1 { Descriptor.small with serial := 3 })]

/-- The second slice reads the replacement, as the first does. -/
theorem Group.trackers_own_slices_small :
    ∃ group rolls, Group.small.entered? .empty relabelledRun = some (group, rolls) ∧
      group.Owned rolls ∧
      group.floor.descriptorOf? 1 = some { Descriptor.small with serial := 2 } := by
  have known : (Group.small.entered? .empty relabelledRun).bind (fun (group, rolls) =>
      (group.floor.slices[1]?).bind fun s => (group.manager? 1).map fun m =>
        (s.owner, m.home.id, m.tracker? Descriptor.small.job.id, rolls 1 Descriptor.small.job.id)) =
      some (some 0, 1, some 0, some { Descriptor.small with serial := 2 }) := by
    decide
  obtain ⟨⟨group, rolls⟩, run, rest⟩ := Option.bind_eq_some_iff.mp known
  obtain ⟨s, here, rest⟩ := Option.bind_eq_some_iff.mp rest
  obtain ⟨m, managed, facts⟩ := Option.map_eq_some_iff.mp rest
  simp only [Prod.mk.injEq] at facts
  obtain ⟨owner, home, tracked, told⟩ := facts
  have owned := Group.trackers_own_slices run
  obtain ⟨-, reads⟩ := owned.reads 1 s 0 here owner m (Group.mem_of_manager? managed).1 _ tracked
  rw [home, told] at reads
  exact ⟨group, rolls, run, owned, reads⟩

end Restage
