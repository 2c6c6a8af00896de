import Restage.Group
import Restage.Proofs.Manager.Ages

/-!
# Runs of a group

A run of a group is any number of steps in any order: a slice is built, a descriptor is made, or a
manager does an act. `Group.Reach` is a run, and `Group.Reachable` says that a group was come to by
one from the group of some instances. A manager alone is the group of one instance.

`Group.Sound` puts the managers of a group together: they keep out of each other's way because each
works within a queue of its own. `Group.Reachable.sound` says that it always holds.
-/

namespace Restage

open Manager

inductive Group.Act where
  | build (piece : Piece)
  | describe (job : Job)
  | on (id : UInt32) (act : Manager.Act)

/-- One act in a group, when it is possible. -/
def Group.act? (group : Group) : Group.Act → Option Group
  | .build piece => some { group with floor := (group.floor.addSlice (.ofPiece piece)).1 }
  | .describe job => some { group with floor := (group.floor.describe job).1 }
  | .on id act => do
      let m ← group.manager? id
      let (floor, m) ← Manager.act? (group.floor, m) act
      some (group.put floor m)

def Group.Step (group group' : Group) : Prop := ∃ act, group.act? act = some group'

/-- Any number of steps in any order. -/
abbrev Group.Reach : Group → Group → Prop := Relation.ReflTransGen Group.Step

def Group.Reachable (group : Group) : Prop :=
  ∃ recency limit homes, (Group.ofInstances recency limit homes).Reach group

/-- Some acts, one after the other, when each of them is possible. -/
def Group.run? (group : Group) : List Group.Act → Option Group
  | [] => some group
  | act :: rest => (group.act? act).bind fun next => next.run? rest

theorem Group.Reach.of_run? {group group' : Group} {acts : List Group.Act}
    (done : group.run? acts = some group') : group.Reach group' := by
  induction acts generalizing group with
  | nil =>
      cases done
      exact .refl
  | cons act rest ih =>
      obtain ⟨next, first, others⟩ := Option.bind_eq_some_iff.mp done
      exact (Relation.ReflTransGen.single ⟨act, first⟩).trans (ih others)

structure Group.Sound (group : Group) : Prop where
  floor : group.floor.Sound
  homes : (group.managers.map fun m => m.home.id).Nodup
  queues : (group.managers.map Manager.queue).Nodup
  manager : ∀ {m : Manager}, m ∈ group.managers → Site.Sound (group.floor, m)
  served : ∀ {t : TrackerRef} {k : Tracker}, group.floor.trackers[t]? = some k →
    ∃ m ∈ group.managers, m.queue = k.queue

variable {group group' : Group} {floor next : Floor} {m m' other : Manager}

/-! ## Putting a manager back -/

theorem Group.mem_of_manager? {id : UInt32} (found : group.manager? id = some m) :
    m ∈ group.managers ∧ m.home.id = id := by
  rw [Group.manager?] at found
  exact ⟨List.mem_of_find?_eq_some found, by simpa using List.find?_some found⟩

/-- A manager is the only one of its instance. -/
theorem Group.Sound.eq_of_home (sound : group.Sound) (member : m ∈ group.managers)
    (member' : m' ∈ group.managers) (same : m.home.id = m'.home.id) : m = m' :=
  List.inj_on_of_nodup_map sound.homes member member' same

/-- A manager is the only one of its queue. -/
theorem Group.Sound.eq_of_queue (sound : group.Sound) (member : m ∈ group.managers)
    (member' : m' ∈ group.managers) (same : m.queue = m'.queue) : m = m' :=
  List.inj_on_of_nodup_map sound.queues member member' same

theorem Group.Sound.manager?_of_mem (sound : group.Sound) (member : m ∈ group.managers) :
    group.manager? m.home.id = some m := by
  cases found : group.manager? m.home.id with
  | none =>
      rw [Group.manager?, List.find?_eq_none] at found
      have absent := found m member
      simp at absent
  | some m' =>
      obtain ⟨member', same⟩ := Group.mem_of_manager? found
      rw [sound.eq_of_home member member' same.symm]

/-- Among the managers of a group where one was put back are that one and the others. -/
theorem Group.Sound.mem_put (sound : group.Sound) (member : m ∈ group.managers)
    (home : m'.home = m.home) :
    other ∈ (group.put floor m').managers ↔
      other = m' ∨ (other ∈ group.managers ∧ other ≠ m) := by
  simp only [Group.put, List.mem_map]
  constructor
  · intro listed
    rcases listed with ⟨old, member', rfl⟩
    split
    · exact Or.inl rfl
    · next apart =>
        refine Or.inr ⟨member', ?_⟩
        rintro rfl
        exact apart (by rw [home])
  · intro either
    rcases either with rfl | ⟨member', apart⟩
    · exact ⟨m, member, if_pos (by rw [home])⟩
    · refine ⟨other, member', if_neg fun same => apart ?_⟩
      exact sound.eq_of_home member' member (by rw [same, home])

theorem Group.put_put (home : m.home = m'.home) :
    (group.put floor m).put next m' = group.put next m' := by
  simp only [Group.put, List.map_map, Group.mk.injEq, true_and]
  refine List.map_congr_left fun old _ => ?_
  simp only [Function.comp_apply]
  by_cases here : old.home.id = m.home.id
  · rw [if_pos here, if_pos (by rw [home]), if_pos (by rw [here, home])]
  · rw [if_neg here]

/-- What one manager's move does to the group. -/
theorem Group.Sound.move (sound : group.Sound) (member : m ∈ group.managers)
    (move : Move (group.floor, m) (next, m')) : (group.put next m').Sound := by
  obtain ⟨home, queue, -⟩ := move.same
  have clean := move.sound (sound.manager member)
  have within := move.within sound.floor
  refine ⟨clean.floor, ?_, ?_, ?_, ?_⟩
  · have same : (group.put next m').managers.map (fun m => m.home.id) =
        group.managers.map fun m => m.home.id := by
      rw [Group.put, List.map_map]
      refine List.map_congr_left fun old _ => ?_
      simp only [Function.comp_apply]
      split
      · next here => exact here.symm
      · rfl
    rw [same]
    exact sound.homes
  · have same : (group.put next m').managers.map Manager.queue =
        group.managers.map Manager.queue := by
      rw [Group.put, List.map_map]
      refine List.map_congr_left fun old member' => ?_
      simp only [Function.comp_apply]
      split
      · next here =>
          have only := sound.eq_of_home member' member (here.trans (by rw [home]))
          rw [only]
          exact queue
      · rfl
    rw [same]
    exact sound.queues
  · intro other member'
    rcases (sound.mem_put member home).mp member' with rfl | ⟨old, apart⟩
    · exact clean
    · have rest := sound.manager old
      have away : other.queue ≠ m.queue := fun same =>
        apart (sound.eq_of_queue old member same)
      exact ⟨clean.floor, rest.tracks.within within away, rest.places.within within away,
        rest.numbers.mono rfl within.minted⟩
  · intro t k found
    by_cases own : k.queue = m.queue
    · exact ⟨m', (sound.mem_put member home).mpr (Or.inl rfl), queue.trans own.symm⟩
    · obtain ⟨server, serving, same⟩ := sound.served ((within.trackers t k own).mp found)
      refine ⟨server, (sound.mem_put member home).mpr (Or.inr ⟨serving, ?_⟩), same⟩
      rintro rfl
      exact own same.symm

/-- Putting a manager back that did nothing. -/
theorem Group.Sound.put_self (sound : group.Sound) (member : m ∈ group.managers) :
    group.put group.floor m = group := by
  have same : (group.managers.map fun old => if old.home.id = m.home.id then m else old) =
      group.managers := by
    refine (List.map_congr_left fun old member' => ?_).trans (List.map_id _)
    split
    · next here => exact (sound.eq_of_home member' member here).symm
    · rfl
  rw [Group.put, same]

theorem Group.Sound.moves (sound : group.Sound) (member : m ∈ group.managers)
    (moves : Moves (group.floor, m) (next, m')) : (group.put next m').Sound := by
  have general : ∀ {site : Site}, Moves (group.floor, m) site →
      (group.put site.1 site.2).Sound := by
    intro site chain
    induction chain with
    | refl =>
        rw [sound.put_self member]
        exact sound
    | @tail middle last before move ih =>
        have home := (Moves.same before).1
        have inside : middle.2 ∈ (group.put middle.1 middle.2).managers :=
          (sound.mem_put member home).mpr (Or.inl rfl)
        have after := ih.move inside move
        rw [Group.put_put move.same.1.symm] at after
        exact after
  exact general moves

theorem Group.Sound.manager?_put {id : UInt32} (sound : group.Sound) (member : m ∈ group.managers)
    (home : m'.home = m.home) (sound' : (group.put next m').Sound) :
    (group.put next m').manager? id =
      if id = m.home.id then some m' else group.manager? id := by
  split
  · next same =>
      have inside : m' ∈ (group.put next m').managers :=
        (sound.mem_put member home).mpr (Or.inl rfl)
      rw [same, ← home]
      exact sound'.manager?_of_mem inside
  · next apart =>
      cases before : group.manager? id with
      | some other =>
          obtain ⟨known, at_home⟩ := Group.mem_of_manager? before
          have away : other ≠ m := by
            rintro rfl
            exact apart at_home.symm
          rw [← at_home]
          exact sound'.manager?_of_mem ((sound.mem_put member home).mpr (Or.inr ⟨known, away⟩))
      | none =>
          cases after : (group.put next m').manager? id with
          | none => rfl
          | some other =>
              obtain ⟨inside, at_home⟩ := Group.mem_of_manager? after
              rcases (sound.mem_put member home).mp inside with rfl | ⟨known, -⟩
              · exact absurd (at_home.symm.trans (by rw [home])) apart
              · have found := sound.manager?_of_mem known
                rw [at_home, before] at found
                cases found

/-! ## Steps -/

/-- An act of a manager is an act on its site. -/
theorem Group.act?_on {id : UInt32} {act : Manager.Act}
    (done : group.act? (.on id act) = some group') :
    ∃ m next m', group.manager? id = some m ∧
      Manager.act? (group.floor, m) act = some (next, m') ∧ group' = group.put next m' := by
  obtain ⟨m, managed, rest⟩ := Option.bind_eq_some_iff.mp done
  obtain ⟨⟨next, m'⟩, acted, same⟩ := Option.bind_eq_some_iff.mp rest
  cases same
  exact ⟨m, next, m', managed, acted, rfl⟩

/-- What a step of a group does: the managers stay as they are, or one of them moves. -/
theorem Group.Sound.step_cases (sound : group.Sound) (step : group.Step group') :
    (∃ piece, group' = { group with floor := (group.floor.addSlice (.ofPiece piece)).1 }) ∨
      group' = { group with floor := group.floor.mint.1 } ∨
      ∃ m ∈ group.managers, ∃ next m', Moves (group.floor, m) (next, m') ∧
        group' = group.put next m' := by
  obtain ⟨act, done⟩ := step
  cases act with
  | build piece =>
      cases done
      exact Or.inl ⟨piece, rfl⟩
  | describe job =>
      cases done
      exact Or.inr (Or.inl rfl)
  | on id act =>
      obtain ⟨m, next, m', found, acted, rfl⟩ := Group.act?_on done
      obtain ⟨member, -⟩ := Group.mem_of_manager? found
      exact Or.inr (Or.inr ⟨m, member, next, m', (sound.manager member).act acted, rfl⟩)

theorem Group.Sound.build (sound : group.Sound) (piece : Piece) :
    ({ group with floor := (group.floor.addSlice (.ofPiece piece)).1 } : Group).Sound where
  floor := sound.floor.addSlice piece
  homes := sound.homes
  queues := sound.queues
  manager := fun {m} member => by
    have before := sound.manager member
    refine ⟨sound.floor.addSlice piece, ⟨before.tracks.keys, before.tracks.tracker,
      before.tracks.held⟩, ?_, before.numbers.mono rfl (Nat.le_refl _)⟩
    exact before.places.ease rfl before.places.usable id (List.Perm.refl _) fun j =>
      Or.inl Floor.post?_addSlice
  served := fun found => sound.served found

theorem Group.Sound.mint (sound : group.Sound) :
    ({ group with floor := group.floor.mint.1 } : Group).Sound where
  floor := sound.floor.of_same rfl rfl (Nat.le_succ _)
  homes := sound.homes
  queues := sound.queues
  manager := fun {m} member => by
    have before := sound.manager member
    refine ⟨sound.floor.of_same rfl rfl (Nat.le_succ _), ⟨before.tracks.keys,
      before.tracks.tracker, before.tracks.held⟩, ?_, before.numbers.mono rfl (Nat.le_succ _)⟩
    exact before.places.ease rfl before.places.usable id (List.Perm.refl _) fun j => Or.inl rfl
  served := fun found => sound.served found

theorem Group.Sound.step (sound : group.Sound) (step : group.Step group') : group'.Sound := by
  rcases sound.step_cases step with ⟨piece, rfl⟩ | rfl | ⟨m, member, next, m', moves, rfl⟩
  · exact sound.build piece
  · exact sound.mint
  · exact sound.moves member moves

theorem Group.Sound.reach (sound : group.Sound) (run : group.Reach group') : group'.Sound := by
  induction run with
  | refl => exact sound
  | tail _ step ih => exact ih.step step

theorem Group.Sound.ages (sound : group.Sound) (step : group.Step group') :
    Floor.Ages group.floor group'.floor := by
  rcases sound.step_cases step with ⟨piece, rfl⟩ | rfl | ⟨m, member, next, m', moves, rfl⟩
  · exact .addSlice
  · exact .of_tables rfl rfl
  · exact Moves.ages moves (sound.manager member)

theorem Group.Sound.ages_reach (sound : group.Sound) (run : group.Reach group') :
    Floor.Ages group.floor group'.floor := by
  induction run with
  | refl => exact .refl
  | tail before step ih => exact ih.trans ((sound.reach before).ages step)

/-! ## The beginning -/

/-- A group in which nothing has happened: no tracker and no slice, and every manager as it was
made, with an empty queue of its own. -/
structure Group.Untouched (recency : Span) (limit : Nat) (group : Group) : Prop where
  slices : group.floor.slices = #[]
  trackers : group.floor.trackers = #[]
  homes : group.managers.Pairwise fun m m' => m.home.id < m'.home.id
  queues : (group.managers.map Manager.queue).Nodup
  manager : ∀ {m : Manager}, m ∈ group.managers →
    m = .ofInstance m.home recency limit m.queue ∧
      group.floor.queues[m.queue]? = some ⟨[], 0, false⟩

theorem Group.insert_cases {list : List Manager} (inside : other ∈ Group.insert m list) :
    other = m ∨ other ∈ list := by
  induction list with
  | nil => exact Or.inl (List.mem_singleton.mp inside)
  | cons head rest ih =>
      rw [Group.insert] at inside
      split at inside
      · exact List.mem_cons.mp inside
      · split at inside
        · exact (List.mem_cons.mp inside).imp_right (List.mem_cons_of_mem _)
        · rcases List.mem_cons.mp inside with rfl | inside
          · exact Or.inr List.mem_cons_self
          · exact (ih inside).imp_right (List.mem_cons_of_mem _)

theorem Group.insert_sorted {list : List Manager}
    (sorted : list.Pairwise fun m m' => m.home.id < m'.home.id) :
    (Group.insert m list).Pairwise fun m m' => m.home.id < m'.home.id := by
  induction list with
  | nil => exact List.pairwise_singleton _ _
  | cons head rest ih =>
      obtain ⟨first, tail⟩ := List.pairwise_cons.mp sorted
      rw [Group.insert]
      split
      · next before =>
          refine List.pairwise_cons.mpr ⟨fun other inside => ?_, sorted⟩
          rcases List.mem_cons.mp inside with rfl | inside
          · exact before
          · exact UInt32.lt_trans before (first other inside)
      · next notBefore =>
          split
          · next same => exact List.pairwise_cons.mpr ⟨fun other inside => by
              rw [same]; exact first other inside, tail⟩
          · next apart =>
              refine List.pairwise_cons.mpr ⟨fun other inside => ?_, ih tail⟩
              rcases Group.insert_cases inside with rfl | inside
              · have distinct : other.home.id.toNat ≠ head.home.id.toNat := fun same =>
                  apart (UInt32.toNat_inj.mp same)
                rw [UInt32.lt_iff_toNat_lt] at notBefore ⊢
                omega
              · exact first other inside

theorem Group.insert_queues {list : List Manager} (queues : (list.map Manager.queue).Nodup)
    (new : ∀ other ∈ list, other.queue ≠ m.queue) :
    ((Group.insert m list).map Manager.queue).Nodup := by
  induction list with
  | nil => exact List.nodup_singleton _
  | cons head rest ih =>
      rw [List.map_cons, List.nodup_cons] at queues
      have later : ∀ other ∈ rest, other.queue ≠ m.queue := fun other inside =>
        new other (List.mem_cons_of_mem _ inside)
      have absent : m.queue ∉ rest.map Manager.queue := by
        intro inside
        obtain ⟨other, member, same⟩ := List.mem_map.mp inside
        exact later other member same
      rw [Group.insert]
      split
      · rw [List.map_cons, List.nodup_cons, List.map_cons, List.nodup_cons, List.mem_cons]
        refine ⟨?_, queues⟩
        intro either
        rcases either with same | inside
        · exact new head List.mem_cons_self same.symm
        · exact absent inside
      · split
        · rw [List.map_cons, List.nodup_cons]
          exact ⟨absent, queues.2⟩
        · rw [List.map_cons, List.nodup_cons]
          refine ⟨?_, ih queues.2 later⟩
          intro inside
          obtain ⟨other, member, same⟩ := List.mem_map.mp inside
          rcases Group.insert_cases member with rfl | member
          · exact new head List.mem_cons_self same.symm
          · exact queues.1 (List.mem_map.mpr ⟨other, member, same⟩)

theorem Group.Untouched.addInstance {recency : Span} {limit : Nat}
    (untouched : group.Untouched recency limit) (home : Instance) :
    (group.addInstance recency limit home).Untouched recency limit := by
  have older : ∀ m ∈ group.managers, m.queue ≠ group.floor.queues.size := by
    intro m member same
    have here := (untouched.manager member).2
    rw [same, Array.getElem?_size] at here
    cases here
  refine ⟨untouched.slices, untouched.trackers, Group.insert_sorted untouched.homes,
    Group.insert_queues untouched.queues older, ?_⟩
  intro m inside
  rcases Group.insert_cases inside with rfl | member
  · exact ⟨rfl, Array.getElem?_push_size⟩
  · obtain ⟨made, here⟩ := untouched.manager member
    refine ⟨made, ?_⟩
    have before : (group.addInstance recency limit home).floor.queues[m.queue]? =
        group.floor.queues[m.queue]? := by
      rw [Group.addInstance, Floor.addQueue, Array.getElem?_push, if_neg (older m member)]
    rw [before]
    exact here

theorem Group.untouched_ofInstances (recency : Span) (limit : Nat) (homes : List Instance) :
    (Group.ofInstances recency limit homes).Untouched recency limit := by
  have start : (⟨{}, []⟩ : Group).Untouched recency limit :=
    ⟨rfl, rfl, .nil, .nil, fun member => by cases member⟩
  rw [Group.ofInstances]
  generalize (⟨{}, []⟩ : Group) = group at start
  induction homes generalizing group with
  | nil => exact start
  | cons home rest ih => exact ih _ (start.addInstance home)

theorem Group.Untouched.sound {recency : Span} {limit : Nat}
    (untouched : group.Untouched recency limit) : group.Sound := by
  have noSlice : ∀ i : SliceRef, group.floor.slices[i]? = none := by
    intro i
    rw [untouched.slices]
    rfl
  have noTracker : ∀ t : TrackerRef, group.floor.trackers[t]? = none := by
    intro t
    rw [untouched.trackers]
    rfl
  have clean : group.floor.Sound :=
    Floor.Sound.empty.of_same untouched.slices untouched.trackers (Nat.zero_le _)
  refine ⟨clean, ?_, untouched.queues, ?_, ?_⟩
  · exact List.pairwise_map.mpr (untouched.homes.imp fun less => UInt32.ne_of_lt less)
  · intro m member
    obtain ⟨made, here⟩ := untouched.manager member
    have jobs : m.jobs = [] := by rw [made]; rfl
    have flights : m.flights = [] := by rw [made]; rfl
    have hand : m.worker.hand = [] := by rw [made]; rfl
    have placed : m.placed group.floor = [] := by
      rw [Manager.placed, Floor.waiting_of here, hand, flights]
      rfl
    have never : false = true → m.stopping = true := fun closed => absurd closed Bool.false_ne_true
    refine ⟨clean, ⟨?_, ?_, ?_⟩, ⟨⟨_, here, never⟩, ?_, ?_, ?_⟩, ⟨?_, ?_⟩⟩
    · rw [jobs]
      exact List.nodup_nil
    · intro job t inside
      rw [jobs] at inside
      cases inside
    · intro t k found
      rw [noTracker] at found
      cases found
    · rw [placed]
      exact List.nodup_nil
    · intro i inside
      rw [placed] at inside
      cases inside
    · intro _ i pending
      rw [Floor.post?_of_none (noSlice i)] at pending
      cases pending
    · rw [flights]
      exact List.nodup_nil
    · intro flight inside
      rw [flights] at inside
      cases inside
  · intro t k found
    rw [noTracker] at found
    cases found

theorem Group.Reachable.sound (reachable : group.Reachable) : group.Sound := by
  obtain ⟨recency, limit, homes, run⟩ := reachable
  exact (Group.untouched_ofInstances recency limit homes).sound.reach run

/-! ## A small group -/

/-- One instance that may process one slice at a time. -/
def Group.small : Group :=
  .ofInstances ⟨0⟩ 1 [⟨1, "db", 7000, ⟨"/s"⟩⟩]

/-- A job for small runs. -/
def Descriptor.small : Descriptor :=
  ⟨0, ⟨⟨1, by decide⟩, "k", "t", none, .created, ⟨0⟩⟩⟩

/-- A slice of that job, by its bucket. -/
def Piece.small (bucket : Int16) : Piece :=
  ⟨"", ⟨1, by decide⟩, bucket, "k", "t", "b", "x", 0, ⟨"/s"⟩, []⟩

/-- The small group after some acts; where one of them is not possible, nothing has happened. -/
def Group.smallAfter (acts : List Group.Act) : Group := (Group.small.run? acts).getD .small

theorem Group.run?_append (acts more : List Group.Act) :
    group.run? (acts ++ more) = (group.run? acts).bind fun next => next.run? more := by
  induction acts generalizing group with
  | nil => rfl
  | cons act rest ih =>
      rw [List.cons_append, Group.run?, Group.run?, Option.bind_assoc]
      exact congrArg _ (funext fun next => ih)

theorem Group.smallAfter_append {acts more : List Group.Act}
    (possible : (Group.small.run? (acts ++ more)).isSome = true) :
    (Group.smallAfter acts).run? more = some (Group.smallAfter (acts ++ more)) := by
  obtain ⟨last, done⟩ := Option.isSome_iff_exists.mp possible
  rw [Group.smallAfter, Group.smallAfter, done]
  rw [Group.run?_append] at done
  obtain ⟨middle, before, after⟩ := Option.bind_eq_some_iff.mp done
  rw [before]
  exact after

theorem Group.step_smallAfter {acts : List Group.Act} {act : Group.Act}
    (possible : (Group.small.run? (acts ++ [act])).isSome = true) :
    (Group.smallAfter acts).Step (Group.smallAfter (acts ++ [act])) := by
  obtain ⟨last, done, same⟩ := Option.bind_eq_some_iff.mp (Group.smallAfter_append possible)
  cases same
  exact ⟨act, done⟩

theorem Group.reach_smallAfter {acts more : List Group.Act}
    (possible : (Group.small.run? (acts ++ more)).isSome = true) :
    (Group.smallAfter acts).Reach (Group.smallAfter (acts ++ more)) :=
  .of_run? (Group.smallAfter_append possible)

theorem Group.small_reach (acts : List Group.Act) : Group.small.Reach (Group.smallAfter acts) := by
  rw [Group.smallAfter]
  cases done : Group.small.run? acts with
  | none => exact .refl
  | some group => exact .of_run? done

theorem Group.reachable_smallAfter (acts : List Group.Act) : (Group.smallAfter acts).Reachable :=
  ⟨_, _, _, Group.small_reach acts⟩

end Restage
