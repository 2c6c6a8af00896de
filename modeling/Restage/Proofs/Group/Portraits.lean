import Restage.Proofs.Group.Concerns
import Restage.Proofs.Group.Sights
import Restage.Proofs.Manager.Portraits

/-!
# The portraits of a group

A `Panorama` is what all instances show of one job, with what has come to their queues meanwhile.
`Group.Depicts` says of a run that concerns one job that its panorama is what has become of the
group since: the portraits of other jobs are the same, and to every queue have come just the slices
that the panorama has.

Each step of discovery repaints the panorama of its job at one instance (`Group.Depicts.acted`). As
with sights, a function that goes through the managers one by one is met half way.
-/

namespace Restage

open Manager

variable {base : Nat} {first group group' : Group} {floor next : Floor} {m m' : Manager}
  {descriptor : Descriptor} {job : TimeId} {id : UInt32} {front rest : List Manager}
  {home : Instance} {homes : List Instance}

/-! ## Reading -/

/-- What the manager of an instance shows of a job and its slices. -/
def Group.portrait? (base : Nat) (group : Group) (id : UInt32) (job : TimeId) : Option Portrait :=
  (group.manager? id).bind fun m => Site.portrait? base (group.floor, m) job

/-- The queue of an instance. -/
def Group.queue? (group : Group) (id : UInt32) : Option QueueRef :=
  (group.manager? id).map Manager.queue

theorem Group.Sound.portrait?_of_mem (sound : group.Sound) (member : m ∈ group.managers) :
    group.portrait? base m.home.id = Site.portrait? base (group.floor, m) := by
  funext job
  rw [Group.portrait?, sound.manager?_of_mem member, Option.bind_some]

theorem Group.Sound.queue?_of_mem (sound : group.Sound) (member : m ∈ group.managers) :
    group.queue? m.home.id = some m.queue := by
  rw [Group.queue?, sound.manager?_of_mem member, Option.map_some]

theorem Group.portrait?_of_unlisted (absent : ∀ home ∈ group.homes, home.id ≠ id) :
    group.portrait? base id job = none := by
  rw [Group.portrait?, Group.manager?_of_unlisted absent, Option.bind_none]

/-- Whether the manager of an instance tracks a job. -/
def Group.tracks (group : Group) (id : UInt32) (job : TimeId) : Bool :=
  (group.manager? id).any fun m => (m.tracker? job).isSome

/-- The portraits are those of the jobs that are tracked. -/
theorem Group.Sound.portrait?_isSome (sound : group.Sound) :
    (group.portrait? base id job).isSome = group.tracks id job := by
  unfold Group.portrait? Group.tracks
  cases managed : group.manager? id with
  | none => rfl
  | some m =>
      obtain ⟨member, -⟩ := Group.mem_of_manager? managed
      exact (sound.manager member).tracks.portrait?_isSome

theorem Group.Sound.sight?_isSome (sound : group.Sound) :
    (group.sight? id job).isSome = group.tracks id job := by
  unfold Group.sight? Group.tracks
  cases managed : group.manager? id with
  | none => rfl
  | some m =>
      obtain ⟨member, -⟩ := Group.mem_of_manager? managed
      rw [Option.bind_some, Option.any_some]
      cases tracked : m.tracker? job with
      | none =>
          rw [Site.sight?_untracked tracked]
          rfl
      | some t =>
          obtain ⟨k, found, -⟩ := (sound.manager member).tracks.of_tracked tracked
          rw [Site.sight?_tracked tracked found]
          rfl

/-- What is none of a manager's business does not show in its portraits. -/
theorem Manager.Rests.portrait? (rests : m.Rests floor next) (sound : Site.Sound (floor, m)) :
    Site.portrait? base (next, m) job = Site.portrait? base (floor, m) job := by
  refine sound.portrait?_congr rfl (fun t k tracked found => ?_) fun t i s tracked here owner => ?_
  · obtain ⟨k', found', -, queue, -⟩ := sound.tracks.of_tracked tracked
    rw [found] at found'
    cases found'
    exact (rests.trackers t k queue).mpr found
  · obtain ⟨k, found, -, queue, -⟩ := sound.tracks.of_tracked tracked
    exact (rests.slices t k i s found queue owner).mpr here

theorem Group.Sound.portrait?_put (sound : group.Sound) (member : m ∈ group.managers)
    (moves : Moves (group.floor, m) (next, m')) :
    (group.put next m').portrait? base id job =
      if id = m.home.id then Site.portrait? base (next, m') job
      else group.portrait? base id job := by
  split
  · next same =>
      rw [Group.portrait?, sound.manager?_put member (Moves.same moves).1
        (sound.moves member moves), if_pos same, Option.bind_some]
      rfl
  · next apart =>
      obtain ⟨kept, rests⟩ := sound.others_rest member moves apart
      unfold Group.portrait?
      rw [kept]
      cases managed : group.manager? id with
      | none => rfl
      | some other =>
          obtain ⟨inside, -⟩ := Group.mem_of_manager? managed
          exact (rests other managed).portrait? (sound.manager inside)

/-! ## Panoramas -/

/-- What the instances show of one job, and what has come to their queues. -/
structure Panorama where
  seen : UInt32 → Option Portrait
  queued : UInt32 → List Tag

namespace Panorama

variable {view : Panorama} {change : Option Portrait → Option Portrait}

/-- The panorama of a job to whose slices nothing was done yet. -/
def ofGroup (base : Nat) (group : Group) (job : TimeId) : Panorama :=
  ⟨fun id => group.portrait? base id job, fun _ => []⟩

/-- An instance shows something else, and slices have come to its queue. -/
def paint (view : Panorama) (id : UInt32) (shown : Option Portrait) (tags : List Tag) :
    Panorama where
  seen := fun other => if other = id then shown else view.seen other
  queued := fun other => if other = id then view.queued id ++ tags else view.queued other

/-- Every instance shows something else. -/
def map (change : Option Portrait → Option Portrait) (view : Panorama) : Panorama :=
  { view with seen := fun id => change (view.seen id) }

/-- Some instances show something else, one after the other. -/
def each (change : Option Portrait → Option Portrait) (view : Panorama) : List Instance → Panorama
  | [] => view
  | home :: rest => (view.paint home.id (change (view.seen home.id)) []).each change rest

theorem queued_each : (view.each change homes).queued id = view.queued id := by
  induction homes generalizing view with
  | nil => rfl
  | cons home rest ih =>
      rw [each, ih, paint]
      simp only [List.append_nil]
      split
      · next same => rw [same]
      · rfl

theorem seen_each (distinct : (homes.map Instance.id).Nodup) :
    (view.each change homes).seen id =
      if id ∈ homes.map Instance.id then change (view.seen id) else view.seen id := by
  induction homes generalizing view with
  | nil => rfl
  | cons home rest ih =>
      obtain ⟨new, others⟩ := List.nodup_cons.mp distinct
      rw [each, ih others, paint, List.map_cons]
      by_cases same : id = home.id
      · rw [if_neg (same ▸ new), if_pos (List.mem_cons.mpr (.inl same))]
        simp only [same, if_true]
      · simp only [List.mem_cons, same, false_or, if_false]

end Panorama

/-! ## Runs that concern one job -/

/-- A run has made of one job what a panorama shows, and nothing of all others. -/
structure Group.Depicts (base : Nat) (job : TimeId) (first group : Group) (view : Panorama) :
    Prop where
  run : first.Reach group
  homes : group.homes = first.homes
  posts : ∀ id, group.queue? id = first.queue? id
  others : ∀ id other, other ≠ job → group.portrait? base id other = first.portrait? base id other
  seen : ∀ id, group.portrait? base id job = view.seen id
  queued : ∀ id q, first.queue? id = some q →
    Floor.Pushed base q (view.queued id) first.floor group.floor

variable {view : Panorama}

theorem Group.Depicts.refl : Group.Depicts base job group group (.ofGroup base group job) :=
  ⟨.refl, rfl, fun _ => rfl, fun _ _ _ => rfl, fun _ => rfl, fun _ _ _ => .nil rfl⟩

/-- A step that adds to the floor but changes nothing on it. -/
theorem Group.Depicts.added (depicts : Group.Depicts base job first group view)
    (sound : first.Sound) (step : group.Step ⟨next, group.managers⟩)
    (trackers : next.trackers = group.floor.trackers)
    (slices : ∀ (i : SliceRef) (s : Slice), group.floor.slices[i]? = some s →
      next.slices[i]? = some s)
    (queues : next.queues = group.floor.queues) :
    Group.Depicts base job first ⟨next, group.managers⟩ view := by
  have current := sound.reach depicts.run
  have same : ∀ id other, Group.portrait? base ⟨next, group.managers⟩ id other =
      group.portrait? base id other := by
    intro id other
    unfold Group.portrait?
    cases managed : group.manager? id with
    | none =>
        have managed' : Group.manager? ⟨next, group.managers⟩ id = none := managed
        rw [managed']
        rfl
    | some m =>
        have managed' : Group.manager? ⟨next, group.managers⟩ id = some m := managed
        obtain ⟨inside, -⟩ := Group.mem_of_manager? managed
        rw [managed', Option.bind_some, Option.bind_some]
        exact (current.manager inside).portrait?_congr rfl
          (fun t k _ found => by rw [trackers]; exact found) fun _ i s _ here _ => slices i s here
  refine ⟨depicts.run.tail step, depicts.homes, depicts.posts, fun id other apart => ?_,
    fun id => ?_, fun id q posted => ?_⟩
  · rw [same, depicts.others id other apart]
  · rw [same, depicts.seen]
  · have later := (depicts.queued id q posted).trans (.nil (by rw [queues])) (current.ages step)
    rwa [List.append_nil] at later

/-- An act of a manager that is about the job repaints what its instance shows. -/
theorem Group.Depicts.acted (depicts : Group.Depicts base job first group view)
    (sound : first.Sound) (member : m ∈ group.managers) (act : Manager.Act) {site : Site}
    (done : Manager.act? (group.floor, m) act = some site)
    (about : act.IsAbout job (group.floor, m)) {tags : List Tag}
    (pushed : Floor.Pushed base m.queue tags group.floor site.1) :
    Group.Depicts base job first (group.put site.1 site.2)
      (view.paint m.home.id (site.portrait? base job) tags) := by
  have current := sound.reach depicts.run
  have clean := current.manager member
  have moves : Moves (group.floor, m) site := clean.act done
  obtain ⟨home, queue, -⟩ := Moves.same moves
  have portraits : ∀ id other, (group.put site.1 site.2).portrait? base id other =
      if id = m.home.id then site.portrait? base other else group.portrait? base id other :=
    fun _ _ => current.portrait?_put member moves
  have ages := Moves.ages moves clean
  refine ⟨depicts.run.trans (current.reach_act member act done),
    (Group.homes_put home current member).trans depicts.homes, fun id => ?_, fun id other apart => ?_,
    fun id => ?_, fun id q posted => ?_⟩
  · rw [← depicts.posts, Group.queue?,
      current.manager?_put member home (current.moves member moves)]
    split
    · next same => rw [same, current.queue?_of_mem member, Option.map_some, queue]
    · rfl
  · rw [portraits, ← depicts.others id other apart]
    split
    · next same =>
        rw [same, current.portrait?_of_mem member]
        exact clean.portrait?_other (clean.concerns about done) apart
    · rfl
  · rw [portraits, Panorama.paint, depicts.seen]
  · have earlier := depicts.queued id q posted
    rw [← depicts.posts] at posted
    rw [Panorama.paint]
    simp only
    split
    · next same =>
        rw [same, current.queue?_of_mem member] at posted
        cases posted
        rw [same] at earlier
        exact earlier.trans pushed ages
    · next apart =>
        obtain ⟨other, managed, rfl⟩ := Option.map_eq_some_iff.mp posted
        have rests := (current.others_rest member moves apart).2 other managed
        have later := earlier.trans (.nil rests.queue) ages
        rwa [List.append_nil] at later

/-- An act of a manager between those that were met and those that are still to come. -/
theorem Group.Depicts.acted_middle
    (depicts : Group.Depicts base job first ⟨floor, front ++ m :: rest⟩ view)
    (sound : first.Sound) (act : Manager.Act) {site : Site}
    (done : Manager.act? (floor, m) act = some site) (about : act.IsAbout job (floor, m))
    {tags : List Tag} (pushed : Floor.Pushed base m.queue tags floor site.1) :
    Group.Depicts base job first ⟨site.1, (front ++ [site.2]) ++ rest⟩
      (view.paint m.home.id (site.portrait? base job) tags) := by
  have current := sound.reach depicts.run
  have member : m ∈ front ++ m :: rest := List.mem_append_right _ List.mem_cons_self
  have home := (Moves.same ((current.manager member).act done)).1
  have acted := depicts.acted sound member act done about pushed
  rw [current.put_middle home] at acted
  rw [List.append_assoc]
  exact acted

/-! ## Offering a slice -/

/-- What a group has to show for a piece that was offered to the next manager. -/
theorem Group.Depicts.offered
    (depicts : Group.Depicts base descriptor.job.id first ⟨floor, front ++ m :: rest⟩ view)
    (sound : first.Sound) (old : base ≤ first.floor.slices.size) {piece : Piece}
    (of : piece.job = descriptor.job.id) :
    let result := m.submit (floor.addSlice (.ofPiece piece)).1 floor.slices.size descriptor
    let reply := Portrait.offer descriptor.job piece (view.seen m.home.id)
    Group.Depicts base descriptor.job.id first ⟨result.1, (front ++ [result.2.1]) ++ rest⟩
        (view.paint m.home.id (some reply.shown) reply.queued) ∧
      result.2.2 = reply.answer.mapError .fatal := by
  have built : Group.Depicts base descriptor.job.id first
      ⟨(floor.addSlice (.ofPiece piece)).1, front ++ m :: rest⟩ view :=
    depicts.added sound ⟨.build piece, rfl⟩ rfl (fun i s here => by
      rw [Floor.slices_addSlice, if_neg (Floor.slice_ne_size here)]
      exact here) rfl
  have member : m ∈ front ++ m :: rest := List.mem_append_right _ List.mem_cons_self
  have current := sound.reach built.run
  have here : (floor.addSlice (.ofPiece piece)).1.slices[floor.slices.size]? =
      some (Slice.ofPiece piece) := by
    rw [Floor.slices_addSlice, if_pos rfl]
  have grown := (sound.ages_reach depicts.run).size_le
  have received := (current.manager member).received here rfl of (Nat.le_trans old grown)
  have seen : Site.portrait? base ((floor.addSlice (.ofPiece piece)).1, m) descriptor.job.id =
      view.seen m.home.id := by
    rw [← built.seen, current.portrait?_of_mem member]
  have done : Manager.act? ((floor.addSlice (.ofPiece piece)).1, m)
      (.submit floor.slices.size descriptor) = some
        ((m.submit (floor.addSlice (.ofPiece piece)).1 floor.slices.size descriptor).1,
          (m.submit (floor.addSlice (.ofPiece piece)).1 floor.slices.size descriptor).2.1) := rfl
  have acted := built.acted_middle sound _ done (.inl rfl) received.pushed
  have shown := received.shown
  have answer := received.answer
  have of' : (Slice.ofPiece piece).piece = piece := rfl
  rw [seen, of'] at shown answer acted
  rw [shown] at acted
  exact ⟨acted, answer⟩

/-! ## New descriptors and removals -/

theorem Manager.queues_updateJob : (m.updateJob floor descriptor).queues = floor.queues := by
  unfold Manager.updateJob
  split <;> rfl

theorem Manager.queues_removeJob : (m.removeJob floor job).1.queues = floor.queues := by
  cases tracked : m.tracker? job with
  | none => rw [Manager.removeJob_of_unknown tracked]
  | some t => rw [Manager.removeJob_of_tracked tracked, Floor.queues_discarded]

theorem Group.Depicts.updated_each (front : List Manager)
    (depicts : Group.Depicts base descriptor.job.id first ⟨floor, front ++ rest⟩ view)
    (sound : first.Sound) :
    Group.Depicts base descriptor.job.id first
      ⟨rest.foldl (fun floor m => m.updateJob floor descriptor) floor, front ++ rest⟩
      (view.each (Portrait.described descriptor.job) (rest.map Manager.home)) := by
  induction rest generalizing floor front view with
  | nil => exact depicts
  | cons m rest ih =>
      have member : m ∈ front ++ m :: rest := List.mem_append_right _ List.mem_cons_self
      have current := sound.reach depicts.run
      have done : Manager.act? (floor, m) (.update descriptor) =
        some (m.updateJob floor descriptor, m) := rfl
      have acted := depicts.acted_middle sound _ done rfl (.nil (by rw [Manager.queues_updateJob]))
      rw [(current.manager member).portrait?_updateJob, ← current.portrait?_of_mem member,
        depicts.seen] at acted
      have later := ih _ acted
      rw [List.append_assoc] at later
      exact later

theorem Group.Depicts.removed_each (front : List Manager)
    (depicts : Group.Depicts base job first ⟨floor, front ++ rest⟩ view) (sound : first.Sound) :
    Group.Depicts base job first
      ⟨(Group.removeFrom floor job rest).1, front ++ (Group.removeFrom floor job rest).2.1⟩
      (view.each (fun _ => none) (rest.map Manager.home)) := by
  induction rest generalizing floor front view with
  | nil => exact depicts
  | cons m rest ih =>
      have member : m ∈ front ++ m :: rest := List.mem_append_right _ List.mem_cons_self
      have current := sound.reach depicts.run
      have done : Manager.act? (floor, m) (.remove job) =
        some ((m.removeJob floor job).1, (m.removeJob floor job).2.1) := rfl
      have acted := depicts.acted_middle sound _ done rfl (.nil (by rw [Manager.queues_removeJob]))
      rw [(current.manager member).portrait?_removeJob] at acted
      have later := ih _ acted
      rw [List.append_assoc] at later
      exact later

/-- What was done on every instance shows wherever the job was shown. -/
theorem Group.Depicts.everywhere {change : Option Portrait → Option Portrait}
    (before : Group.Depicts base job first group view)
    (each : Group.Depicts base job first group' (view.each change group.homes))
    (sound : first.Sound) (nothing : change none = none) :
    Group.Depicts base job first group' (view.map change) := by
  have distinct : (group.homes.map Instance.id).Nodup := by
    rw [Group.homes, List.map_map]
    exact (sound.reach before.run).homes
  refine { each with seen := fun id => ?_, queued := fun id q posted => ?_ }
  · rw [each.seen, Panorama.seen_each distinct]
    split
    · rfl
    · next absent =>
        have hidden : view.seen id = none := by
          rw [← before.seen]
          exact Group.portrait?_of_unlisted fun home listed same =>
            absent (List.mem_map.mpr ⟨home, listed, same⟩)
        exact hidden.trans (nothing.symm.trans (congrArg change hidden.symm))
  · have kept := each.queued id q posted
    rw [Panorama.queued_each] at kept
    exact kept

theorem Group.Depicts.updated (depicts : Group.Depicts base descriptor.job.id first group view)
    (sound : first.Sound) :
    Group.Depicts base descriptor.job.id first (group.updateJob descriptor)
      (view.map (Portrait.described descriptor.job)) :=
  depicts.everywhere (updated_each [] depicts sound) sound rfl

/-- A job is removed. The answer is whether an instance showed it. -/
theorem Group.Depicts.removed (depicts : Group.Depicts base job first group view)
    (sound : first.Sound) :
    Group.Depicts base job first (group.removeJob job).1 (view.map fun _ => none) ∧
      (0 < (group.removeJob job).2 ↔ ∃ home ∈ group.homes, (view.seen home.id).isSome = true) := by
  have current := sound.reach depicts.run
  refine ⟨depicts.everywhere (removed_each [] depicts sound) sound rfl, ?_⟩
  rw [(current.removed job).2]
  simp only [← depicts.seen, current.portrait?_isSome, current.sight?_isSome]

end Restage
