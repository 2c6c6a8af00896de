import Restage.Proofs.Manager.Ages

/-!
# Changes that concern one job

`Floor.Concerns` is the frame of a job: all that differs between two floors are trackers and slices
of that job, and to a queue at most slices of that job have come, at its end. Unlike
`Floor.Reworks`, which is about one tracker, and `Floor.Within`, which is about one queue, it lets
the job get new trackers, on several queues.

A change of one tracker concerns its job (`Floor.Reworks.concerns`), and so does what becomes of a
slice that is submitted (`Floor.Enrolled.concerns`) or with the processor
(`Floor.Landed.concerns`).
-/

namespace Restage

/-! ## Queues -/

/-- A queue with some slices more at its end, unless it is closed. -/
def Queue.pushAll (queue : Queue) (new : List SliceRef) : Queue :=
  if queue.closed then queue
  else { queue with
    waiting := queue.waiting ++ new
    counted := queue.counted + new.length }

@[simp] theorem Queue.pushAll_nil (queue : Queue) : queue.pushAll [] = queue := by
  rw [Queue.pushAll, List.append_nil, List.length_nil, Nat.add_zero]
  exact ite_self queue

theorem Queue.pushAll_pushAll (queue : Queue) (new more : List SliceRef) :
    (queue.pushAll new).pushAll more = queue.pushAll (new ++ more) := by
  cases shut : queue.closed with
  | true => simp only [Queue.pushAll, shut, if_true]
  | false => simp [Queue.pushAll, shut, Nat.add_assoc]

/-! ## The frame of a job -/

/-- All that differs between two floors concerns one job. -/
structure Floor.Concerns (job : TimeId) (floor next : Floor) : Prop where
  ages : Floor.Ages floor next
  trackers : ∀ (t : TrackerRef) (k : Tracker), k.descriptor.job.id ≠ job →
    (next.trackers[t]? = some k ↔ floor.trackers[t]? = some k)
  slices : ∀ (i : SliceRef) (s : Slice), s.piece.job ≠ job →
    (next.slices[i]? = some s ↔ floor.slices[i]? = some s)
  queues : ∀ q : QueueRef, ∃ new : List SliceRef,
    (∀ i ∈ new, ∃ s, next.slices[i]? = some s ∧ s.piece.job = job) ∧
      next.queues[q]? = (floor.queues[q]?).map fun queue => queue.pushAll new

variable {floor next last : Floor} {t : TrackerRef} {k k' : Tracker} {i : SliceRef} {s : Slice}
  {job : TimeId}

/-- A change that leaves the queues alone. -/
theorem Floor.Concerns.of_queues (ages : Floor.Ages floor next)
    (trackers : ∀ (t : TrackerRef) (k : Tracker), k.descriptor.job.id ≠ job →
      (next.trackers[t]? = some k ↔ floor.trackers[t]? = some k))
    (slices : ∀ (i : SliceRef) (s : Slice), s.piece.job ≠ job →
      (next.slices[i]? = some s ↔ floor.slices[i]? = some s))
    (queues : next.queues = floor.queues) : Floor.Concerns job floor next where
  ages := ages
  trackers := trackers
  slices := slices
  queues := fun q => by
    refine ⟨[], fun i inside => (by cases inside), ?_⟩
    simp only [queues, Queue.pushAll_nil, Option.map_id']

theorem Floor.Concerns.of_tables (trackers : next.trackers = floor.trackers)
    (slices : next.slices = floor.slices) (queues : next.queues = floor.queues) :
    Floor.Concerns job floor next :=
  .of_queues (.of_tables slices trackers) (fun t k _ => by rw [trackers])
    (fun i s _ => by rw [slices]) queues

theorem Floor.Concerns.refl : Floor.Concerns job floor floor := .of_tables rfl rfl rfl

theorem Floor.Concerns.trans (first : Floor.Concerns job floor next)
    (second : Floor.Concerns job next last) : Floor.Concerns job floor last where
  ages := first.ages.trans second.ages
  trackers := fun t k other => (second.trackers t k other).trans (first.trackers t k other)
  slices := fun i s other => (second.slices i s other).trans (first.slices i s other)
  queues := fun q => by
    obtain ⟨new, mine, queue⟩ := first.queues q
    obtain ⟨more, mine', queue'⟩ := second.queues q
    refine ⟨new ++ more, fun i inside => ?_, ?_⟩
    · rcases List.mem_append.mp inside with inside | inside
      · obtain ⟨s, here, of⟩ := mine i inside
        obtain ⟨s', there, older⟩ := second.ages.slice i s here
        exact ⟨s', there, (congrArg Piece.job older.piece).trans of⟩
      · exact mine' i inside
    · rw [queue', queue, Option.map_map]
      congr 1
      funext found
      exact found.pushAll_pushAll new more

/-- A slice that keeps its job is put at the end of one queue. -/
theorem Floor.Concerns.of_push {q : QueueRef} (ages : Floor.Ages floor next)
    (trackers : ∀ (t : TrackerRef) (k : Tracker), k.descriptor.job.id ≠ job →
      (next.trackers[t]? = some k ↔ floor.trackers[t]? = some k))
    (slices : ∀ (i : SliceRef) (s : Slice), s.piece.job ≠ job →
      (next.slices[i]? = some s ↔ floor.slices[i]? = some s))
    (here : floor.slices[i]? = some s) (of : s.piece.job = job)
    (queues : ∀ r : QueueRef, next.queues[r]? =
      if q = r then (floor.queues[r]?).map fun found => found.push i else floor.queues[r]?) :
    Floor.Concerns job floor next where
  ages := ages
  trackers := trackers
  slices := slices
  queues := fun r => by
    by_cases same : q = r
    · refine ⟨[i], fun j inside => ?_, ?_⟩
      · rw [List.mem_singleton.mp inside]
        obtain ⟨s', there, older⟩ := ages.slice i s here
        exact ⟨s', there, (congrArg Piece.job older.piece).trans of⟩
      · rw [queues, if_pos same]
        rfl
    · refine ⟨[], fun j inside => (by cases inside), ?_⟩
      simp only [queues, if_neg same, Queue.pushAll_nil, Option.map_id']

/-! ## New slices and new trackers -/

theorem Floor.Concerns.addSlice {piece : Piece} (of : piece.job = job) :
    Floor.Concerns job floor (floor.addSlice (.ofPiece piece)).1 := by
  refine .of_queues .addSlice (fun t k _ => Iff.rfl) (fun i s other => ?_) rfl
  rw [Floor.slices_addSlice]
  split
  · next new =>
      constructor
      · intro built
        cases built
        exact absurd of other
      · intro here
        exact absurd new (Floor.slice_ne_size here)
  · exact Iff.rfl

theorem Floor.Concerns.addTracker {descriptor : Descriptor} {queue : QueueRef}
    (of : descriptor.job.id = job) :
    Floor.Concerns job floor (floor.addTracker (.fresh descriptor queue)).1 := by
  refine .of_queues .addTracker (fun t k other => ?_) (fun i s _ => Iff.rfl) rfl
  rw [Floor.trackers_addTracker]
  split
  · next new =>
      constructor
      · intro fresh
        cases fresh
        exact absurd of other
      · intro found
        exact absurd new (Floor.tracker_ne_size found)
  · exact Iff.rfl

theorem Floor.Concerns.admitted (found : floor.trackers[t]? = some k)
    (here : floor.slices[i]? = some s) (free : s.owner = none)
    (label : k.descriptor.job.id = job) (of : s.piece.job = job) :
    Floor.Concerns job floor (floor.admitted t k i s) := by
  have queues : ∀ r : QueueRef, (floor.admitted t k i s).queues[r]? =
      if k.queue = r then (floor.queues[r]?).map fun found => found.push i
      else floor.queues[r]? := by
    intro r
    rw [Floor.admitted, Floor.queues_enqueue]
    rfl
  refine .of_push (.admitted found here free) (fun u k₁ other => ?_) (fun j s₁ other => ?_) here of
    queues
  · rw [Floor.trackers_admitted found]
    split
    · next same =>
        subst same
        rw [found]
        constructor
        · intro after
          cases after
          exact absurd label other
        · intro before
          cases before
          exact absurd label other
    · exact Iff.rfl
  · rw [Floor.slices_admitted here]
    split
    · next same =>
        subst same
        rw [here]
        constructor
        · intro after
          cases after
          exact absurd of other
        · intro before
          cases before
          exact absurd of other
    · exact Iff.rfl

/-! ## Changes of one tracker -/

theorem Floor.Reworks.trackers_concern (rework : Floor.Reworks t k k' floor next)
    (label : k.descriptor.job.id = job) (u : TrackerRef) (k₁ : Tracker)
    (other : k₁.descriptor.job.id ≠ job) :
    next.trackers[u]? = some k₁ ↔ floor.trackers[u]? = some k₁ := by
  by_cases same : u = t
  · subst same
    rw [rework.before, rework.after]
    constructor
    · intro after
      cases after
      exact absurd (rework.job.trans label) other
    · intro before
      cases before
      exact absurd label other
  · rw [rework.others u same]

theorem Floor.Reworks.slices_concern (rework : Floor.Reworks t k k' floor next)
    (sound : floor.Sound) (label : k.descriptor.job.id = job) (i : SliceRef) (s : Slice)
    (other : s.piece.job ≠ job) : next.slices[i]? = some s ↔ floor.slices[i]? = some s := by
  constructor
  · intro there
    rcases rework.slice_cases there with ⟨here, -⟩ | ⟨s₁, here, owner, -, piece⟩
    · exact here
    · obtain ⟨-, of, -⟩ := sound.owned here owner rework.before
      rw [piece, of] at other
      exact absurd label other
  · intro here
    refine rework.outside i s here fun owner => ?_
    obtain ⟨-, of, -⟩ := sound.owned here owner rework.before
    exact other (of.trans label)

/-- A change of one tracker that queues nothing concerns the tracker's job. -/
theorem Floor.Reworks.concerns (rework : Floor.Reworks t k k' floor next) (sound : floor.Sound)
    (ages : Floor.Ages floor next) (label : k.descriptor.job.id = job)
    (queues : next.queues = floor.queues) : Floor.Concerns job floor next :=
  .of_queues ages (rework.trackers_concern label) (rework.slices_concern sound label) queues

theorem Floor.Concerns.reopened (sound : floor.Sound) (found : floor.trackers[t]? = some k)
    (here : floor.slices[i]? = some s) (owner : s.owner = some t)
    (label : k.descriptor.job.id = job) : Floor.Concerns job floor (floor.reopened k i s) := by
  have rework := Floor.Reworks.reopened found here owner
  obtain ⟨-, of, -⟩ := sound.owned here owner found
  refine .of_push (q := k.queue) (rework.ages id fun _ fatal => fatal)
    (rework.trackers_concern label) (rework.slices_concern sound label) here (of.trans label)
    fun r => ?_
  rw [Floor.reopened, Floor.queues_enqueue, Floor.queues_modifySlice]

/-- What a tracker makes of a slice concerns its job. -/
theorem Floor.Enrolled.concerns {answer : Except JobFault Standing}
    (enrolled : Floor.Enrolled floor t k i s next answer) (sound : floor.Sound)
    (found : floor.trackers[t]? = some k) (here : floor.slices[i]? = some s)
    (label : k.descriptor.job.id = job) (of : s.piece.job = job) :
    Floor.Concerns job floor next := by
  cases enrolled with
  | barred | finished | underway | elsewhere => exact .refl
  | again fine member there state =>
      obtain ⟨owner, -⟩ := sound.owner_of_member found (Table.mem_of_lookup member) there
      exact .reopened sound found there owner label
  | admitted fine new free => exact .admitted found here free label of

/-- What an outcome does concerns the job of its slice, be it a failure that fells the whole job. -/
theorem Floor.Landed.concerns {replica : String} {outcome : Outcome}
    (landed : Floor.Landed floor t k i s replica outcome next) (sound : floor.Sound)
    (here : floor.slices[i]? = some s) (owner : s.owner = some t)
    (found : floor.trackers[t]? = some k) (label : k.descriptor.job.id = job) :
    Floor.Concerns job floor next := by
  obtain ⟨fatal, rework⟩ := landed.reworks sound here owner found
  exact rework.concerns sound (landed.ages sound here owner found) label landed.queues

end Restage
