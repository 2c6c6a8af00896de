import Mathlib.Data.List.Nodup
import Restage.Floor.Enrol

/-!
# Looking into a changed floor

Every change of the floor is made of a few writes to its tables. The lemmas here say what each
table holds after a write; the lookups reduce by `simp`, so later proofs never open the writes.

`Floor.modifySlice_congr` and `Floor.modifySlice_modifySlice` fold writes to one slice together.
-/

namespace Restage

/-! ## Lists with keys -/

section Keys

variable {α β : Type} [BEq α] [LawfulBEq α] {list : List (α × β)} {key : α} {value : β}

theorem Table.mem_of_lookup (found : list.lookup key = some value) : (key, value) ∈ list := by
  obtain ⟨front, back, rfl, -⟩ := List.lookup_eq_some_iff.mp found
  exact List.mem_append_right _ List.mem_cons_self

theorem Table.notMem_keys_of_lookup (absent : list.lookup key = none) :
    key ∉ list.map Prod.fst := by
  intro taken
  obtain ⟨⟨key', value⟩, member, rfl⟩ := List.mem_map.mp taken
  have differs := List.lookup_eq_none_iff.mp absent _ member
  simp at differs

/-- Where no key stands twice, each value is looked up under its own. -/
theorem Table.lookup_of_mem (keys : (list.map Prod.fst).Nodup) (member : (key, value) ∈ list) :
    list.lookup key = some value := by
  cases found : list.lookup key with
  | none => exact absurd (List.mem_map_of_mem member) (Table.notMem_keys_of_lookup found)
  | some other =>
      have twin := Table.mem_of_lookup found
      have same := List.inj_on_of_nodup_map keys twin member rfl
      cases same
      rfl

/-- A value that is put at the end under a key of its own. -/
theorem Table.lookup_concat {other : α} [DecidableEq α] (new : list.lookup key = none) :
    (list ++ [(key, value)]).lookup other =
      if other = key then some value else list.lookup other := by
  rw [List.lookup_append, List.lookup_cons]
  by_cases same : other = key
  · rw [if_pos same, same, new, beq_self_eq_true]
    rfl
  · rw [if_neg same, beq_false_of_ne same]
    exact Option.or_none

end Keys

variable {floor : Floor}

/-! ## Slices -/

@[simp] theorem Floor.slices_modifySlice {i j : SliceRef} {change : Slice → Slice} :
    (floor.modifySlice i change).slices[j]? =
      if i = j then (floor.slices[j]?).map change else floor.slices[j]? :=
  Array.getElem?_modify

@[simp] theorem Floor.trackers_modifySlice {i : SliceRef} {change : Slice → Slice} :
    (floor.modifySlice i change).trackers = floor.trackers := rfl

@[simp] theorem Floor.queues_modifySlice {i : SliceRef} {change : Slice → Slice} :
    (floor.modifySlice i change).queues = floor.queues := rfl

@[simp] theorem Floor.minted_modifySlice {i : SliceRef} {change : Slice → Slice} :
    (floor.modifySlice i change).minted = floor.minted := rfl

@[simp] theorem Floor.slices_addSlice {slice : Slice} {j : SliceRef} :
    (floor.addSlice slice).1.slices[j]? =
      if j = floor.slices.size then some slice else floor.slices[j]? :=
  Array.getElem?_push

@[simp] theorem Floor.trackers_addSlice {slice : Slice} :
    (floor.addSlice slice).1.trackers = floor.trackers := rfl

@[simp] theorem Floor.queues_addSlice {slice : Slice} :
    (floor.addSlice slice).1.queues = floor.queues := rfl

@[simp] theorem Floor.minted_addSlice {slice : Slice} :
    (floor.addSlice slice).1.minted = floor.minted := rfl

/-! ## Trackers -/

@[simp] theorem Floor.trackers_modifyTracker {t u : TrackerRef} {change : Tracker → Tracker} :
    (floor.modifyTracker t change).trackers[u]? =
      if t = u then (floor.trackers[u]?).map change else floor.trackers[u]? :=
  Array.getElem?_modify

@[simp] theorem Floor.slices_modifyTracker {t : TrackerRef} {change : Tracker → Tracker} :
    (floor.modifyTracker t change).slices = floor.slices := rfl

@[simp] theorem Floor.queues_modifyTracker {t : TrackerRef} {change : Tracker → Tracker} :
    (floor.modifyTracker t change).queues = floor.queues := rfl

@[simp] theorem Floor.minted_modifyTracker {t : TrackerRef} {change : Tracker → Tracker} :
    (floor.modifyTracker t change).minted = floor.minted := rfl

@[simp] theorem Floor.trackers_addTracker {tracker : Tracker} {u : TrackerRef} :
    (floor.addTracker tracker).1.trackers[u]? =
      if u = floor.trackers.size then some tracker else floor.trackers[u]? :=
  Array.getElem?_push

@[simp] theorem Floor.slices_addTracker {tracker : Tracker} :
    (floor.addTracker tracker).1.slices = floor.slices := rfl

@[simp] theorem Floor.queues_addTracker {tracker : Tracker} :
    (floor.addTracker tracker).1.queues = floor.queues := rfl

@[simp] theorem Floor.minted_addTracker {tracker : Tracker} :
    (floor.addTracker tracker).1.minted = floor.minted := rfl

@[simp] theorem Floor.trackers_addMember {t u : TrackerRef} {slot : Slot} {i : SliceRef} :
    (floor.addMember t slot i).trackers[u]? =
      if t = u then (floor.trackers[u]?).map fun found =>
        { found with members := found.members ++ [(slot, i)] }
      else floor.trackers[u]? :=
  Array.getElem?_modify

@[simp] theorem Floor.slices_addMember {t : TrackerRef} {slot : Slot} {i : SliceRef} :
    (floor.addMember t slot i).slices = floor.slices := rfl

@[simp] theorem Floor.queues_addMember {t : TrackerRef} {slot : Slot} {i : SliceRef} :
    (floor.addMember t slot i).queues = floor.queues := rfl

@[simp] theorem Floor.minted_addMember {t : TrackerRef} {slot : Slot} {i : SliceRef} :
    (floor.addMember t slot i).minted = floor.minted := rfl

/-! ## Queues and serial numbers -/

/-- A queue with one slice more at its end, unless it is closed. -/
def Queue.push (queue : Queue) (i : SliceRef) : Queue :=
  if queue.closed then queue
  else { queue with waiting := queue.waiting ++ [i], counted := queue.counted + 1 }

@[simp] theorem Floor.queues_enqueue {q r : QueueRef} {i : SliceRef} :
    (floor.enqueue q i).queues[r]? =
      if q = r then (floor.queues[r]?).map fun found => found.push i else floor.queues[r]? :=
  Array.getElem?_modify

@[simp] theorem Floor.slices_enqueue {q : QueueRef} {i : SliceRef} :
    (floor.enqueue q i).slices = floor.slices := rfl

@[simp] theorem Floor.trackers_enqueue {q : QueueRef} {i : SliceRef} :
    (floor.enqueue q i).trackers = floor.trackers := rfl

@[simp] theorem Floor.minted_enqueue {q : QueueRef} {i : SliceRef} :
    (floor.enqueue q i).minted = floor.minted := rfl

@[simp] theorem Floor.queues_modifyQueue {q r : QueueRef} {change : Queue → Queue} :
    (floor.modifyQueue q change).queues[r]? =
      if q = r then (floor.queues[r]?).map change else floor.queues[r]? :=
  Array.getElem?_modify

@[simp] theorem Floor.slices_modifyQueue {q : QueueRef} {change : Queue → Queue} :
    (floor.modifyQueue q change).slices = floor.slices := rfl

@[simp] theorem Floor.trackers_modifyQueue {q : QueueRef} {change : Queue → Queue} :
    (floor.modifyQueue q change).trackers = floor.trackers := rfl

@[simp] theorem Floor.minted_modifyQueue {q : QueueRef} {change : Queue → Queue} :
    (floor.modifyQueue q change).minted = floor.minted := rfl

@[simp] theorem Floor.slices_mint : floor.mint.1.slices = floor.slices := rfl

@[simp] theorem Floor.trackers_mint : floor.mint.1.trackers = floor.trackers := rfl

@[simp] theorem Floor.queues_mint : floor.mint.1.queues = floor.queues := rfl

@[simp] theorem Floor.minted_mint : floor.mint.1.minted = floor.minted + 1 := rfl

/-! ## Writes to one slice -/

theorem Floor.slices_modifySlice_of {i j : SliceRef} {s : Slice} {change : Slice → Slice}
    (here : floor.slices[i]? = some s) :
    (floor.modifySlice i change).slices[j]? =
      if i = j then some (change s) else floor.slices[j]? := by
  rw [Floor.slices_modifySlice]
  split
  · next same =>
      subst same
      rw [here, Option.map_some]
  · rfl

/-- Writing what is there already changes nothing. -/
theorem Floor.modifySlice_eq_self {i : SliceRef} {change : Slice → Slice}
    (same : ∀ s, floor.slices[i]? = some s → change s = s) :
    floor.modifySlice i change = floor := by
  have slices : floor.slices.modify i change = floor.slices := by
    apply Array.ext_getElem?
    intro j
    rw [Array.getElem?_modify]
    split
    · next here =>
        subst here
        cases found : floor.slices[i]? with
        | none => rfl
        | some s => rw [Option.map_some, same s found]
    · rfl
  rw [Floor.modifySlice, slices]

/-- A write that only looks at the slice that is there is a write of its result. -/
theorem Floor.modifySlice_congr {i : SliceRef} {change other : Slice → Slice}
    (same : ∀ s, floor.slices[i]? = some s → change s = other s) :
    floor.modifySlice i change = floor.modifySlice i other := by
  have slices : floor.slices.modify i change = floor.slices.modify i other := by
    apply Array.ext_getElem?
    intro j
    rw [Array.getElem?_modify, Array.getElem?_modify]
    split
    · next here =>
        subst here
        cases found : floor.slices[i]? with
        | none => rfl
        | some s => rw [Option.map_some, Option.map_some, same s found]
    · rfl
  rw [Floor.modifySlice, Floor.modifySlice, slices]

theorem Floor.modifySlice_modifySlice {i : SliceRef} (first second : Slice → Slice) :
    (floor.modifySlice i first).modifySlice i second =
      floor.modifySlice i fun s => second (first s) := by
  have slices : (floor.slices.modify i first).modify i second =
      floor.slices.modify i fun s => second (first s) := by
    apply Array.ext_getElem?
    intro j
    rw [Array.getElem?_modify, Array.getElem?_modify, Array.getElem?_modify]
    split
    · rw [Option.map_map]
      rfl
    · rfl
  simp only [Floor.modifySlice, slices]

end Restage
