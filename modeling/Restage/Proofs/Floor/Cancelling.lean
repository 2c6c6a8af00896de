import Restage.Proofs.Floor.Tables

/-!
# Cancelling slices

Cancelling goes through a list of slices one by one. What is left in the end does not depend on
the order: each slice of the list is cancelled where it stands, as `Slice.cancelled` says, and
nothing else on the floor is touched.
-/

namespace Restage

variable {floor : Floor}

/-- A slice after it was told to cancel, whether or not that moved it. -/
def Slice.cancelled (s : Slice) : Slice := s.cancel?.getD s

theorem Slice.cancelled_of_terminal {s : Slice} (ended : s.state.IsTerminal) : s.cancelled = s := by
  simp only [Slice.cancelled, Slice.cancel?, ended, if_true, Option.getD_none]

theorem Slice.cancelled_of_not_terminal {s : Slice} (running : ¬ s.state.IsTerminal) :
    s.cancelled = { s with state := .cancelled, tokenCancelled := true } := by
  simp only [Slice.cancelled, Slice.cancel?, running, if_false, Option.getD_some]

/-- The state of a slice after it was told to cancel. -/
def SliceState.onCancel (state : SliceState) : SliceState :=
  if state.IsTerminal then state else .cancelled

theorem SliceState.terminal_onCancel (state : SliceState) : state.onCancel.IsTerminal := by
  cases state <;> decide

@[simp] theorem Slice.state_cancelled (s : Slice) : s.cancelled.state = s.state.onCancel := by
  by_cases ended : s.state.IsTerminal
  · rw [s.cancelled_of_terminal ended, SliceState.onCancel, if_pos ended]
  · rw [s.cancelled_of_not_terminal ended, SliceState.onCancel, if_neg ended]

@[simp] theorem Slice.owner_cancelled (s : Slice) : s.cancelled.owner = s.owner := by
  by_cases ended : s.state.IsTerminal
  · rw [s.cancelled_of_terminal ended]
  · rw [s.cancelled_of_not_terminal ended]

@[simp] theorem Slice.piece_cancelled (s : Slice) : s.cancelled.piece = s.piece := by
  by_cases ended : s.state.IsTerminal
  · rw [s.cancelled_of_terminal ended]
  · rw [s.cancelled_of_not_terminal ended]

@[simp] theorem Slice.failure_cancelled (s : Slice) : s.cancelled.failure = s.failure := by
  by_cases ended : s.state.IsTerminal
  · rw [s.cancelled_of_terminal ended]
  · rw [s.cancelled_of_not_terminal ended]

theorem Slice.cancelled_cancelled (s : Slice) : s.cancelled.cancelled = s.cancelled :=
  Slice.cancelled_of_terminal (by rw [Slice.state_cancelled]; exact s.state.terminal_onCancel)

theorem Floor.cancel_fst {i : SliceRef} :
    (floor.cancel i).1 = floor.modifySlice i Slice.cancelled := by
  rw [Floor.cancel, Floor.moveBy]
  cases moved : (floor.slices[i]?).bind Slice.cancel? with
  | none =>
      symm
      apply Floor.modifySlice_eq_self
      intro s found
      rw [found, Option.bind_some] at moved
      rw [Slice.cancelled, moved, Option.getD_none]
  | some s' =>
      apply Floor.modifySlice_congr
      intro s found
      rw [found, Option.bind_some] at moved
      rw [Slice.cancelled, moved, Option.getD_some]

theorem Floor.cancelEach_cons {i : SliceRef} {rest : List SliceRef} :
    (floor.cancelEach (i :: rest)).1 =
      ((floor.modifySlice i Slice.cancelled).cancelEach rest).1 := by
  rw [← Floor.cancel_fst]
  rfl

/-- Of a list of slices each is cancelled where it stands, and no other. -/
theorem Floor.slices_cancelEach {list : List SliceRef} {j : SliceRef} :
    (floor.cancelEach list).1.slices[j]? =
      if j ∈ list then (floor.slices[j]?).map Slice.cancelled else floor.slices[j]? := by
  induction list generalizing floor with
  | nil => rfl
  | cons i rest ih =>
      rw [Floor.cancelEach_cons, ih, Floor.slices_modifySlice]
      by_cases here : i = j
      · subst here
        rw [if_pos rfl, if_pos List.mem_cons_self, Option.map_map]
        have twice : Slice.cancelled ∘ Slice.cancelled = Slice.cancelled :=
          funext Slice.cancelled_cancelled
        rw [twice, ite_self]
      · rw [if_neg here]
        have iff : j ∈ i :: rest ↔ j ∈ rest := by
          rw [List.mem_cons]
          exact ⟨fun member => member.resolve_left (Ne.symm here), Or.inr⟩
        simp only [iff]

theorem Floor.cancelEach_tables (list : List SliceRef) :
    (floor.cancelEach list).1.trackers = floor.trackers ∧
      (floor.cancelEach list).1.queues = floor.queues ∧
      (floor.cancelEach list).1.minted = floor.minted := by
  induction list generalizing floor with
  | nil => exact ⟨rfl, rfl, rfl⟩
  | cons i rest ih =>
      rw [Floor.cancelEach_cons]
      obtain ⟨trackers, queues, minted⟩ := @ih (floor.modifySlice i Slice.cancelled)
      exact ⟨trackers, queues, minted⟩

@[simp] theorem Floor.slices_cancelAll {t : TrackerRef} {j : SliceRef} :
    (floor.cancelAll t).1.slices[j]? =
      if j ∈ floor.membersOf t then (floor.slices[j]?).map Slice.cancelled
      else floor.slices[j]? :=
  Floor.slices_cancelEach

@[simp] theorem Floor.trackers_cancelAll {t : TrackerRef} :
    (floor.cancelAll t).1.trackers = floor.trackers := (Floor.cancelEach_tables _).1

@[simp] theorem Floor.queues_cancelAll {t : TrackerRef} :
    (floor.cancelAll t).1.queues = floor.queues := (Floor.cancelEach_tables _).2.1

@[simp] theorem Floor.minted_cancelAll {t : TrackerRef} :
    (floor.cancelAll t).1.minted = floor.minted := (Floor.cancelEach_tables _).2.2

end Restage
