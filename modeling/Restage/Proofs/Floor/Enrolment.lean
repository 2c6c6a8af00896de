import Restage.Proofs.Floor.Sound

/-!
# What a submission does to the floor

`Floor.Enrolled` lists everything that submitting a slice to a tracker can do, with the answer of
each case. Its cases are apart, and on a sound floor `Floor.Sound.enrolled` says that the submission
takes one of them: only an admission and a reopening change anything, and each puts exactly one
slice at the end of the tracker's queue.
-/

namespace Restage

variable {floor : Floor} {t : TrackerRef} {k : Tracker} {i : SliceRef} {s : Slice}

/-! ## Keepers -/

theorem Floor.keeper?_of_held (owner : s.owner = some t) (found : floor.trackers[t]? = some k)
    (held : k.held = true) : floor.keeper? s = some t := by
  rw [Floor.keeper?, owner, Option.filter_some, found, Option.any_some, if_pos held]

theorem Floor.keeper?_of_let_go (owner : s.owner = some t) (found : floor.trackers[t]? = some k)
    (gone : k.held = false) : floor.keeper? s = none := by
  rw [Floor.keeper?, owner, Option.filter_some, found, Option.any_some, gone, if_neg (by decide)]

/-! ## Reopening -/

/-- The floor once a failed slice has been reopened: it is PENDING without a cause and at the end of
its tracker's queue. -/
def Floor.reopened (floor : Floor) (k : Tracker) (i : SliceRef) (s : Slice) : Floor :=
  (floor.modifySlice i fun _ => { s with state := .pending, failure := none }).enqueue k.queue i

theorem Floor.slices_reopened {j : SliceRef} (here : floor.slices[i]? = some s) :
    (floor.reopened k i s).slices[j]? =
      if i = j then some { s with state := .pending, failure := none } else floor.slices[j]? := by
  rw [Floor.reopened, Floor.slices_enqueue]
  exact Floor.slices_modifySlice_of here

theorem Floor.retry_eq (here : floor.slices[i]? = some s) (owner : s.owner = some t)
    (found : floor.trackers[t]? = some k) (held : k.held = true) {detail : String}
    (failed : s.state = .failed) (cause : s.failure = some (.retriable detail)) :
    floor.retry i = (floor.reopened k i s, true) := by
  have moved : s.reopen? = some { s with state := .pending, failure := none } := by
    rw [Slice.reopen?, cause]
    exact if_pos failed
  rw [Floor.retry, Floor.queueBy, here]
  simp only [Floor.keeper?_of_held owner found held, moved]
  rw [Floor.queueBegun]
  simp only [Floor.trackers_modifySlice, found]
  rfl

/-- On a sound floor a failed slice of a tracker that has not failed can be tried once more. -/
theorem Floor.Sound.cause_of_failed (sound : floor.Sound) (here : floor.slices[i]? = some s)
    (owner : s.owner = some t) (found : floor.trackers[t]? = some k) (fine : k.fatal = none)
    (failed : s.state = .failed) : ∃ detail, s.failure = some (.retriable detail) := by
  have some_cause := (sound.slice here).cause.mpr failed
  obtain ⟨-, -, governs⟩ := sound.owned here owner found
  cases cause : s.failure with
  | none =>
      rw [cause] at some_cause
      cases some_cause
  | some fault =>
      cases fault with
      | retriable detail => exact ⟨detail, rfl⟩
      | fatal f =>
          have recorded := governs.fatal f cause
          rw [fine] at recorded
          cases recorded

theorem Floor.Reworks.reopened (found : floor.trackers[t]? = some k)
    (here : floor.slices[i]? = some s) (owner : s.owner = some t) :
    Floor.Reworks t k k floor (floor.reopened k i s) :=
  .of_slice { s with state := .pending, failure := none } found here owner rfl rfl
    (fun _ => Floor.slices_reopened here) rfl (Nat.le_refl _)

theorem Floor.Sound.reopened (sound : floor.Sound) (found : floor.trackers[t]? = some k)
    (held : k.held = true) (fine : k.fatal = none) (here : floor.slices[i]? = some s)
    (owner : s.owner = some t) (failed : s.state = .failed) : (floor.reopened k i s).Sound := by
  have token := (sound.slice here).token_of_ne (by rw [failed]; exact SliceState.noConfusion)
  exact sound.of_slice { s with state := .pending, failure := none } found here owner rfl rfl
    (fun _ => Floor.slices_reopened here) rfl (Nat.le_refl _) ⟨by simp, by simp [token]⟩
    (.of_pending fine held rfl rfl)

/-! ## Submissions -/

/-- What submitting slice `i`, which is `s`, to tracker `t`, which is `k`, may do, and what it
answers. -/
inductive Floor.Enrolled (floor : Floor) (t : TrackerRef) (k : Tracker) (i : SliceRef)
    (s : Slice) : Floor → Except JobFault Standing → Prop
  /-- The job has failed. -/
  | barred {f : FatalFailure} (fatal : k.fatal = some f) :
    Floor.Enrolled floor t k i s floor (.error (.fatal f))
  | finished {known : SliceRef} {s' : Slice} (fine : k.fatal = none)
    (member : k.members.lookup s.slot = some known) (there : floor.slices[known]? = some s')
    (state : s'.state = .completed) : Floor.Enrolled floor t k i s floor (.ok .completed)
  | underway {known : SliceRef} {s' : Slice} (fine : k.fatal = none)
    (member : k.members.lookup s.slot = some known) (there : floor.slices[known]? = some s')
    (state : s'.state = .pending) : Floor.Enrolled floor t k i s floor (.ok .pending)
  | again {known : SliceRef} {s' : Slice} (fine : k.fatal = none)
    (member : k.members.lookup s.slot = some known) (there : floor.slices[known]? = some s')
    (state : s'.state = .failed) :
    Floor.Enrolled floor t k i s (floor.reopened k known s') (.ok .pending)
  /-- The slice belongs to another tracker, held or not. -/
  | elsewhere {u : TrackerRef} (fine : k.fatal = none) (new : k.members.lookup s.slot = none)
    (owner : s.owner = some u) (other : u ≠ t) :
    Floor.Enrolled floor t k i s floor (.error (boundElsewhere s.key))
  | admitted (fine : k.fatal = none) (new : k.members.lookup s.slot = none)
    (free : s.owner = none) :
    Floor.Enrolled floor t k i s (floor.admitted t k i s) (.ok .created)

theorem Floor.enrolNew_of_free (found : floor.trackers[t]? = some k) (held : k.held = true)
    (here : floor.slices[i]? = some s) (free : s.owner = none) (created : s.state = .created) :
    floor.enrolNew t i s = (floor.admitted t k i s, .ok .created) := by
  have bound : s.bind t = ({ s with owner := some t }, true) := by rw [Slice.bind, free]
  have registered : floor.register i t =
      (floor.modifySlice i fun _ => { s with owner := some t }, true) := by
    simp only [Floor.register, here, bound]
  rw [Floor.enrolNew, registered]
  simp only
  rw [Floor.submit, Floor.queueBy, Floor.slices_addMember, Floor.slices_modifySlice, if_pos rfl,
    here, Option.map_some]
  simp only
  have keeper : ((floor.modifySlice i fun _ => { s with owner := some t }).addMember t s.slot
      i).keeper? { s with owner := some t } = some t := by
    refine Floor.keeper?_of_held rfl (k := { k with members := k.members ++ [(s.slot, i)] }) ?_
      held
    rw [Floor.trackers_addMember, if_pos rfl, Floor.trackers_modifySlice, found, Option.map_some]
  have begun : Slice.begin? { s with owner := some t } =
      some { s with owner := some t, state := .pending } := if_pos created
  rw [keeper, begun]
  simp only [Floor.queueBegun, Floor.trackers_modifySlice, Floor.trackers_addMember, if_true,
    found, Option.map_some]
  have twice := @Floor.modifySlice_modifySlice floor i (fun _ => { s with owner := some t })
    fun _ => { s with owner := some t, state := .pending }
  rw [Floor.admitted, ← twice]
  rfl

theorem Floor.enrolNew_of_bound {u : TrackerRef} (here : floor.slices[i]? = some s)
    (owner : s.owner = some u) (other : u ≠ t) :
    floor.enrolNew t i s = (floor, .error (boundElsewhere s.key)) := by
  have bound : s.bind t = (s, false) := by
    rw [Slice.bind, owner]
    simp only [other, decide_false]
  have same : (floor.modifySlice i fun _ => s) = floor := by
    apply Floor.modifySlice_eq_self
    intro s' here'
    rw [here] at here'
    exact Option.some.inj here'
  have registered : floor.register i t = (floor, false) := by
    simp only [Floor.register, here, bound, same]
  rw [Floor.enrolNew, registered]

theorem Floor.Sound.enrolled (sound : floor.Sound) (found : floor.trackers[t]? = some k)
    (held : k.held = true) (here : floor.slices[i]? = some s) :
    Floor.Enrolled floor t k i s (floor.enrol t i).1 (floor.enrol t i).2 := by
  rw [Floor.enrol, found, here]
  simp only
  cases fatal : k.fatal with
  | some f => exact .barred fatal
  | none =>
      simp only
      cases member : k.members.lookup s.slot with
      | some known =>
          simp only
          obtain ⟨s', there, owner, -⟩ := sound.member found (Table.mem_of_lookup member)
          obtain ⟨-, -, governs⟩ := sound.owned there owner found
          rw [Floor.revisit, Floor.stateOf?, there, Option.map_some]
          -- a tracker that is held and has not failed leaves three states to its slices
          cases state : s'.state with
          | created => exact absurd state governs.begun
          | cancelled => exact absurd state (governs.alive fatal held)
          | completed => exact .finished fatal member there state
          | pending => exact .underway fatal member there state
          | failed =>
              obtain ⟨detail, cause⟩ := sound.cause_of_failed there owner found fatal state
              simp only [Floor.retry_eq there owner found held state cause]
              exact .again fatal member there state
      | none =>
          simp only
          cases owner : s.owner with
          | none =>
              rw [Floor.enrolNew_of_free found held here owner (sound.unbound here owner)]
              exact .admitted fatal member owner
          | some u =>
              have other : u ≠ t := by
                rintro rfl
                obtain ⟨known, -⟩ := sound.owned here owner found
                rw [Table.lookup_of_mem (sound.slots found) known] at member
                cases member
              rw [Floor.enrolNew_of_bound here owner other]
              exact .elsewhere fatal member owner other

end Restage
