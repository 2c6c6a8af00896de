import Restage.Proofs.Floor.Enrolment

/-!
# What an outcome does to the floor

`Floor.Landed` lists what applying an outcome does to a slice that was with the processor. While
the slice is still PENDING the outcome decides: it completes, it fails, or it dooms its job, which
records the failure and cancels all other slices of the tracker that have not ended. A slice that
was cancelled in the meantime only has the status of its replica noted.

`Floor.Sound.landed` says that one of these cases is taken, `Floor.Landed.reworks` that it concerns
the slice's own tracker only, and `Floor.Sound.land` that the floor stays sound.
-/

namespace Restage

variable {floor next : Floor} {t : TrackerRef} {k : Tracker} {i : SliceRef} {s : Slice}
  {replica : String} {outcome : Outcome}

/-- A pending slice that ends, with what is noted for its replica. -/
def Slice.ended (s : Slice) (replica : String) (status : ReplicaStatus) (state : SliceState)
    (cause : Option JobFault) : Slice :=
  { s.setReplicaStatus replica status with state := state, failure := cause }

/-- The floor once a fatal failure of a pending slice has been recorded. -/
def Floor.doomed (floor : Floor) (t : TrackerRef) (i : SliceRef) (s : Slice) (replica : String)
    (f : FatalFailure) : Floor :=
  ((((floor.modifySlice i fun _ => s.ended replica .failed .failed (some (.fatal f))).mint.1
    ).modifyTracker t fun found => { found with fatal := some f }).cancelAll t).1

theorem Floor.trackers_doomed {f : FatalFailure} {u : TrackerRef}
    (found : floor.trackers[t]? = some k) :
    (floor.doomed t i s replica f).trackers[u]? =
      if t = u then some { k with fatal := some f } else floor.trackers[u]? := by
  rw [Floor.doomed, Floor.trackers_cancelAll, Floor.trackers_modifyTracker]
  split
  · next same =>
      subst same
      rw [Floor.trackers_mint, Floor.trackers_modifySlice, found, Option.map_some]
  · rfl

theorem Floor.slices_doomed {f : FatalFailure} {j : SliceRef}
    (found : floor.trackers[t]? = some k) (here : floor.slices[i]? = some s) :
    (floor.doomed t i s replica f).slices[j]? =
      if i = j then some (s.ended replica .failed .failed (some (.fatal f)))
      else if j ∈ floor.membersOf t then (floor.slices[j]?).map Slice.cancelled
      else floor.slices[j]? := by
  have members : (((floor.modifySlice i fun _ =>
      s.ended replica .failed .failed (some (.fatal f))).mint.1).modifyTracker t fun found =>
      { found with fatal := some f }).membersOf t = floor.membersOf t := by
    rw [Floor.membersOf, Floor.membersOf, Floor.trackers_modifyTracker, if_pos rfl,
      Floor.trackers_mint, Floor.trackers_modifySlice, found, Option.map_some]
  rw [Floor.doomed, Floor.slices_cancelAll, members, Floor.slices_modifyTracker,
    Floor.slices_mint, Floor.slices_modifySlice]
  by_cases same : i = j
  · subst same
    have ended : (s.ended replica .failed .failed (some (.fatal f))).cancelled =
        s.ended replica .failed .failed (some (.fatal f)) :=
      Slice.cancelled_of_terminal (Or.inr (Or.inl rfl))
    rw [if_pos rfl, if_pos rfl, here, Option.map_some, Option.map_some, ended, ite_self]
  · rw [if_neg same, if_neg same]

@[simp] theorem Floor.queues_doomed {f : FatalFailure} :
    (floor.doomed t i s replica f).queues = floor.queues := by
  rw [Floor.doomed, Floor.queues_cancelAll, Floor.queues_modifyTracker, Floor.queues_mint,
    Floor.queues_modifySlice]

@[simp] theorem Floor.minted_doomed {f : FatalFailure} :
    (floor.doomed t i s replica f).minted = floor.minted + 1 := by
  rw [Floor.doomed, Floor.minted_cancelAll, Floor.minted_modifyTracker, Floor.minted_mint,
    Floor.minted_modifySlice]

/-- What an outcome does to slice `i`, which is `s` and belongs to tracker `t`, which is `k`. -/
inductive Floor.Landed (floor : Floor) (t : TrackerRef) (k : Tracker) (i : SliceRef) (s : Slice)
    (replica : String) : Outcome → Floor → Prop
  | completed (pending : s.state = .pending) :
    Floor.Landed floor t k i s replica .success
      (floor.modifySlice i fun _ => s.ended replica .succeeded .completed s.failure)
  | failed {detail : String} (pending : s.state = .pending) :
    Floor.Landed floor t k i s replica (.retriable detail)
      (floor.modifySlice i fun _ => s.ended replica .failed .failed (some (.retriable detail)))
  | doomed {detail : String} (pending : s.state = .pending) :
    Floor.Landed floor t k i s replica (.fatal detail)
      (floor.doomed t i s replica ⟨floor.minted, detail⟩)
  | late {outcome : Outcome} {next : Floor} (statuses : List (String × ReplicaStatus))
    (cancelled : s.state = .cancelled)
    (noted : statuses = s.replicaStatus ∨
      statuses = Slice.putStatus replica .failed s.replicaStatus)
    (slices : ∀ j : SliceRef, next.slices[j]? =
      if i = j then some { s with replicaStatus := statuses } else floor.slices[j]?)
    (trackers : next.trackers = floor.trackers) (queues : next.queues = floor.queues)
    (minted : floor.minted ≤ next.minted) :
    Floor.Landed floor t k i s replica outcome next

/-! ## Single moves -/

theorem Floor.moveBy_some {s' : Slice} {change : Slice → Option Slice}
    (here : floor.slices[i]? = some s) (moved : change s = some s') :
    floor.moveBy i change = (floor.modifySlice i fun _ => s', true) := by
  rw [Floor.moveBy, here, Option.bind_some, moved]

theorem Floor.moveBy_none {change : Slice → Option Slice} (here : floor.slices[i]? = some s)
    (stays : change s = none) : floor.moveBy i change = (floor, false) := by
  rw [Floor.moveBy, here, Option.bind_some, stays]

theorem Floor.slices_noteReplica {status : ReplicaStatus} {j : SliceRef}
    (here : floor.slices[i]? = some s) :
    (floor.noteReplica i replica status).slices[j]? =
      if i = j then some (s.setReplicaStatus replica status) else floor.slices[j]? := by
  rw [Floor.noteReplica]
  exact Floor.slices_modifySlice_of here

/-- A tracker that has not failed and hears of a fatal failure records it. -/
theorem Floor.recordFatal_first {f : FatalFailure} (found : floor.trackers[t]? = some k)
    (fine : k.fatal = none) :
    floor.recordFatal t f =
      ((floor.modifyTracker t fun found => { found with fatal := some f }).cancelAll t).1 := by
  rw [Floor.recordFatal, found]
  simp only [fine]

/-- A tracker that has failed ignores every other fatal failure. -/
theorem Floor.recordFatal_again {f kept : FatalFailure} (found : floor.trackers[t]? = some k)
    (fatal : k.fatal = some kept) (other : kept.serial ≠ f.serial) :
    floor.recordFatal t f = floor := by
  rw [Floor.recordFatal, found]
  simp only [fatal]
  exact if_neg other

theorem Floor.report_fatal {f : FatalFailure} (here : floor.slices[i]? = some s)
    (keeper : floor.keeper? s = some t) :
    floor.report i (.fatal f) = floor.recordFatal t f := by
  simp only [Floor.report, here, Option.bind_some, keeper]

theorem Floor.report_unheard {f : FatalFailure} (here : floor.slices[i]? = some s)
    (keeper : floor.keeper? s = none) : floor.report i (.fatal f) = floor := by
  simp only [Floor.report, here, Option.bind_some, keeper]

/-- A report is ignored when the tracker was let go or keeps another failure. -/
theorem Floor.report_ignored {f : FatalFailure} (here : floor.slices[i]? = some s)
    (owner : s.owner = some t) (found : floor.trackers[t]? = some k)
    (quiet : k.held = true → ∃ kept, k.fatal = some kept ∧ kept.serial ≠ f.serial) :
    floor.report i (.fatal f) = floor := by
  cases held : k.held with
  | true =>
      obtain ⟨kept, fatal, other⟩ := quiet held
      rw [Floor.report_fatal here (Floor.keeper?_of_held owner found held)]
      exact Floor.recordFatal_again found fatal other
  | false => exact Floor.report_unheard here (Floor.keeper?_of_let_go owner found held)

theorem Floor.report_retriable {detail : String} :
    floor.report i (.retriable detail) = floor := rfl

/-! ## Outcomes of pending slices -/

theorem Floor.applyOutcome_success (here : floor.slices[i]? = some s)
    (pending : s.state = .pending) :
    floor.applyOutcome i replica .success =
      floor.modifySlice i fun _ => s.ended replica .succeeded .completed s.failure := by
  have moved : s.complete? = some { s with state := .completed } := by
    rw [Slice.complete?, pending]
    rfl
  rw [Floor.applyOutcome, Floor.complete, Floor.moveBy_some here moved]
  simp only
  rw [Floor.noteReplica, Floor.modifySlice_modifySlice]
  rfl

theorem Floor.fail?_of_pending {cause : JobFault} (pending : s.state = .pending) :
    (s.setReplicaStatus replica .failed).fail? cause =
      some (s.ended replica .failed .failed (some cause)) := by
  have running : ¬ (s.setReplicaStatus replica .failed).state.IsTerminal := by
    rw [Slice.setReplicaStatus, pending]
    decide
  rw [Slice.fail?, if_neg running, Slice.ended]

theorem Floor.applyOutcome_retriable {detail : String} (here : floor.slices[i]? = some s)
    (pending : s.state = .pending) :
    floor.applyOutcome i replica (.retriable detail) =
      floor.modifySlice i fun _ =>
        s.ended replica .failed .failed (some (.retriable detail)) := by
  have noted : (floor.noteReplica i replica .failed).slices[i]? =
      some (s.setReplicaStatus replica .failed) := by
    rw [Floor.slices_noteReplica here, if_pos rfl]
  rw [Floor.applyOutcome, Floor.fail, Floor.moveBy_some noted (Floor.fail?_of_pending pending)]
  simp only [Floor.report_retriable]
  rw [Floor.noteReplica, Floor.modifySlice_modifySlice]

theorem Floor.applyOutcome_fatal {detail : String} (here : floor.slices[i]? = some s)
    (pending : s.state = .pending) (owner : s.owner = some t)
    (found : floor.trackers[t]? = some k) (fine : k.fatal = none) (held : k.held = true) :
    floor.applyOutcome i replica (.fatal detail) =
      floor.doomed t i s replica ⟨floor.minted, detail⟩ := by
  have noted : (floor.noteReplica i replica .failed).mint.1.slices[i]? =
      some (s.setReplicaStatus replica .failed) := by
    rw [Floor.slices_mint, Floor.slices_noteReplica here, if_pos rfl]
  have minted : (floor.noteReplica i replica .failed).mint.2 = floor.minted := rfl
  rw [Floor.applyOutcome]
  simp only [minted]
  rw [Floor.fail, Floor.moveBy_some noted (Floor.fail?_of_pending pending)]
  simp only
  have marked : ((floor.noteReplica i replica .failed).mint.1.modifySlice i fun _ =>
      s.ended replica .failed .failed (some (.fatal ⟨floor.minted, detail⟩))) =
      (floor.modifySlice i fun _ =>
        s.ended replica .failed .failed (some (.fatal ⟨floor.minted, detail⟩))).mint.1 := by
    rw [Floor.noteReplica]
    have twice := @Floor.modifySlice_modifySlice floor i
      (fun found => found.setReplicaStatus replica .failed)
      fun _ => s.ended replica .failed .failed (some (.fatal ⟨floor.minted, detail⟩))
    rw [← twice]
    rfl
  rw [marked]
  have ended : (floor.modifySlice i fun _ => s.ended replica .failed .failed
      (some (.fatal ⟨floor.minted, detail⟩))).mint.1.slices[i]? =
      some (s.ended replica .failed .failed (some (.fatal ⟨floor.minted, detail⟩))) := by
    rw [Floor.slices_mint, Floor.slices_modifySlice, if_pos rfl, here, Option.map_some]
  have found' : (floor.modifySlice i fun _ => s.ended replica .failed .failed
      (some (.fatal ⟨floor.minted, detail⟩))).mint.1.trackers[t]? = some k := found
  rw [Floor.report_fatal ended (Floor.keeper?_of_held owner found' held),
    Floor.recordFatal_first found' fine, Floor.doomed]

/-! ## Outcomes that come late -/

theorem Floor.fail?_of_cancelled {cause : JobFault} (cancelled : s.state = .cancelled) :
    (s.setReplicaStatus replica .failed).fail? cause = none := by
  rw [Slice.fail?, Slice.setReplicaStatus, cancelled]
  rfl

theorem Floor.Sound.landed_late (sound : floor.Sound) (here : floor.slices[i]? = some s)
    (owner : s.owner = some t) (found : floor.trackers[t]? = some k)
    (cancelled : s.state = .cancelled) :
    Floor.Landed floor t k i s replica outcome (floor.applyOutcome i replica outcome) := by
  have noted : (floor.noteReplica i replica .failed).slices[i]? =
      some (s.setReplicaStatus replica .failed) := by
    rw [Floor.slices_noteReplica here, if_pos rfl]
  cases outcome with
  | success =>
      have stays : s.complete? = none := by
        rw [Slice.complete?, cancelled]
        rfl
      rw [Floor.applyOutcome, Floor.complete, Floor.moveBy_none here stays]
      simp only
      refine .late _ cancelled (Or.inl rfl) (fun j => ?_) rfl rfl (Nat.le_refl _)
      split
      · next same =>
          subst same
          exact here
      · rfl
  | retriable detail =>
      rw [Floor.applyOutcome, Floor.fail,
        Floor.moveBy_none noted (Floor.fail?_of_cancelled cancelled)]
      simp only [Floor.report_retriable]
      exact .late _ cancelled (Or.inr rfl) (fun j => Floor.slices_noteReplica here) rfl rfl
        (Nat.le_refl _)
  | fatal detail =>
      have minted : (floor.noteReplica i replica .failed).mint.2 = floor.minted := rfl
      have noted' : (floor.noteReplica i replica .failed).mint.1.slices[i]? =
          some (s.setReplicaStatus replica .failed) := noted
      rw [Floor.applyOutcome]
      simp only [minted]
      rw [Floor.fail, Floor.moveBy_none noted' (Floor.fail?_of_cancelled cancelled)]
      simp only
      have quiet : k.held = true → ∃ kept, k.fatal = some kept ∧ kept.serial ≠ floor.minted := by
        intro held
        obtain ⟨-, -, governs⟩ := sound.owned here owner found
        rcases governs.over_of_cancelled cancelled with failed | gone
        · obtain ⟨kept, fatal⟩ := Option.isSome_iff_exists.mp failed
          exact ⟨kept, fatal, Nat.ne_of_lt (sound.serial found fatal)⟩
        · rw [held] at gone
          cases gone
      rw [Floor.report_ignored noted' owner found quiet]
      exact .late _ cancelled (Or.inr rfl) (fun j => Floor.slices_noteReplica here) rfl rfl
        (Nat.le_succ _)

/-! ## Every outcome -/

theorem Floor.Sound.landed (sound : floor.Sound) (here : floor.slices[i]? = some s)
    (owner : s.owner = some t) (found : floor.trackers[t]? = some k)
    (aloft : s.state = .pending ∨ s.state = .cancelled) :
    Floor.Landed floor t k i s replica outcome (floor.applyOutcome i replica outcome) := by
  rcases aloft with pending | cancelled
  · obtain ⟨-, -, governs⟩ := sound.owned here owner found
    obtain ⟨fine, held⟩ := governs.open_of_pending pending
    cases outcome with
    | success =>
        rw [Floor.applyOutcome_success here pending]
        exact .completed pending
    | retriable detail =>
        rw [Floor.applyOutcome_retriable here pending]
        exact .failed pending
    | fatal detail =>
        rw [Floor.applyOutcome_fatal here pending owner found fine held]
        exact .doomed pending
  · exact sound.landed_late here owner found cancelled

theorem Floor.Reworks.doomed {f : FatalFailure} (sound : floor.Sound)
    (found : floor.trackers[t]? = some k) (here : floor.slices[i]? = some s)
    (owner : s.owner = some t) :
    Floor.Reworks t k { k with fatal := some f } floor (floor.doomed t i s replica f) where
  before := found
  after := by rw [Floor.trackers_doomed found, if_pos rfl]
  members := rfl
  job := rfl
  queue := rfl
  others := fun u other => by rw [Floor.trackers_doomed found, if_neg (Ne.symm other)]
  outside := fun j s' there foreign => by
    rw [Floor.slices_doomed found here]
    have other : i ≠ j :=
      Floor.slice_ne_of_owner here there fun same => foreign (same.symm.trans owner)
    have free : j ∉ floor.membersOf t :=
      fun member => foreign ((sound.mem_membersOf_iff found there).mp member)
    rw [if_neg other, if_neg free]
    exact there
  inside := fun j s' there owned => by
    rw [Floor.slices_doomed found here]
    split
    · next same =>
        subst same
        rw [here] at there
        cases there
        exact ⟨_, rfl, owner, rfl⟩
    · rw [if_pos ((sound.mem_membersOf_iff found there).mpr owned), there, Option.map_some]
      exact ⟨_, rfl, s'.owner_cancelled.trans owned, s'.piece_cancelled⟩
  absent := fun j none => by
    rw [Floor.slices_doomed found here, none, Option.map_none, ite_self]
    have other : i ≠ j := by
      rintro rfl
      rw [here] at none
      cases none
    rw [if_neg other]
  minted := by rw [Floor.minted_doomed]; exact Nat.le_succ _

theorem Floor.Reworks.ended {status : ReplicaStatus} {state : SliceState}
    {cause : Option JobFault} (found : floor.trackers[t]? = some k)
    (here : floor.slices[i]? = some s) (owner : s.owner = some t) :
    Floor.Reworks t k k floor (floor.modifySlice i fun _ => s.ended replica status state cause) :=
  .of_slice (s.ended replica status state cause) found here owner rfl rfl
    (fun _ => Floor.slices_modifySlice_of here) rfl (Nat.le_refl _)

/-- An outcome concerns one tracker, which stays the same but for a fatal failure it records. -/
theorem Floor.Landed.reworks (landed : Floor.Landed floor t k i s replica outcome next)
    (sound : floor.Sound) (here : floor.slices[i]? = some s) (owner : s.owner = some t)
    (found : floor.trackers[t]? = some k) : ∃ fatal,
      Floor.Reworks t k { k with fatal := fatal } floor next := by
  cases landed with
  | completed pending => exact ⟨k.fatal, .ended found here owner⟩
  | failed pending => exact ⟨k.fatal, .ended found here owner⟩
  | doomed pending => exact ⟨_, .doomed sound found here owner⟩
  | late statuses cancelled noted slices trackers queues minted =>
      exact ⟨k.fatal, .of_slice { s with replicaStatus := statuses } found here owner rfl rfl slices
        trackers minted⟩

/-- An outcome queues nothing. -/
theorem Floor.Landed.queues (landed : Floor.Landed floor t k i s replica outcome next) :
    next.queues = floor.queues := by
  cases landed with
  | completed pending => rfl
  | failed pending => rfl
  | doomed pending => exact Floor.queues_doomed
  | late statuses cancelled noted slices trackers queues minted => exact queues

/-- The tracker of a slice that has just ended allows what it ended as, when it records the failure
that the slice ended with. -/
theorem Tracker.Governs.of_ended {status : ReplicaStatus} {state : SliceState}
    {cause : Option JobFault} (ended : state = .completed ∨ state = .failed)
    (fatal : ∀ f, cause = some (.fatal f) → k.fatal = some f) :
    k.Governs (s.ended replica status state cause) := by
  have terminal : state.IsTerminal := ended.elim Or.inl fun failed => Or.inr (Or.inl failed)
  refine ⟨?_, fun _ => terminal, fun _ _ => ?_, fatal⟩
  · rintro (created : state = .created)
    subst created
    exact absurd terminal (by decide)
  · rintro (cancelled : state = .cancelled)
    subst cancelled
    rcases ended with completed | failed
    · cases completed
    · cases failed

/-- Applying an outcome to a slice that was with the processor keeps a floor sound. -/
theorem Floor.Sound.land (sound : floor.Sound)
    (landed : Floor.Landed floor t k i s replica outcome next)
    (here : floor.slices[i]? = some s) (owner : s.owner = some t)
    (found : floor.trackers[t]? = some k) : next.Sound := by
  obtain ⟨-, -, governs⟩ := sound.owned here owner found
  have clean := sound.slice here
  have token : s.state = .pending → ¬ s.tokenCancelled = true := fun pending =>
    clean.token_of_ne (by rw [pending]; exact SliceState.noConfusion)
  have noCause : s.state = .pending → s.failure = none := fun pending =>
    clean.failure_of_ne (by rw [pending]; exact SliceState.noConfusion)
  cases landed with
  | completed pending =>
      refine sound.of_slice (s.ended _ _ _ _) found here owner rfl rfl
        (fun _ => Floor.slices_modifySlice_of here) rfl (Nat.le_refl _) ⟨?_, ?_⟩
        (.of_ended (Or.inl rfl) fun f cause => ?_)
      · simp [Slice.ended, noCause pending]
      · simp [Slice.ended, Slice.setReplicaStatus, token pending]
      · rw [noCause pending] at cause
        cases cause
  | failed pending =>
      refine sound.of_slice (s.ended _ _ _ _) found here owner rfl rfl
        (fun _ => Floor.slices_modifySlice_of here) rfl (Nat.le_refl _) ⟨?_, ?_⟩
        (.of_ended (Or.inr rfl) fun f cause => by cases cause)
      · simp [Slice.ended]
      · simp [Slice.ended, Slice.setReplicaStatus, token pending]
  | doomed pending =>
      obtain ⟨fine, -⟩ := governs.open_of_pending pending
      refine sound.rework (.doomed sound found here owner) ?_ fun f recorded => ?_
      · intro j s₁ s₂ before owned after governed
        rw [Floor.slices_doomed found here] at after
        split at after
        · cases after
          refine ⟨⟨by simp [Slice.ended], ?_⟩, .of_ended (Or.inr rfl) fun f cause => ?_⟩
          · simp [Slice.ended, Slice.setReplicaStatus, token pending]
          · cases cause
            rfl
        · rw [if_pos ((sound.mem_membersOf_iff found before).mpr owned), before,
            Option.map_some] at after
          cases after
          exact ⟨(sound.slice before).cancelled, governed.doom fine⟩
      · cases recorded
        rw [Floor.minted_doomed]
        exact Nat.lt_succ_self _
  | late statuses cancelled noted slices trackers queues minted =>
      exact sound.of_slice { s with replicaStatus := statuses } found here owner rfl rfl slices
        trackers minted ⟨clean.cause, clean.token⟩
        ⟨governs.begun, governs.ended, governs.alive, governs.fatal⟩

end Restage
