import Restage.Proofs.Manager.Ages
import Restage.Proofs.Manager.Stopping

/-!
# What is recorded for replicas

A slice records a status for each of its replicas. A manager writes the one under the address of its
own instance, when an outcome is applied. A slice that failed may be tried again, so it may be
PENDING while that status is FAILED still: `Slice.Reports` says in what the two agree. They do
because a completed slice is never handed over again, and because a slice that was cancelled while
it was with the processor has only failures noted.

`Slice.Turns` lists what one move may make of a slice, and everything else follows from it, case by
case.
-/

namespace Restage

open Manager

variable {floor next : Floor} {t : TrackerRef} {k : Tracker} {i : SliceRef} {s s' : Slice}
  {replica name : String} {status : ReplicaStatus} {outcome : Outcome} {site site' : Site}

/-! ## Statuses -/

theorem Slice.lookup_putStatus (statuses : List (String × ReplicaStatus)) :
    (putStatus replica status statuses).lookup name =
      if name = replica then some status else statuses.lookup name := by
  have first : ∀ (head : String) (value : ReplicaStatus) (rest : List (String × ReplicaStatus)),
      ((head, value) :: rest).lookup name =
        if name = head then some value else rest.lookup name := by
    intro head value rest
    rw [List.lookup_cons]
    by_cases same : name = head
    · rw [if_pos same, same, beq_self_eq_true]
    · rw [if_neg same, beq_false_of_ne same]
  induction statuses with
  | nil => exact first _ _ _
  | cons head rest ih =>
      obtain ⟨other, old⟩ := head
      rw [putStatus]
      split
      · next here =>
          subst here
          rw [first, first]
          split <;> rfl
      · next apart =>
          rw [first, first, ih]
          by_cases same : name = other
          · rw [if_pos same, if_pos same, if_neg fun here => apart (same.symm.trans here)]
          · rw [if_neg same, if_neg same]

theorem Slice.mem_keys_putStatus (statuses : List (String × ReplicaStatus)) :
    name ∈ (putStatus replica status statuses).map Prod.fst ↔
      name = replica ∨ name ∈ statuses.map Prod.fst := by
  induction statuses with
  | nil => simp [putStatus]
  | cons head rest ih =>
      obtain ⟨other, old⟩ := head
      rw [putStatus]
      split
      · next here => simp [here]
      · next apart =>
          simp only [List.map_cons, List.mem_cons, ih]
          exact or_left_comm

/-- The status that an outcome gives the replica it is about. -/
def Outcome.replicaStatus : Outcome → ReplicaStatus
  | .success => .succeeded
  | .retriable _ | .fatal _ => .failed

theorem Slice.replicaStatus_taking {serial : Nat} :
    (s.taking replica serial outcome).replicaStatus =
      putStatus replica outcome.replicaStatus s.replicaStatus := by
  cases outcome <;> rfl

/-! ## Reports -/

/-- A slice was processed with success exactly when its status for the replica says so, and its last
failure is recorded there. No name is recorded but the replica's and those the slice was built
with. -/
structure Slice.Reports (s : Slice) (replica : String) : Prop where
  succeeded : s.replicaStatus.lookup replica = some .succeeded ↔ s.state = .completed
  failed : s.state = .failed → s.replicaStatus.lookup replica = some .failed
  built : ∀ name ∈ s.piece.replicas, name ∈ s.replicaStatus.map Prod.fst
  known : ∀ name ∈ s.replicaStatus.map Prod.fst, name ∈ s.piece.replicas ∨ name = replica

theorem Slice.Reports.ofPiece (piece : Piece) (replica : String) :
    (Slice.ofPiece piece).Reports replica where
  succeeded := by
    have waiting : ∀ pair ∈ (Slice.ofPiece piece).replicaStatus, pair.2 = .pending := by
      simp [Slice.ofPiece]
    refine ⟨fun found => ?_, fun ended => SliceState.noConfusion ended⟩
    cases waiting _ (Table.mem_of_lookup found)
  failed := fun ended => SliceState.noConfusion ended
  built := by simp [Slice.ofPiece]
  known := fun name member => .inl (by simpa [Slice.ofPiece] using member)

/-- A slice that neither comes to an end nor leaves it as a completed one reports what it did. -/
theorem Slice.Reports.moved {state : SliceState} {failure : Option JobFault}
    {owner : Option TrackerRef} {token : Bool} (reports : s.Reports replica)
    (running : s.state ≠ .completed) (other : state ≠ .completed) (fine : state ≠ .failed) :
    ({ s with state := state, failure := failure, owner := owner, tokenCancelled := token } :
      Slice).Reports replica where
  succeeded := ⟨fun found => absurd (reports.succeeded.mp found) running, fun ended =>
    absurd ended other⟩
  failed := fun failed => absurd failed fine
  built := reports.built
  known := reports.known

theorem Slice.Reports.cancelled (reports : s.Reports replica) : s.cancelled.Reports replica := by
  by_cases ended : s.state.IsTerminal
  · rw [s.cancelled_of_terminal ended]
    exact reports
  · rw [s.cancelled_of_not_terminal ended]
    exact reports.moved (fun completed => ended (.inl completed)) nofun nofun

/-- Once a status was written for the replica, its name is known. -/
theorem Slice.Reports.ended {state : SliceState} {failure : Option JobFault}
    (reports : s.Reports replica)
    (succeeded : status = .succeeded ↔ state = .completed)
    (failed : state = .failed → status = .failed) :
    (s.ended replica status state failure).Reports replica where
  succeeded := by
    rw [Slice.ended, Slice.setReplicaStatus, lookup_putStatus, if_pos rfl, Option.some.injEq]
    exact succeeded
  failed := fun ended => by
    rw [Slice.ended, Slice.setReplicaStatus, lookup_putStatus, if_pos rfl, failed ended]
  built := fun name member => (mem_keys_putStatus _).mpr (.inr (reports.built name member))
  known := fun name member =>
    ((mem_keys_putStatus _).mp member).elim .inr (reports.known name)

theorem Slice.Reports.taking (reports : s.Reports replica) (serial : Nat) (outcome : Outcome) :
    (s.taking replica serial outcome).Reports replica := by
  cases outcome with
  | success => exact reports.ended ⟨fun _ => rfl, fun _ => rfl⟩ nofun
  | retriable | fatal => exact reports.ended ⟨nofun, nofun⟩ fun _ => rfl

/-! ## Turns -/

/-- What one move of the manager of an instance, whose address is given, may make of a slice. -/
inductive Slice.Turns (replica : String) (s : Slice) : Slice → Prop
  | stays : Turns replica s s
  | begun (free : s.owner = none) (t : TrackerRef) :
    Turns replica s { s with owner := some t, state := .pending }
  | reopened {t : TrackerRef} (owner : s.owner = some t) (failed : s.state = .failed) :
    Turns replica s { s with state := .pending, failure := none }
  | cancelled {t : TrackerRef} (owner : s.owner = some t) : Turns replica s s.cancelled
  | taken {t : TrackerRef} (owner : s.owner = some t) (pending : s.state = .pending) (serial : Nat)
    (outcome : Outcome) : Turns replica s (s.taking replica serial outcome)
  /-- An outcome that comes after the slice was cancelled. -/
  | late {t : TrackerRef} (owner : s.owner = some t) (cancelled : s.state = .cancelled) :
    Turns replica s (s.setReplicaStatus replica .failed)

theorem Slice.Turns.reports (turns : s.Turns replica s') (reports : s.Reports replica)
    (created : s.owner = none → s.state = .created) : s'.Reports replica := by
  cases turns with
  | stays => exact reports
  | begun free =>
      refine reports.moved ?_ nofun nofun
      rw [created free]
      exact nofun
  | reopened owner failed =>
      refine reports.moved ?_ nofun nofun
      rw [failed]
      exact nofun
  | cancelled => exact reports.cancelled
  | taken owner pending serial outcome => exact reports.taking serial outcome
  | late owner cancelled =>
      have kept : (s.ended replica .failed .cancelled s.failure).Reports replica :=
        reports.ended ⟨nofun, nofun⟩ nofun
      rw [← cancelled] at kept
      exact kept

/-- A slice that is not bound afterwards is the one it was. -/
theorem Slice.Turns.unbound (turns : s.Turns replica s') (free : s'.owner = none) : s' = s := by
  cases turns with
  | stays => rfl
  | begun => cases free
  | reopened owner | late owner => cases owner.symm.trans free
  | cancelled owner => cases owner.symm.trans (s.owner_cancelled.symm.trans free)
  | taken owner pending serial outcome =>
      cases outcome <;> cases owner.symm.trans free

/-- The members of a tracker are cancelled all at once. -/
theorem Floor.Sound.turns_of_cancelled (sound : floor.Sound) (found : floor.trackers[t]? = some k)
    (there : (if i ∈ floor.membersOf t then (floor.slices[i]?).map Slice.cancelled
      else floor.slices[i]?) = some s') :
    ∃ s, floor.slices[i]? = some s ∧ s.Turns replica s' := by
  split at there
  · next member =>
      obtain ⟨s, here, rfl⟩ := Option.map_eq_some_iff.mp there
      exact ⟨s, here, .cancelled ((sound.mem_membersOf_iff found here).mp member)⟩
  · exact ⟨s', there, .stays⟩

/-- One slice turns while all others stay. -/
theorem Floor.turns_of_one {turned : Slice} {j : SliceRef} (here : floor.slices[i]? = some s)
    (turns : s.Turns replica turned)
    (there : (if i = j then some turned else floor.slices[j]?) = some s') :
    ∃ s, floor.slices[j]? = some s ∧ s.Turns replica s' := by
  split at there
  · next same =>
      subst same
      cases there
      exact ⟨s, here, turns⟩
  · exact ⟨s', there, .stays⟩

theorem Floor.Landed.turns (landed : Floor.Landed floor t k i s replica outcome next)
    (sound : floor.Sound) (here : floor.slices[i]? = some s) (owner : s.owner = some t)
    (found : floor.trackers[t]? = some k) {j : SliceRef} (there : next.slices[j]? = some s') :
    ∃ s, floor.slices[j]? = some s ∧ s.Turns replica s' := by
  cases landed with
  | completed pending =>
      rw [Floor.slices_modifySlice_of here] at there
      exact Floor.turns_of_one here (.taken owner pending 0 .success) there
  | @failed detail pending =>
      rw [Floor.slices_modifySlice_of here] at there
      exact Floor.turns_of_one here (.taken owner pending 0 (.retriable detail)) there
  | @doomed detail pending =>
      rw [Floor.slices_doomed found here] at there
      split at there
      · next same =>
          subst same
          cases there
          exact ⟨s, here, .taken owner pending floor.minted (.fatal detail)⟩
      · exact sound.turns_of_cancelled found there
  | late statuses cancelled noted slices =>
      rw [slices] at there
      refine Floor.turns_of_one here ?_ there
      rcases noted with rfl | rfl
      · exact .stays
      · exact .late owner cancelled

theorem Manager.Move.turns (move : Move site site') (sound : site.1.Sound)
    (there : site'.1.slices[i]? = some s') :
    ∃ s, site.1.slices[i]? = some s ∧ s.Turns site.2.home.address s' := by
  cases move with
  | track | update | start | stop | take | grant | pass | skip | quit =>
      exact ⟨s', there, .stays⟩
  | @accept floor m t k j s found queue held fine here free =>
      rw [Floor.slices_admitted here] at there
      exact Floor.turns_of_one here (.begun free t) there
  | reopen found queue held fine here owner failed =>
      rw [Floor.slices_reopened here] at there
      exact Floor.turns_of_one here (.reopened owner failed) there
  | discard found =>
      rw [Floor.slices_discarded] at there
      exact sound.turns_of_cancelled found there
  | land aloft here owner found queue landed => exact landed.turns sound here owner found there

/-! ## Managers -/

/-- What is recorded for the slices of a manager's trackers agrees with what was done with them, and
the slices that are not bound yet are as they were built. -/
structure Manager.Site.Reports (site : Site) : Prop where
  unbound : ∀ {i : SliceRef} {s : Slice}, site.1.slices[i]? = some s → s.owner = none →
    s = .ofPiece s.piece
  bound : ∀ {i : SliceRef} {s : Slice} {t : TrackerRef} {k : Tracker},
    site.1.slices[i]? = some s → s.owner = some t → site.1.trackers[t]? = some k →
    k.queue = site.2.queue → s.Reports site.2.home.address

theorem Manager.Move.reports (move : Move site site') (sound : site.Sound)
    (reports : site.Reports) : site'.Reports where
  unbound := fun {i s'} there free => by
    obtain ⟨s, here, turns⟩ := move.turns sound.floor there
    cases turns.unbound free
    exact reports.unbound here free
  bound := fun {i s' t k'} there owner found queue => by
    obtain ⟨s, here, turns⟩ := move.turns sound.floor there
    obtain ⟨home, same, -⟩ := move.same
    rw [home]
    refine turns.reports ?_ (sound.floor.unbound here)
    cases before : s.owner with
    | none =>
        rw [reports.unbound here before]
        exact .ofPiece _ _
    | some u =>
        obtain ⟨k, found', -⟩ := sound.floor.bound here before
        have ages := move.ages sound.floor
        obtain ⟨_, there', age⟩ := ages.slice _ _ here
        cases there'.symm.trans there
        cases (age.owner u before).symm.trans owner
        obtain ⟨_, after, age'⟩ := ages.tracker _ _ found'
        cases after.symm.trans found
        exact reports.bound here before found' (age'.queue.symm.trans (queue.trans same))

theorem Manager.Moves.reports (moves : Moves site site') (sound : site.Sound)
    (reports : site.Reports) : site'.Reports := by
  induction moves with
  | refl => exact reports
  | tail before move ih => exact move.reports (Moves.sound before sound) ih

/-- What another manager does is not about the slices of this one. -/
theorem Manager.Site.Reports.within {q : QueueRef} {m : Manager} (reports : Site.Reports (floor, m))
    (within : Floor.Within q floor next) (apart : m.queue ≠ q)
    (unbound : ∀ {i : SliceRef} {s : Slice}, next.slices[i]? = some s → s.owner = none →
      s = .ofPiece s.piece) : Site.Reports (next, m) where
  unbound := unbound
  bound := fun there owner found queue => by
    have other : _ ≠ q := fun same => apart (queue.symm.trans same)
    have found' := (within.trackers _ _ other).mp found
    have here := (within.slices _ _ _ _ found' other owner).mp there
    exact reports.bound here owner found' queue

end Restage
