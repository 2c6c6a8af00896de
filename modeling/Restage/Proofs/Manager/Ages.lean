import Restage.Proofs.Manager.Acts

/-!
# What no step undoes

Nothing is ever taken out of a floor. `Floor.Ages` lists what stays with an entry for good: the
piece of a slice and the tracker it was bound to, the queue and the job of a tracker, the failure
that it recorded, and that it was let go. Every move keeps that (`Manager.Moves.ages`).
-/

namespace Restage

open Manager

variable {floor next last : Floor} {m : Manager} {t : TrackerRef} {k k' : Tracker} {i : SliceRef}
  {s : Slice}

/-- What a slice may become. -/
structure Slice.Ages (s s' : Slice) : Prop where
  piece : s'.piece = s.piece
  owner : ∀ t, s.owner = some t → s'.owner = some t

/-- What a tracker may become. -/
structure Tracker.Ages (k k' : Tracker) : Prop where
  queue : k'.queue = k.queue
  job : k'.descriptor.job.id = k.descriptor.job.id
  letGo : k.held = false → k'.held = false
  fatal : ∀ f, k.fatal = some f → k'.fatal = some f

/-- What a floor may become. -/
structure Floor.Ages (floor next : Floor) : Prop where
  slice : ∀ (i : SliceRef) (s : Slice), floor.slices[i]? = some s →
    ∃ s', next.slices[i]? = some s' ∧ s.Ages s'
  tracker : ∀ (t : TrackerRef) (k : Tracker), floor.trackers[t]? = some k →
    ∃ k', next.trackers[t]? = some k' ∧ k.Ages k'

theorem Slice.Ages.refl (s : Slice) : s.Ages s := ⟨rfl, fun _ owner => owner⟩

theorem Tracker.Ages.refl (k : Tracker) : k.Ages k := ⟨rfl, rfl, id, fun _ fatal => fatal⟩

theorem Slice.Ages.trans {s s' s'' : Slice} (first : s.Ages s') (second : s'.Ages s'') :
    s.Ages s'' where
  piece := second.piece.trans first.piece
  owner := fun t owner => second.owner t (first.owner t owner)

theorem Tracker.Ages.trans {k k' k'' : Tracker} (first : k.Ages k') (second : k'.Ages k'') :
    k.Ages k'' where
  queue := second.queue.trans first.queue
  job := second.job.trans first.job
  letGo := fun gone => second.letGo (first.letGo gone)
  fatal := fun f fatal => second.fatal f (first.fatal f fatal)

theorem Floor.Ages.of_tables (slices : next.slices = floor.slices)
    (trackers : next.trackers = floor.trackers) : Floor.Ages floor next where
  slice := fun i s here => ⟨s, by rw [slices]; exact here, .refl s⟩
  tracker := fun t k found => ⟨k, by rw [trackers]; exact found, .refl k⟩

theorem Floor.Ages.refl : Floor.Ages floor floor := .of_tables rfl rfl

theorem Floor.Ages.trans (first : Floor.Ages floor next) (second : Floor.Ages next last) :
    Floor.Ages floor last where
  slice := fun i s here => by
    obtain ⟨s', there, ages⟩ := first.slice i s here
    obtain ⟨s'', there', ages'⟩ := second.slice i s' there
    exact ⟨s'', there', ages.trans ages'⟩
  tracker := fun t k found => by
    obtain ⟨k', found', ages⟩ := first.tracker t k found
    obtain ⟨k'', found'', ages'⟩ := second.tracker t k' found'
    exact ⟨k'', found'', ages.trans ages'⟩

theorem Floor.Ages.size_le (ages : Floor.Ages floor next) :
    floor.slices.size ≤ next.slices.size := by
  by_contra fewer
  have inside : next.slices.size < floor.slices.size := Nat.lt_of_not_le fewer
  obtain ⟨s', there, -⟩ := ages.slice _ _ (Array.getElem?_eq_getElem inside)
  rw [Array.getElem?_eq_none (Nat.le_refl _)] at there
  cases there

/-! ## The changes of a floor -/

theorem Floor.Reworks.ages (rework : Floor.Reworks t k k' floor next)
    (letGo : k.held = false → k'.held = false)
    (fatal : ∀ f, k.fatal = some f → k'.fatal = some f) : Floor.Ages floor next where
  slice := fun i s here => by
    by_cases owner : s.owner = some t
    · obtain ⟨s', there, owner', piece⟩ := rework.inside i s here owner
      exact ⟨s', there, piece, fun u bound => owner'.trans (owner.symm.trans bound)⟩
    · exact ⟨s, rework.outside i s here owner, .refl s⟩
  tracker := fun u k₁ found => by
    by_cases same : u = t
    · subst same
      rw [rework.before] at found
      cases found
      exact ⟨k', rework.after, rework.queue, rework.job, letGo, fatal⟩
    · exact ⟨k₁, (rework.others u same).trans found, .refl k₁⟩

theorem Floor.Ages.addSlice {piece : Piece} :
    Floor.Ages floor (floor.addSlice (.ofPiece piece)).1 where
  slice := fun i s here => by
    refine ⟨s, ?_, .refl s⟩
    rw [Floor.slices_addSlice, if_neg (Floor.slice_ne_size here)]
    exact here
  tracker := fun t k found => ⟨k, found, .refl k⟩

theorem Floor.Ages.addTracker {tracker : Tracker} :
    Floor.Ages floor (floor.addTracker tracker).1 where
  slice := fun i s here => ⟨s, here, .refl s⟩
  tracker := fun t k found => by
    refine ⟨k, ?_, .refl k⟩
    rw [Floor.trackers_addTracker, if_neg (Floor.tracker_ne_size found)]
    exact found

theorem Floor.Ages.admitted (found : floor.trackers[t]? = some k)
    (here : floor.slices[i]? = some s) (free : s.owner = none) :
    Floor.Ages floor (floor.admitted t k i s) where
  slice := fun j s' there => by
    rw [Floor.slices_admitted here]
    split
    · next same =>
        subst same
        rw [here] at there
        cases there
        refine ⟨_, rfl, rfl, fun u bound => ?_⟩
        rw [free] at bound
        cases bound
    · exact ⟨s', there, .refl s'⟩
  tracker := fun u k' found' => by
    rw [Floor.trackers_admitted found]
    split
    · next same =>
        subst same
        rw [found] at found'
        cases found'
        exact ⟨_, rfl, rfl, rfl, id, fun _ fatal => fatal⟩
    · exact ⟨k', found', .refl k'⟩

/-- An outcome records a failure only where there was none. -/
theorem Floor.Landed.ages {replica : String} {outcome : Outcome}
    (landed : Floor.Landed floor t k i s replica outcome next) (sound : floor.Sound)
    (here : floor.slices[i]? = some s) (owner : s.owner = some t)
    (found : floor.trackers[t]? = some k) : Floor.Ages floor next := by
  cases landed with
  | completed pending | failed pending =>
      exact (Floor.Reworks.ended found here owner).ages id fun _ fatal => fatal
  | doomed pending =>
      obtain ⟨-, -, governs⟩ := sound.owned here owner found
      obtain ⟨fine, -⟩ := governs.open_of_pending pending
      refine (Floor.Reworks.doomed sound found here owner).ages id fun f fatal => ?_
      rw [fine] at fatal
      cases fatal
  | late statuses cancelled noted slices trackers queues minted =>
      have rework : Floor.Reworks t k k floor next :=
        .of_slice { s with replicaStatus := statuses } found here owner rfl rfl slices trackers
          minted
      exact rework.ages id fun _ fatal => fatal

/-! ## Moves -/

theorem Manager.Move.ages {site site' : Site} (move : Move site site') (sound : site.1.Sound) :
    Floor.Ages site.1 site'.1 := by
  cases move with
  | track new => exact .addTracker
  | accept found queue held fine here free job new => exact .admitted found here free
  | reopen found queue held fine here owner failed =>
      exact (Floor.Reworks.reopened found here owner).ages id fun _ fatal => fatal
  | update found queue job =>
      exact (Floor.Reworks.described found job).ages id fun _ fatal => fatal
  | discard found queue tracked =>
      exact (Floor.Reworks.discarded sound found).ages (fun _ => rfl) fun _ fatal => fatal
  | land aloft here owner found queue landed => exact landed.ages sound here owner found
  | start | stop | take | grant | pass | skip | quit => exact .of_tables rfl rfl

theorem Manager.Moves.ages {site site' : Site} (moves : Moves site site') (sound : site.Sound) :
    Floor.Ages site.1 site'.1 := by
  induction moves with
  | refl => exact .refl
  | tail before move ih => exact ih.trans (move.ages (Moves.sound before sound).floor)

end Restage
