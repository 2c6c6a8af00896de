import Restage.Proofs.Manager.Acts

/-!
# Managers whose worker is gone

The worker of a manager that was told to stop goes, and does not come back. From then on nothing is
handed to the processor (`Manager.Moves.gone`), so a slice that was left behind, in the queue, in
the worker's hand or dropped by a closed queue, stays PENDING unless it is cancelled
(`Manager.Moves.leaves`). Flights land as before, and `Manager.Site.Sound.lands` says what becomes of
the slice of one.
-/

namespace Restage

open Manager

variable {floor next : Floor} {m : Manager} {t : TrackerRef} {k k' : Tracker} {i : SliceRef}
  {s : Slice} {site site' : Site}

/-! ## No new flights -/

/-- A worker that is gone stays gone and hands nothing over. -/
theorem Manager.Move.gone (move : Move site site') (gone : site.2.worker = .gone) :
    site'.2.worker = .gone ∧ ∀ flight ∈ site'.2.flights, flight ∈ site.2.flights := by
  cases move with
  | track | accept | reopen | update | discard | stop => exact ⟨gone, fun _ up => up⟩
  | land => exact ⟨gone, fun flight up => (List.mem_filter.mp up).1⟩
  | start unborn => cases unborn.symm.trans gone
  | take idle => cases idle.symm.trans gone
  | grant waiting => cases waiting.symm.trans gone
  | pass ready | skip ready => cases ready.symm.trans gone
  | quit => exact ⟨rfl, fun _ up => up⟩

theorem Manager.Moves.gone (moves : Moves site site') (gone : site.2.worker = .gone) :
    site'.2.worker = .gone ∧ ∀ flight ∈ site'.2.flights, flight ∈ site.2.flights := by
  induction moves with
  | refl => exact ⟨gone, fun _ up => up⟩
  | tail _ move ih =>
      obtain ⟨still, fewer⟩ := ih
      obtain ⟨gone', fewer'⟩ := move.gone still
      exact ⟨gone', fun flight up => fewer flight (fewer' flight up)⟩

/-! ## Slices that were left behind -/

/-- A slice that is posted to the manager but not with the processor: it is PENDING, or it was
cancelled so. -/
structure Manager.Leaves (m : Manager) (floor : Floor) (i : SliceRef) : Prop where
  posted : floor.post? i = some (m.queue, .pending) ∨ floor.post? i = some (m.queue, .cancelled)
  grounded : ∀ flight ∈ m.flights, flight.slice ≠ i

theorem Floor.Eases.posted {q : QueueRef} (eases : Floor.Eases q floor next i)
    (posted : floor.post? i = some (q, .pending) ∨ floor.post? i = some (q, .cancelled)) :
    next.post? i = some (q, .pending) ∨ next.post? i = some (q, .cancelled) := by
  rcases eases with same | ⟨-, cancelled⟩
  · rwa [same]
  · exact .inr cancelled

theorem Manager.Move.leaves (move : Move site site') (sound : site.Sound)
    (gone : site.2.worker = .gone) (leaves : site.2.Leaves site.1 i) :
    site'.2.Leaves site'.1 i := by
  obtain ⟨posted, grounded⟩ := leaves
  obtain ⟨-, fewer⟩ := move.gone gone
  refine ⟨?_, fun flight up => grounded flight (fewer flight up)⟩
  have clean := sound.floor
  have eased : Floor.Eases site.2.queue site.1 site'.1 i →
      site'.1.post? i = some (site.2.queue, .pending) ∨
        site'.1.post? i = some (site.2.queue, .cancelled) := fun eases => eases.posted posted
  cases move with
  | track new => exact eased (.inl clean.post?_addTracker)
  | @accept floor m t k j s found queue held fine here free job new =>
      rw [Floor.post?_admitted found here, queue]
      split
      · exact .inl rfl
      · exact posted
  | @reopen floor m t k j s found queue held fine here owner failed =>
      rw [Floor.post?_reopened found here owner, queue]
      split
      · exact .inl rfl
      · exact posted
  | update found queue job =>
      have rework := Floor.Reworks.described found job
      exact eased (.inl (Floor.post?_congr rfl fun s u _ _ => rework.queue_eq u))
  | discard found queue tracked =>
      refine eased ?_
      rw [← queue]
      refine (Floor.Reworks.discarded clean found).eases fun s here owner =>
        ⟨?_, clean.slices_discarded found here owner⟩
      obtain ⟨-, -, governs⟩ := clean.owned here owner found
      exact governs.begun
  | land aloft here owner found queue landed =>
      obtain ⟨-, eases⟩ := landed.post? clean here owner found
      rw [queue] at eases
      exact eased (eases i (Ne.symm (grounded _ (List.mem_of_find?_eq_some aloft))))
  | start | stop | take | grant | pass | skip | quit => exact eased (.inl rfl)

theorem Manager.Moves.leaves (moves : Moves site site') (sound : site.Sound)
    (gone : site.2.worker = .gone) (leaves : site.2.Leaves site.1 i) :
    site'.2.Leaves site'.1 i := by
  induction moves with
  | refl => exact leaves
  | tail before move ih =>
      exact move.leaves (Moves.sound before sound) (Moves.gone before gone).1 ih

/-- What another manager does leaves those behind that were left behind. -/
theorem Floor.Within.leaves {q : QueueRef} (within : Floor.Within q floor next)
    (apart : m.queue ≠ q) (leaves : m.Leaves floor i) : m.Leaves next i where
  posted := by
    rw [within.post?_iff apart, within.post?_iff apart]
    exact leaves.posted
  grounded := leaves.grounded

/-! ## Landing -/

/-- A PENDING slice that an outcome was applied to. `serial` is that of the failure it makes, if it
makes one. -/
def Slice.taking (s : Slice) (replica : String) (serial : Nat) : Outcome → Slice
  | .success => s.ended replica .succeeded .completed s.failure
  | .retriable detail => s.ended replica .failed .failed (some (.retriable detail))
  | .fatal detail => s.ended replica .failed .failed (some (.fatal ⟨serial, detail⟩))

theorem Floor.Landed.taking {replica : String} {outcome : Outcome}
    (landed : Floor.Landed floor t k i s replica outcome next)
    (here : floor.slices[i]? = some s) (found : floor.trackers[t]? = some k)
    (pending : s.state = .pending) :
    next.slices[i]? = some (s.taking replica floor.minted outcome) := by
  cases landed with
  | completed | failed =>
      rw [Floor.slices_modifySlice_of here, if_pos rfl]
      rfl
  | doomed =>
      rw [Floor.slices_doomed found here, if_pos rfl]
      rfl
  | late statuses cancelled => cases pending.symm.trans cancelled

theorem Floor.Landed.late_state {replica : String} {outcome : Outcome}
    (landed : Floor.Landed floor t k i s replica outcome next) (cancelled : s.state = .cancelled) :
    next.stateOf? i = some .cancelled := by
  cases landed with
  | completed pending | failed pending | doomed pending => cases pending.symm.trans cancelled
  | late statuses _ noted slices =>
      rw [Floor.stateOf?, slices, if_pos rfl]
      exact congrArg some cancelled

/-- A flight can land with whatever outcome. Its slice takes the outcome, unless it was cancelled
meanwhile. -/
theorem Manager.Site.Sound.lands (sound : Site.Sound (floor, m)) {flight : Flight}
    (up : flight ∈ m.flights) (ending : Ending) :
    ∃ next m' s, Manager.act? (floor, m) (.land flight.number ending) = some (next, m') ∧
      m'.flights = (m.flights.filter fun other => other.number ≠ flight.number) ∧
      floor.slices[flight.slice]? = some s ∧
      (s.state = .pending ∧ next.slices[flight.slice]? =
          some (s.taking m.home.address floor.minted ending.outcome) ∨
        s.state = .cancelled ∧ next.stateOf? flight.slice = some .cancelled) := by
  have aloft : m.flights.find? (fun other => other.number = flight.number) = some flight := by
    cases found : m.flights.find? (fun other => other.number = flight.number) with
    | none => simpa using List.find?_eq_none.mp found flight up
    | some other =>
        have same : other.number = flight.number := by simpa using List.find?_some found
        rw [List.inj_on_of_nodup_map sound.numbers.own (List.mem_of_find?_eq_some found) up same]
  have possible : (m.land? floor flight.number ending.outcome).isSome = true := by
    rw [Manager.land?, aloft]
    rfl
  obtain ⟨⟨next, m'⟩, done⟩ := Option.isSome_iff_exists.mp possible
  obtain ⟨flight', t, k, s, aloft', here, owner, found, -, landed, after⟩ :=
    @Site.Sound.landing (floor, m) (next, m') sound _ _ done
  rw [aloft] at aloft'
  cases aloft'
  refine ⟨next, m', s, done, congrArg Manager.flights after, here, ?_⟩
  obtain ⟨s', -, -, here', -, -, -, state⟩ := sound.places.flight up
  rw [here] at here'
  cases here'
  rcases state with pending | cancelled
  · exact .inl ⟨pending, landed.taking here found pending⟩
  · exact .inr ⟨cancelled, landed.late_state cancelled⟩

end Restage
