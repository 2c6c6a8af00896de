import Restage.Proofs.Group.Runs
import Restage.Proofs.Manager.Barred

/-!
# A fatal failure is for ever

The step that records a fatal failure on a tracker is the end of a flight of one of its slices
(`Group.Sound.recorded`): that slice fails with it, those that had ended stay as they were, and all
others are cancelled. `Floor.Felled` says so, and `Group.Sound.spares` that no later step changes
any of it, queues one of the slices again or hands one to a processor.

`Group.Reachable.fatal_for_ever` puts this together for every run that goes on from there, with the
answers that submissions get.
-/

namespace Restage

open Manager

variable {group group' last : Group} {m : Manager} {t : TrackerRef} {k : Tracker} {i : SliceRef}
  {s : Slice} {f : FatalFailure}

/-- What tracker `t` and its slices were before a failure `f` of its slice `reporter` was recorded,
and what they are now. -/
structure Floor.Felled (t : TrackerRef) (f : FatalFailure) (reporter : SliceRef)
    (before now : Floor) : Prop where
  tracker : ∃ k k', before.trackers[t]? = some k ∧ now.trackers[t]? = some k' ∧
    k'.fatal = some f ∧ k'.members = k.members ∧ k'.queue = k.queue ∧
    k'.descriptor.job.id = k.descriptor.job.id
  failed : ∃ s s', before.slices[reporter]? = some s ∧ s.owner = some t ∧ s.state = .pending ∧
    now.slices[reporter]? = some s' ∧ s'.owner = some t ∧ s'.state = .failed ∧
    s'.failure = some (.fatal f)
  ended : ∀ (i : SliceRef) (s : Slice), before.slices[i]? = some s → s.owner = some t →
    s.state.IsTerminal → ∃ s', now.slices[i]? = some s' ∧ s'.owner = some t ∧
      s'.state = s.state ∧ s'.failure = s.failure ∧ s'.tokenCancelled = s.tokenCancelled
  cancelled : ∀ (i : SliceRef) (s : Slice), before.slices[i]? = some s → s.owner = some t →
    ¬ s.state.IsTerminal → i ≠ reporter → ∃ s', now.slices[i]? = some s' ∧ s'.owner = some t ∧
      s'.state = .cancelled ∧ s'.tokenCancelled = true
  only : ∀ (i : SliceRef) (s' : Slice), now.slices[i]? = some s' → s'.owner = some t →
    ∃ s, before.slices[i]? = some s ∧ s.owner = some t

/-- What has been felled remains so. -/
theorem Floor.Felled.keeps {before now next : Floor} {reporter : SliceRef}
    (felled : Floor.Felled t f reporter before now) (keeps : Floor.Keeps t now next) :
    Floor.Felled t f reporter before next where
  tracker := by
    obtain ⟨k, k', found, found', fatal, members, queue, job⟩ := felled.tracker
    obtain ⟨k'', found'', fatal'', members'', queue'', job''⟩ := keeps.tracker k' found'
    exact ⟨k, k'', found, found'', fatal''.trans fatal, members''.trans members,
      queue''.trans queue, job''.trans job⟩
  failed := by
    obtain ⟨s, s', here, owner, pending, there, owner', failed, failure⟩ := felled.failed
    obtain ⟨s'', there', remains⟩ := keeps.slice reporter s' there owner'
    rw [remains] at there'
    exact ⟨s, _, here, owner, pending, there', owner', failed, failure⟩
  ended := fun i s here owner terminal => by
    obtain ⟨s', there, owner', state, failure, token⟩ := felled.ended i s here owner terminal
    obtain ⟨s'', there', remains⟩ := keeps.slice i s' there owner'
    rw [remains] at there'
    exact ⟨_, there', owner', state, failure, token⟩
  cancelled := fun i s here owner running other => by
    obtain ⟨s', there, owner', state, token⟩ := felled.cancelled i s here owner running other
    obtain ⟨s'', there', remains⟩ := keeps.slice i s' there owner'
    rw [remains] at there'
    exact ⟨_, there', owner', state, token⟩
  only := fun i s' there owner => by
    obtain ⟨s₁, now, owner₁⟩ := keeps.only i s' there owner
    exact felled.only i s₁ now owner₁

theorem Floor.Felled.bars {before now : Floor} {reporter : SliceRef}
    (felled : Floor.Felled t f reporter before now) : now.Bars t f := by
  obtain ⟨k, k', -, found', fatal, -⟩ := felled.tracker
  exact ⟨k', found', fatal⟩

/-- A pending slice that ends with a fatal failure fells its tracker. -/
theorem Floor.Felled.doomed {floor : Floor} {replica : String} (sound : floor.Sound)
    (here : floor.slices[i]? = some s) (owner : s.owner = some t)
    (found : floor.trackers[t]? = some k) (pending : s.state = .pending) :
    Floor.Felled t f i floor (floor.doomed t i s replica f) where
  tracker := by
    refine ⟨k, { k with fatal := some f }, found, ?_, rfl, rfl, rfl, rfl⟩
    rw [Floor.trackers_doomed found, if_pos rfl]
  failed := by
    refine ⟨s, s.ended replica .failed .failed (some (.fatal f)), here, owner, pending, ?_, owner,
      rfl, rfl⟩
    rw [Floor.slices_doomed found here, if_pos rfl]
  ended := fun j s' there owned terminal => by
    have other : i ≠ j := by
      rintro rfl
      rw [here] at there
      cases there
      rw [pending] at terminal
      exact absurd terminal (by decide)
    refine ⟨s', ?_, owned, rfl, rfl, rfl⟩
    rw [Floor.slices_doomed found here, if_neg other,
      if_pos ((sound.mem_membersOf_iff found there).mpr owned), there, Option.map_some,
      s'.cancelled_of_terminal terminal]
  cancelled := fun j s' there owned running other => by
    refine ⟨{ s' with state := .cancelled, tokenCancelled := true }, ?_, owned, rfl, rfl⟩
    rw [Floor.slices_doomed found here, if_neg (Ne.symm other),
      if_pos ((sound.mem_membersOf_iff found there).mpr owned), there, Option.map_some,
      s'.cancelled_of_not_terminal running]
  only := fun j s' there owned => by
    rcases (Floor.Reworks.doomed sound found here owner).slice_cases there with
      ⟨-, foreign⟩ | ⟨s₁, before, owned₁, -, -⟩
    · exact absurd owned foreign
    · exact ⟨s₁, before, owned₁⟩

/-! ## The step that records it -/

theorem Floor.SameFatals.not_recorded {floor next : Floor} (same : Floor.SameFatals floor next)
    {k' : Tracker} (found : floor.trackers[t]? = some k) (fine : k.fatal = none)
    (found' : next.trackers[t]? = some k') : k'.fatal ≠ some f := by
  obtain ⟨k'', found'', fatal⟩ := same t k found
  rw [found'] at found''
  cases found''
  rw [fatal, fine]
  exact nofun

/-- An outcome that records a failure on a tracker is a fatal one of a pending slice of it. -/
theorem Floor.Landed.felled {floor next : Floor} {u : TrackerRef} {ku k' : Tracker}
    {replica : String} {outcome : Outcome}
    (landed : Floor.Landed floor u ku i s replica outcome next) (sound : floor.Sound)
    (here : floor.slices[i]? = some s) (owner : s.owner = some u)
    (tracker : floor.trackers[u]? = some ku) (found : floor.trackers[t]? = some k)
    (fine : k.fatal = none) (found' : next.trackers[t]? = some k') (fatal : k'.fatal = some f) :
    Floor.Felled t f i floor next := by
  have unchanged : next.trackers = floor.trackers → Floor.Felled t f i floor next :=
    fun trackers => absurd fatal ((Floor.SameFatals.of_trackers trackers).not_recorded found fine
      found')
  cases landed with
  | completed pending | failed pending => exact unchanged rfl
  | late statuses cancelled noted slices trackers queues minted => exact unchanged trackers
  | doomed pending =>
      rw [Floor.trackers_doomed tracker] at found'
      split at found'
      · next same =>
          subst same
          cases found'
          cases fatal
          exact .doomed sound here owner tracker pending
      · rw [found] at found'
        cases found'
        rw [fine] at fatal
        cases fatal

/-- A failure is recorded when a flight of a pending slice ends with it. -/
theorem Group.Sound.recorded (sound : group.Sound) (step : group.Step group') {k' : Tracker}
    (found : group.floor.trackers[t]? = some k) (fine : k.fatal = none)
    (found' : group'.floor.trackers[t]? = some k') (fatal : k'.fatal = some f) :
    ∃ m ∈ group.managers, ∃ flight ∈ m.flights,
      Floor.Felled t f flight.slice group.floor group'.floor := by
  obtain ⟨act, done⟩ := step
  cases act with
  | build piece =>
      cases done
      have same : Floor.SameFatals group.floor (group.floor.addSlice (.ofPiece piece)).1 :=
        .of_trackers rfl
      exact absurd fatal (same.not_recorded found fine found')
  | describe job =>
      cases done
      have same : Floor.SameFatals group.floor group.floor.mint.1 := .of_trackers rfl
      exact absurd fatal (same.not_recorded found fine found')
  | on id act =>
      obtain ⟨m, next, m', known, acted, rfl⟩ := Group.act?_on done
      obtain ⟨member, -⟩ := Group.mem_of_manager? known
      have site := sound.manager member
      rcases site.fatal_of_act acted with same | ⟨number, ending, rfl⟩
      · exact absurd fatal (same.not_recorded found fine found')
      · obtain ⟨flight, u, ku, s, aloft, here, owner, tracker, queue, landed, -⟩ :=
          site.landing acted
        exact ⟨m, member, flight, List.mem_of_find?_eq_some aloft,
          landed.felled site.floor here owner tracker found fine found' fatal⟩

/-! ## What comes after it -/

/-- What a step of a group leaves of a tracker that is closed: the slices of the tracker remain,
none of them is queued again, and every flight of one of them was a flight already. -/
structure Group.Spares (t : TrackerRef) (group group' : Group) : Prop where
  keeps : Floor.Keeps t group.floor group'.floor
  waiting : ∀ (i : SliceRef) (s : Slice), group.floor.slices[i]? = some s → s.owner = some t →
    ∀ q, (group'.floor.waiting q).count i ≤ (group.floor.waiting q).count i
  flights : ∀ (i : SliceRef) (s : Slice), group.floor.slices[i]? = some s → s.owner = some t →
    ∀ m' ∈ group'.managers, ∀ flight ∈ m'.flights, flight.slice = i →
      ∃ m ∈ group.managers, m.home = m'.home ∧ flight ∈ m.flights

theorem Group.Sound.spares_closed (sound : group.Sound) (step : group.Step group')
    (closed : group.floor.Closed t) : Group.Spares t group group' := by
  rcases sound.step_cases step with ⟨piece, rfl⟩ | rfl | ⟨m, member, next, m', moves, rfl⟩
  · refine ⟨⟨fun k found => ⟨k, found, rfl, rfl, rfl, rfl⟩, fun i s here owner => ?_,
      fun i s' there owner => ?_⟩, fun _ _ _ _ _ => Nat.le_refl _,
      fun _ _ _ _ m member flight aloft _ => ⟨m, member, rfl, aloft⟩⟩
    · refine ⟨s, ?_, .refl s⟩
      rw [Floor.slices_addSlice, if_neg (Floor.slice_ne_size here)]
      exact here
    · rw [Floor.slices_addSlice] at there
      split at there
      · cases there
        cases owner
      · exact ⟨s', there, owner⟩
  · exact ⟨.of_tables rfl rfl, fun _ _ _ _ _ => Nat.le_refl _,
      fun _ _ _ _ m member flight aloft _ => ⟨m, member, rfl, aloft⟩⟩
  · have spares := Moves.spares moves (sound.manager member) closed
    have home := (Moves.same moves).1
    refine ⟨spares.keeps, spares.waiting, fun i s here owner other inside flight aloft same => ?_⟩
    rcases (sound.mem_put member home).mp inside with rfl | ⟨old, -⟩
    · exact ⟨m, member, home.symm, spares.flights i s here owner flight aloft same⟩
    · exact ⟨other, old, rfl, aloft⟩

theorem Group.Sound.spares (sound : group.Sound) (step : group.Step group')
    (bars : group.floor.Bars t f) : Group.Spares t group group' :=
  sound.spares_closed step bars.closed

theorem Group.Sound.keeps_closed (sound : group.Sound) (closed : group.floor.Closed t)
    (run : group.Reach group') : Floor.Keeps t group.floor group'.floor := by
  induction run with
  | refl => exact .refl
  | tail before step ih =>
      have still := (sound.ages_reach before).closed closed
      exact ih.trans ((sound.reach before).spares_closed step still).keeps

theorem Group.Sound.keeps_reach (sound : group.Sound) (bars : group.floor.Bars t f)
    (run : group.Reach group') : Floor.Keeps t group.floor group'.floor :=
  sound.keeps_closed bars.closed run

/-! ## Submissions and reports -/

/-- A tracker that has failed answers every submission with its failure. -/
theorem Floor.enrol_barred {floor : Floor} (found : floor.trackers[t]? = some k)
    (here : floor.slices[i]? = some s) (fatal : k.fatal = some f) :
    floor.enrol t i = (floor, .error (.fatal f)) := by
  rw [Floor.enrol, found, here]
  simp only [fatal]

/-- As long as a failed tracker is held, its manager answers every submission for its job with the
failure, and nothing in the group changes. -/
theorem Group.Sound.submit_barred (sound : group.Sound)
    (found : group.floor.trackers[t]? = some k) (fatal : k.fatal = some f)
    (held : k.held = true) : ∃ m ∈ group.managers, m.queue = k.queue ∧
      m.tracker? k.descriptor.job.id = some t ∧
      ∀ (i : SliceRef) (s : Slice) (descriptor : Descriptor), group.floor.slices[i]? = some s →
        s.piece.job = descriptor.job.id → descriptor.job.id = k.descriptor.job.id →
        group.submit m.home.id i descriptor = (group, .error (.fatal f)) := by
  obtain ⟨m, member, queue⟩ := sound.served found
  have tracks := (sound.manager member).tracks
  have tracked : m.tracker? k.descriptor.job.id = some t :=
    Table.lookup_of_mem tracks.keys (tracks.held found held queue.symm)
  refine ⟨m, member, queue, tracked, fun i s descriptor here job same => ?_⟩
  rw [← same] at tracked
  rw [Group.submit, sound.manager?_of_mem member]
  simp only
  rw [Manager.submit_tracked here job tracked, Floor.enrol_barred found here fatal]
  simp only
  rw [sound.put_self member]

/-- Whatever other fatal failure is reported for a slice of a failed tracker is ignored, whether the
slice was completed, failed or cancelled. -/
theorem Floor.Bars.fail {floor : Floor} (bars : floor.Bars t f) (sound : floor.Sound)
    (here : floor.slices[i]? = some s) (owner : s.owner = some t) {g : FatalFailure}
    (other : g.serial ≠ f.serial) : floor.fail i (.fatal g) = (floor, false) := by
  have terminal := bars.terminal sound here owner
  have stays : s.fail? (.fatal g) = none := by
    rw [Slice.fail?, if_pos terminal]
  obtain ⟨k, found, fatal⟩ := bars
  rw [Floor.fail, Floor.moveBy_none here stays]
  simp only
  rw [Floor.report_ignored here owner found fun _ => ⟨f, fatal, Ne.symm other⟩]

/-! ## For ever -/

theorem Group.Reachable.fatal_for_ever {k' : Tracker} (reachable : group.Reachable)
    (step : group.Step group') (found : group.floor.trackers[t]? = some k) (fine : k.fatal = none)
    (found' : group'.floor.trackers[t]? = some k') (fatal : k'.fatal = some f)
    (run : group'.Reach last) :
    (∃ m ∈ group.managers, ∃ flight ∈ m.flights,
        Floor.Felled t f flight.slice group.floor last.floor) ∧
      (∀ i s, last.floor.slices[i]? = some s → s.owner = some t → s.state.IsTerminal ∧
        (∀ g, s.failure = some (.fatal g) → g = f) ∧
        ∀ g : FatalFailure, g.serial ≠ f.serial →
          last.floor.fail i (.fatal g) = (last.floor, false)) ∧
      (∀ k, last.floor.trackers[t]? = some k → k.held = true →
        ∃ m ∈ last.managers, m.queue = k.queue ∧ m.tracker? k.descriptor.job.id = some t ∧
          ∀ (i : SliceRef) (s : Slice) (descriptor : Descriptor),
            last.floor.slices[i]? = some s → s.piece.job = descriptor.job.id →
            descriptor.job.id = k.descriptor.job.id →
            last.submit m.home.id i descriptor = (last, .error (.fatal f))) ∧
      ∀ next, last.Step next → Group.Spares t last next := by
  have sound := reachable.sound
  obtain ⟨m, member, flight, aloft, felled⟩ := sound.recorded step found fine found' fatal
  have sound' := sound.step step
  have now := felled.keeps (sound'.keeps_reach felled.bars run)
  have clean := sound'.reach run
  refine ⟨⟨m, member, flight, aloft, now⟩, fun i s here owner => ?_, fun k known held => ?_,
    fun next further => clean.spares further now.bars⟩
  · exact ⟨now.bars.terminal clean.floor here owner,
      fun g failure => now.bars.fatal clean.floor here owner failure,
      fun g other => now.bars.fail clean.floor here owner other⟩
  · obtain ⟨k₁, known₁, fatal₁⟩ := now.bars
    rw [known] at known₁
    cases known₁
    exact clean.submit_barred known fatal₁ held

/-- One of two slices is with the processor. -/
def Group.fatalRun : List Group.Act :=
  [.build (.small 0), .build (.small 1), .build (.small 2), .on 1 .start, .on 1 (.submit 0 .small),
    .on 1 (.submit 1 .small), .on 1 .take, .on 1 .grant, .on 1 .proceed]

/-- It fails for good. -/
def Group.fatalEnd : Group.Act := .on 1 (.land 0 (.answers (.fatal "gone")))

/-- A third slice is submitted, and the worker skips the second. -/
def Group.fatalRest : List Group.Act :=
  [.on 1 (.submit 2 .small), .on 1 .take, .on 1 .grant, .on 1 .proceed]

theorem Group.fatal_for_ever_small :
    ∃ last, last = Group.smallAfter (fatalRun ++ [fatalEnd] ++ fatalRest) ∧
      last.floor.stateOf? 0 = some .failed ∧ last.floor.stateOf? 1 = some .cancelled ∧
      (∃ m ∈ (Group.smallAfter fatalRun).managers, ∃ flight ∈ m.flights,
        Floor.Felled 0 ⟨1, "gone"⟩ flight.slice (Group.smallAfter fatalRun).floor last.floor) ∧
      ∀ next, last.Step next → Group.Spares 0 last next := by
  have before : ((Group.smallAfter fatalRun).floor.trackers[0]?).map Tracker.fatal = some none := by
    decide
  have after : ((Group.smallAfter (fatalRun ++ [fatalEnd])).floor.trackers[0]?).map Tracker.fatal =
      some (some ⟨1, "gone"⟩) := by
    decide
  obtain ⟨k, found, fine⟩ := Option.map_eq_some_iff.mp before
  obtain ⟨k', found', fatal⟩ := Option.map_eq_some_iff.mp after
  have run : (Group.smallAfter (fatalRun ++ [fatalEnd])).Reach
      (Group.smallAfter (fatalRun ++ [fatalEnd] ++ fatalRest)) := Group.reach_smallAfter (by decide)
  have always := Group.Reachable.fatal_for_ever (Group.reachable_smallAfter fatalRun)
    (Group.step_smallAfter (by decide)) found fine found' fatal run
  exact ⟨_, rfl, by decide, by decide, always.1, always.2.2.2⟩

end Restage
