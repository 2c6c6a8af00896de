import Restage.Proofs.Manager.Ages

/-!
# Trackers that are closed

A tracker is closed once it has recorded a fatal failure (`Floor.Bars`) or was let go
(`Floor.LetGo`). From then on no move changes what became of its slices: `Floor.Keeps` is that
frame, `Manager.Move.spares` its proof, and `Manager.Site.Spares` adds that none of the slices is
queued again or handed to the processor.

Only the outcome of a flight records a failure (`Manager.Site.Sound.fatal_of_act`).
-/

namespace Restage

open Manager

variable {floor next last : Floor} {m m' : Manager} {t u : TrackerRef} {k k₁ k₂ : Tracker}
  {i : SliceRef} {s : Slice} {f : FatalFailure}

/-- Tracker `t` has recorded the failure `f`. -/
def Floor.Bars (t : TrackerRef) (f : FatalFailure) (floor : Floor) : Prop :=
  ∃ k, floor.trackers[t]? = some k ∧ k.fatal = some f

/-- Nobody holds tracker `t` any more. -/
def Floor.LetGo (t : TrackerRef) (floor : Floor) : Prop :=
  ∃ k, floor.trackers[t]? = some k ∧ k.held = false

/-- Tracker `t` takes no slices any more. -/
def Floor.Closed (t : TrackerRef) (floor : Floor) : Prop :=
  ∃ k, floor.trackers[t]? = some k ∧ (k.fatal.isSome = true ∨ k.held = false)

theorem Floor.Bars.closed (bars : floor.Bars t f) : floor.Closed t := by
  obtain ⟨k, found, fatal⟩ := bars
  exact ⟨k, found, Or.inl (by rw [fatal]; rfl)⟩

theorem Floor.LetGo.closed (gone : floor.LetGo t) : floor.Closed t := by
  obtain ⟨k, found, held⟩ := gone
  exact ⟨k, found, Or.inr held⟩

theorem Floor.Ages.letGo (ages : Floor.Ages floor next) (gone : floor.LetGo t) : next.LetGo t := by
  obtain ⟨k, found, held⟩ := gone
  obtain ⟨k', found', older⟩ := ages.tracker t k found
  exact ⟨k', found', older.letGo held⟩

theorem Floor.Ages.closed (ages : Floor.Ages floor next) (closed : floor.Closed t) :
    next.Closed t := by
  obtain ⟨k, found, either⟩ := closed
  obtain ⟨k', found', older⟩ := ages.tracker t k found
  refine ⟨k', found', either.imp (fun failed => ?_) older.letGo⟩
  obtain ⟨f, fatal⟩ := Option.isSome_iff_exists.mp failed
  rw [older.fatal f fatal]
  rfl

/-- All of a tracker's slices have ended once it is closed. -/
theorem Floor.Closed.terminal (closed : floor.Closed t) (sound : floor.Sound)
    (here : floor.slices[i]? = some s) (owner : s.owner = some t) : s.state.IsTerminal := by
  obtain ⟨k, found, either⟩ := closed
  obtain ⟨-, -, governs⟩ := sound.owned here owner found
  exact governs.ended either

theorem Floor.Bars.terminal (bars : floor.Bars t f) (sound : floor.Sound)
    (here : floor.slices[i]? = some s) (owner : s.owner = some t) : s.state.IsTerminal :=
  bars.closed.terminal sound here owner

/-- A slice of a failed tracker that failed for good carries the tracker's failure. -/
theorem Floor.Bars.fatal (bars : floor.Bars t f) (sound : floor.Sound)
    (here : floor.slices[i]? = some s) (owner : s.owner = some t) {g : FatalFailure}
    (failure : s.failure = some (.fatal g)) : g = f := by
  obtain ⟨k, found, fatal⟩ := bars
  obtain ⟨-, -, governs⟩ := sound.owned here owner found
  exact Option.some.inj ((governs.fatal g failure).symm.trans fatal)

/-- A tracker that is held and has not failed is another one. -/
theorem Floor.Closed.apart (closed : floor.Closed t) (found : floor.trackers[u]? = some k)
    (fine : k.fatal = none) (held : k.held = true) : t ≠ u := by
  rintro rfl
  obtain ⟨k', found', either⟩ := closed
  rw [found] at found'
  cases found'
  rcases either with failed | gone
  · rw [fine] at failed
    cases failed
  · rw [held] at gone
    cases gone

/-! ## What is kept -/

/-- A slice is what it was, but for what is noted of its replicas. -/
def Slice.Remains (s s' : Slice) : Prop := s' = { s with replicaStatus := s'.replicaStatus }

theorem Slice.Remains.refl (s : Slice) : s.Remains s := rfl

theorem Slice.Remains.trans {s s' s'' : Slice} (first : s.Remains s') (second : s'.Remains s'') :
    s.Remains s'' := by
  rw [Slice.Remains] at *
  rw [second, first]

theorem Slice.Remains.owner {s s' : Slice} (remains : s.Remains s') : s'.owner = s.owner := by
  rw [remains]

/-- Tracker `t` keeps its failure, its members, its queue and its job, and its slices remain. -/
structure Floor.Keeps (t : TrackerRef) (floor next : Floor) : Prop where
  tracker : ∀ k, floor.trackers[t]? = some k → ∃ k', next.trackers[t]? = some k' ∧
    k'.fatal = k.fatal ∧ k'.members = k.members ∧ k'.queue = k.queue ∧
    k'.descriptor.job.id = k.descriptor.job.id
  slice : ∀ (i : SliceRef) (s : Slice), floor.slices[i]? = some s → s.owner = some t →
    ∃ s', next.slices[i]? = some s' ∧ s.Remains s'
  only : ∀ (i : SliceRef) (s' : Slice), next.slices[i]? = some s' → s'.owner = some t →
    ∃ s, floor.slices[i]? = some s ∧ s.owner = some t

theorem Floor.Keeps.refl : Floor.Keeps t floor floor where
  tracker := fun k found => ⟨k, found, rfl, rfl, rfl, rfl⟩
  slice := fun _ s here _ => ⟨s, here, .refl s⟩
  only := fun _ s there owner => ⟨s, there, owner⟩

theorem Floor.Keeps.of_tables (trackers : next.trackers = floor.trackers)
    (slices : next.slices = floor.slices) : Floor.Keeps t floor next where
  tracker := fun k found => ⟨k, by rw [trackers]; exact found, rfl, rfl, rfl, rfl⟩
  slice := fun _ s here _ => ⟨s, by rw [slices]; exact here, .refl s⟩
  only := fun _ s there owner => ⟨s, by rw [← slices]; exact there, owner⟩

theorem Floor.Keeps.trans (first : Floor.Keeps t floor next) (second : Floor.Keeps t next last) :
    Floor.Keeps t floor last where
  tracker := fun k found => by
    obtain ⟨k', found', fatal', members', queue', job'⟩ := first.tracker k found
    obtain ⟨k'', found'', fatal'', members'', queue'', job''⟩ := second.tracker k' found'
    exact ⟨k'', found'', fatal''.trans fatal', members''.trans members', queue''.trans queue',
      job''.trans job'⟩
  slice := fun i s here owner => by
    obtain ⟨s', there, remains⟩ := first.slice i s here owner
    have owner' := remains.owner.trans owner
    obtain ⟨s'', there', remains'⟩ := second.slice i s' there owner'
    exact ⟨s'', there', remains.trans remains'⟩
  only := fun i s' there owner => by
    obtain ⟨s₁, before, owner₁⟩ := second.only i s' there owner
    exact first.only i s₁ before owner₁

/-- A change that concerns another tracker. -/
theorem Floor.Reworks.keeps (rework : Floor.Reworks u k₁ k₂ floor next) (other : t ≠ u) :
    Floor.Keeps t floor next where
  tracker := fun k found => ⟨k, (rework.others t other).trans found, rfl, rfl, rfl, rfl⟩
  slice := fun i s here owner => by
    refine ⟨s, rework.outside i s here ?_, .refl s⟩
    rw [owner]
    exact fun same => other (Option.some.inj same)
  only := fun i s' there owner => by
    rcases rework.slice_cases there with ⟨here, -⟩ | ⟨-, -, -, owned, -⟩
    · exact ⟨s', here, owner⟩
    · rw [owned] at owner
      exact absurd (Option.some.inj owner).symm other

/-- A change of the tracker itself that leaves its failure and its slices alone. -/
theorem Floor.Reworks.keeps_own (rework : Floor.Reworks t k₁ k₂ floor next)
    (fatal : k₂.fatal = k₁.fatal)
    (slice : ∀ (i : SliceRef) (s : Slice), floor.slices[i]? = some s → s.owner = some t →
      ∃ s', next.slices[i]? = some s' ∧ s.Remains s') : Floor.Keeps t floor next where
  tracker := fun k found => by
    rw [rework.before] at found
    cases found
    exact ⟨k₂, rework.after, fatal, rework.members, rework.queue, rework.job⟩
  slice := slice
  only := fun i s' there owner => by
    rcases rework.slice_cases there with ⟨-, foreign⟩ | ⟨s, here, owned, -, -⟩
    · exact absurd owner foreign
    · exact ⟨s, here, owned⟩

theorem Floor.Keeps.admitted (found : floor.trackers[u]? = some k)
    (here : floor.slices[i]? = some s) (free : s.owner = none) (other : t ≠ u) :
    Floor.Keeps t floor (floor.admitted u k i s) where
  tracker := fun k' found' => by
    refine ⟨k', ?_, rfl, rfl, rfl, rfl⟩
    rw [Floor.trackers_admitted found, if_neg (Ne.symm other)]
    exact found'
  slice := fun j s' there owner =>
    ⟨s', Floor.slices_admitted_of_bound here free there owner, .refl s'⟩
  only := fun j s' there owner => by
    rw [Floor.slices_admitted here] at there
    split at there
    · cases there
      exact absurd (Option.some.inj owner).symm other
    · exact ⟨s', there, owner⟩

theorem Floor.Keeps.addTracker {tracker : Tracker} :
    Floor.Keeps t floor (floor.addTracker tracker).1 where
  tracker := fun k found => by
    refine ⟨k, ?_, rfl, rfl, rfl, rfl⟩
    rw [Floor.trackers_addTracker, if_neg (Floor.tracker_ne_size found)]
    exact found
  slice := fun _ s here _ => ⟨s, here, .refl s⟩
  only := fun _ s there owner => ⟨s, there, owner⟩

/-- Letting go of a tracker, be it the closed one, whose slices have all ended. -/
theorem Floor.Closed.keeps_discarded (closed : floor.Closed t) (sound : floor.Sound)
    (found : floor.trackers[u]? = some k) : Floor.Keeps t floor (floor.discarded u) := by
  have rework := Floor.Reworks.discarded sound found
  by_cases same : t = u
  · subst same
    refine rework.keeps_own rfl fun i s here owner => ⟨s, ?_, .refl s⟩
    rw [sound.slices_discarded found here owner,
      s.cancelled_of_terminal (closed.terminal sound here owner)]
  · exact rework.keeps same

/-- An outcome of a slice of the closed tracker comes late, since the slice has ended. -/
theorem Floor.Closed.keeps_landed {replica : String} {outcome : Outcome} (closed : floor.Closed t)
    (sound : floor.Sound) (here : floor.slices[i]? = some s) (owner : s.owner = some u)
    (found : floor.trackers[u]? = some k)
    (landed : Floor.Landed floor u k i s replica outcome next) : Floor.Keeps t floor next := by
  by_cases same : t = u
  · subst same
    have ended := closed.terminal sound here owner
    cases landed with
    | completed pending | failed pending | doomed pending =>
        rw [pending] at ended
        exact absurd ended (by decide)
    | late statuses cancelled noted slices trackers queues minted =>
        have rework : Floor.Reworks t k k floor next :=
          .of_slice { s with replicaStatus := statuses } found here owner rfl rfl slices trackers
            minted
        refine rework.keeps_own rfl fun j s' there _ => ?_
        rw [slices]
        split
        · next same =>
            subst same
            rw [here] at there
            cases there
            exact ⟨_, rfl, rfl⟩
        · exact ⟨s', there, .refl s'⟩
  · obtain ⟨fatal, rework⟩ := landed.reworks sound here owner found
    exact rework.keeps same

/-! ## Moves around a closed tracker -/

/-- What a closed tracker keeps while its manager or another one works: no slice of it comes into a
queue once more, and none takes off. -/
structure Manager.Site.Spares (t : TrackerRef) (site site' : Site) : Prop where
  keeps : Floor.Keeps t site.1 site'.1
  waiting : ∀ (i : SliceRef) (s : Slice), site.1.slices[i]? = some s → s.owner = some t →
    ∀ q, (site'.1.waiting q).count i ≤ (site.1.waiting q).count i
  flights : ∀ (i : SliceRef) (s : Slice), site.1.slices[i]? = some s → s.owner = some t →
    ∀ flight ∈ site'.2.flights, flight.slice = i → flight ∈ site.2.flights

theorem Manager.Site.Spares.refl {site : Site} : Site.Spares t site site where
  keeps := .refl
  waiting := fun _ _ _ _ _ => Nat.le_refl _
  flights := fun _ _ _ _ _ member _ => member

theorem Manager.Site.Spares.trans {first second third : Site} (start : Site.Spares t first second)
    (after : Site.Spares t second third) : Site.Spares t first third where
  keeps := start.keeps.trans after.keeps
  waiting := fun i s here owner q => by
    obtain ⟨s', there, remains⟩ := start.keeps.slice i s here owner
    have owner' := remains.owner.trans owner
    exact Nat.le_trans (after.waiting i s' there owner' q) (start.waiting i s here owner q)
  flights := fun i s here owner flight member same => by
    obtain ⟨s', there, remains⟩ := start.keeps.slice i s here owner
    have owner' := remains.owner.trans owner
    exact start.flights i s here owner flight (after.flights i s' there owner' flight member same)
      same

theorem Manager.Site.Spares.of_queues {site site' : Site} (keeps : Floor.Keeps t site.1 site'.1)
    (queues : site'.1.queues = site.1.queues) (flights : site'.2.flights.Sublist site.2.flights) :
    Site.Spares t site site' where
  keeps := keeps
  waiting := fun i s _ _ q => Nat.le_of_eq (by rw [Floor.waiting, Floor.waiting, queues])
  flights := fun _ _ _ _ _ member _ => flights.mem member

/-- Putting another slice at the end of a queue. -/
theorem Floor.count_waiting_push {j : SliceRef} {p : QueueRef} (other : j ≠ i)
    (queues : ∀ r : QueueRef, next.queues[r]? =
      if p = r then (floor.queues[r]?).map fun found => found.push j else floor.queues[r]?)
    (q : QueueRef) : (next.waiting q).count i ≤ (floor.waiting q).count i := by
  rw [Floor.waiting, Floor.waiting, queues]
  by_cases same : p = q
  · rw [if_pos same]
    cases floor.queues[q]? with
    | none => exact Nat.le_refl _
    | some found =>
        simp only [Option.map_some]
        rw [Queue.push]
        split
        · exact Nat.le_refl _
        · rw [List.count_append, List.count_cons_of_ne other, List.count_nil]
          exact Nat.le_refl _
  · exact Nat.le_of_eq (by rw [if_neg same])

/-- Taking slices out of a queue. -/
theorem Floor.count_waiting_sublist {p : QueueRef} {change : Queue → Queue}
    (fewer : ∀ found, floor.queues[p]? = some found →
      (change found).waiting.Sublist found.waiting) (q : QueueRef) :
    ((floor.modifyQueue p change).waiting q).count i ≤ (floor.waiting q).count i := by
  rw [Floor.waiting, Floor.waiting, Floor.queues_modifyQueue]
  by_cases same : p = q
  · subst same
    rw [if_pos rfl]
    cases here : floor.queues[p]? with
    | none => exact Nat.le_refl _
    | some found => exact (fewer found here).count_le i
  · exact Nat.le_of_eq (by rw [if_neg same])

theorem Manager.Move.spares {site site' : Site} (move : Move site site') (sound : site.1.Sound)
    (closed : site.1.Closed t) : Site.Spares t site site' := by
  cases move with
  | track new => exact .of_queues .addTracker rfl (.refl _)
  | @accept floor m u k j s found queue held fine here free job new =>
      have other := closed.apart found fine held
      refine ⟨.admitted found here free other, fun i s' there owner => ?_, fun _ _ _ _ _ member _ =>
        member⟩
      refine Floor.count_waiting_push (j := j) (p := k.queue) ?_ fun r => ?_
      · exact Floor.slice_ne_of_owner here there (by rw [free, owner]; exact nofun)
      · rw [Floor.admitted, Floor.queues_enqueue]
        rfl
  | @reopen floor m u k j s found queue held fine here owner failed =>
      have other := closed.apart found fine held
      refine ⟨(Floor.Reworks.reopened found here owner).keeps other,
        fun i s' there owner' => ?_, fun _ _ _ _ _ member _ => member⟩
      refine Floor.count_waiting_push (j := j) (p := k.queue) ?_ fun r => ?_
      · refine Floor.slice_ne_of_owner here there ?_
        rw [owner, owner']
        exact fun same => other (Option.some.inj same).symm
      · rw [Floor.reopened, Floor.queues_enqueue]
        rfl
  | @update floor m u k descriptor found queue job =>
      have rework := Floor.Reworks.described found job
      refine .of_queues ?_ rfl (.refl _)
      by_cases same : t = u
      · subst same
        exact rework.keeps_own rfl fun i s here _ => ⟨s, here, .refl s⟩
      · exact rework.keeps same
  | discard found queue tracked =>
      exact .of_queues (closed.keeps_discarded sound found) Floor.queues_discarded (.refl _)
  | land aloft here owner found queue landed =>
      exact .of_queues (closed.keeps_landed sound here owner found landed) landed.queues
        List.filter_sublist
  | start unborn => exact .of_queues .refl rfl (.refl _)
  | stop => exact .of_queues .refl rfl (.refl _)
  | @take floor m q i rest idle queue waiting =>
      refine ⟨.of_tables rfl rfl, fun j s _ _ => ?_, fun _ _ _ _ _ member _ => member⟩
      refine Floor.count_waiting_sublist fun found here => ?_
      rw [queue] at here
      cases here
      rw [waiting]
      exact List.sublist_cons_self _ _
  | grant waiting permit =>
      refine ⟨.of_tables rfl rfl, fun j s _ _ => ?_, fun _ _ _ _ _ member _ => member⟩
      exact Floor.count_waiting_sublist fun found _ => List.Sublist.refl _
  | @pass floor m j s ready here pending =>
      refine ⟨.of_tables rfl rfl, fun _ _ _ _ _ => Nat.le_refl _,
        fun i s' there owner flight member same => ?_⟩
      refine (List.mem_append.mp member).resolve_right fun new => ?_
      rw [List.mem_singleton] at new
      subst new
      subst same
      rw [here] at there
      cases there
      have ended := closed.terminal sound here owner
      rw [pending] at ended
      exact absurd ended (by decide)
  | skip ready past => exact .of_queues .refl rfl (.refl _)
  | quit stopping =>
      refine ⟨.of_tables rfl rfl, fun j s _ _ => ?_, fun _ _ _ _ _ member _ => member⟩
      exact Floor.count_waiting_sublist fun found _ => List.nil_sublist _

theorem Manager.Moves.spares {site site' : Site} (moves : Moves site site') (sound : site.Sound)
    (closed : site.1.Closed t) : Site.Spares t site site' := by
  induction moves with
  | refl => exact .refl
  | tail before move ih =>
      have clean := Moves.sound before sound
      exact ih.trans (move.spares clean.floor ((Moves.ages before sound).closed closed))

/-! ## Who records a failure -/

/-- No tracker has a failure more than before. -/
def Floor.SameFatals (floor next : Floor) : Prop :=
  ∀ (t : TrackerRef) (k : Tracker), floor.trackers[t]? = some k →
    ∃ k', next.trackers[t]? = some k' ∧ k'.fatal = k.fatal

theorem Floor.SameFatals.refl : Floor.SameFatals floor floor := fun _ k found => ⟨k, found, rfl⟩

theorem Floor.SameFatals.of_trackers (trackers : next.trackers = floor.trackers) :
    Floor.SameFatals floor next := fun _ k found => ⟨k, by rw [trackers]; exact found, rfl⟩

theorem Floor.SameFatals.trans (first : Floor.SameFatals floor next)
    (second : Floor.SameFatals next last) : Floor.SameFatals floor last := by
  intro t k found
  obtain ⟨k', found', fatal'⟩ := first t k found
  obtain ⟨k'', found'', fatal''⟩ := second t k' found'
  exact ⟨k'', found'', fatal''.trans fatal'⟩

theorem Floor.Reworks.sameFatals (rework : Floor.Reworks t k₁ k₂ floor next)
    (fatal : k₂.fatal = k₁.fatal) : Floor.SameFatals floor next := by
  intro u k found
  by_cases same : u = t
  · subst same
    rw [rework.before] at found
    cases found
    exact ⟨k₂, rework.after, fatal⟩
  · exact ⟨k, (rework.others u same).trans found, rfl⟩

theorem Floor.SameFatals.addTracker {tracker : Tracker} :
    Floor.SameFatals floor (floor.addTracker tracker).1 := by
  intro t k found
  obtain ⟨k', found', fatal, -⟩ := Floor.Keeps.addTracker.tracker k found
  exact ⟨k', found', fatal⟩

theorem Floor.Enrolled.sameFatals {answer : Except JobFault Standing}
    (enrolled : Floor.Enrolled floor t k i s next answer) (sound : floor.Sound)
    (found : floor.trackers[t]? = some k) : Floor.SameFatals floor next := by
  cases enrolled with
  | barred | finished | underway | elsewhere => exact .refl
  | again fine member there state =>
      obtain ⟨owner, -⟩ := sound.owner_of_member found (Table.mem_of_lookup member) there
      exact (Floor.Reworks.reopened found there owner).sameFatals rfl
  | admitted fine new free =>
      intro u k' found'
      rw [Floor.trackers_admitted found]
      split
      · next same =>
          subst same
          rw [found] at found'
          cases found'
          exact ⟨_, rfl, rfl⟩
      · exact ⟨k', found', rfl⟩

theorem Manager.Site.Sound.submit_sameFatals (sound : Site.Sound (floor, m))
    (descriptor : Descriptor) : Floor.SameFatals floor (m.submit floor i descriptor).1 := by
  have submitted := sound.submitted i descriptor
  generalize m.submit floor i descriptor = result at submitted
  cases submitted with
  | absent absent => exact .refl
  | foreign here foreign => exact .refl
  | tracked here of tracked found held queue label enrolled =>
      exact enrolled.sameFatals sound.floor found
  | first here of new found enrolled =>
      have clean := sound.floor.addTracker descriptor m.queue
      exact Floor.SameFatals.addTracker.trans (enrolled.sameFatals clean found)

theorem Manager.Site.Sound.remove_sameFatals {site : Site} (sound : site.Sound) (job : TimeId) :
    Floor.SameFatals site.1 (site.2.removeJob site.1 job).1 := by
  cases tracked : site.2.tracker? job with
  | none =>
      rw [Manager.removeJob_of_unknown tracked]
      exact .refl
  | some t =>
      obtain ⟨k, found, -⟩ := sound.tracks.of_tracked tracked
      rw [Manager.removeJob_of_tracked tracked]
      exact (Floor.Reworks.discarded sound.floor found).sameFatals rfl

theorem Manager.Site.Sound.removeAll_sameFatals {site : Site} (sound : site.Sound)
    (jobs : List TimeId) : Floor.SameFatals site.1 (site.2.removeAll site.1 jobs).1 := by
  induction jobs generalizing site with
  | nil => exact .refl
  | cons job rest ih =>
      have first := Moves.remove sound job
      exact (sound.remove_sameFatals job).trans (ih (first.sound sound))

/-- An act that is not the end of a flight records no failure. -/
theorem Manager.Site.Sound.fatal_of_act {site site' : Site} (sound : site.Sound) {act : Act}
    (done : Manager.act? site act = some site') :
    Floor.SameFatals site.1 site'.1 ∨ ∃ number ending, act = .land number ending := by
  cases act with
  | land number ending => exact Or.inr ⟨number, ending, rfl⟩
  | submit i descriptor =>
      cases done
      exact Or.inl (sound.submit_sameFatals descriptor)
  | update descriptor =>
      cases done
      refine Or.inl ?_
      rw [Manager.updateJob]
      cases tracked : site.2.tracker? descriptor.job.id with
      | none => exact .refl
      | some t =>
          obtain ⟨k, found, -, -, label⟩ := sound.tracks.of_tracked tracked
          exact (Floor.Reworks.described found label).sameFatals rfl
  | remove job =>
      cases done
      exact Or.inl (sound.remove_sameFatals job)
  | sweep trouble now disk =>
      have sweep := site.2.sweep_eq site.1 trouble now disk
      rw [← Option.some.inj (done.symm.trans (congrArg some sweep)).symm]
      exact Or.inl (sound.removeAll_sameFatals _)
  | start | stop =>
      cases done
      exact Or.inl .refl
  | take => exact Or.inl (.of_trackers (Manager.take?_tables done).1)
  | grant => exact Or.inl (.of_trackers (Manager.obtain?_tables done).1)
  | proceed => exact Or.inl (.of_trackers (Manager.proceed?_tables done).1)
  | quit => exact Or.inl (.of_trackers (Manager.quit?_tables done).1)

end Restage
