import Restage.Proofs.Group.Fatality
import Restage.Proofs.Manager.Pages

/-!
# Letting go of a job

A manager lets go of a job when it is told to remove it, or when a sweep deletes the job's
directory. `Floor.Clears` is what that does to the job's tracker: its slices that have not ended are
cancelled, the others stay as they are, and nobody holds the tracker any more.

That is for good. The tracker is closed, so none of its slices is ever PENDING, queued or handed to
the processor again. What the processor still says about one of them is noted on that slice alone
(`Floor.Notes`), so it cannot reach a tracker that was made for the job later on.
`Group.Reachable.removal_is_final` puts this together.
-/

namespace Restage

open Manager

variable {group group' last : Group} {floor next : Floor} {m : Manager} {job : TimeId}
  {t : TrackerRef} {k : Tracker} {i : SliceRef} {s : Slice}

/-- The jobs that an act lets go of. -/
def Manager.Act.removes (m : Manager) : Manager.Act → List TimeId
  | remove job => [job]
  | sweep trouble now disk => m.cleared trouble now disk
  | _ => []

/-- Tracker `t` was let go, and its slices were told to cancel. -/
structure Floor.Clears (t : TrackerRef) (floor next : Floor) : Prop where
  letGo : next.LetGo t
  slice : ∀ (i : SliceRef) (s : Slice), floor.slices[i]? = some s → s.owner = some t →
    next.slices[i]? = some s.cancelled

/-- At most the statuses of the replicas of slice `i` differ. -/
structure Floor.Notes (i : SliceRef) (floor next : Floor) : Prop where
  trackers : next.trackers = floor.trackers
  queues : next.queues = floor.queues
  others : ∀ j : SliceRef, j ≠ i → next.slices[j]? = floor.slices[j]?
  own : ∀ s, floor.slices[i]? = some s → ∃ s', next.slices[i]? = some s' ∧ s.Remains s'

/-! ## The step -/

theorem Floor.Clears.discarded (sound : floor.Sound) (found : floor.trackers[t]? = some k) :
    Floor.Clears t floor (floor.discarded t) :=
  ⟨⟨_, (Floor.Reworks.discarded sound found).after, rfl⟩, fun _ _ here owner =>
    sound.slices_discarded found here owner⟩

/-- Removing jobs leaves the slices of a tracker alone that was let go before. -/
theorem Manager.Site.Sound.slices_removeAll {site : Site} (sound : site.Sound)
    (gone : site.1.LetGo t) (here : site.1.slices[i]? = some s) (owner : s.owner = some t)
    (jobs : List TimeId) : (site.2.removeAll site.1 jobs).1.slices[i]? = some s := by
  induction jobs generalizing site with
  | nil => exact here
  | cons head rest ih =>
      have first := Moves.remove sound head
      have still := (Moves.ages first sound).letGo gone
      rw [Manager.removeAll]
      apply ih (first.sound sound) still
      cases tracked : site.2.tracker? head with
      | none =>
          rw [Manager.removeJob_of_unknown tracked]
          exact here
      | some u =>
          obtain ⟨k, known, held⟩ := gone
          have other := sound.tracks.ne_of_let_go known held tracked
          obtain ⟨k', found, -⟩ := sound.tracks.of_tracked tracked
          rw [Manager.removeJob_of_tracked tracked]
          refine (Floor.Reworks.discarded sound.floor found).outside i s here ?_
          rw [owner]
          exact fun same => other (Option.some.inj same).symm

theorem Manager.Site.Sound.clears_removeAll {site : Site} (sound : site.Sound)
    (tracked : site.2.tracker? job = some t) {jobs : List TimeId} (listed : job ∈ jobs) :
    Floor.Clears t site.1 (site.2.removeAll site.1 jobs).1 := by
  induction jobs generalizing site with
  | nil => cases listed
  | cons head rest ih =>
      have first := Moves.remove sound head
      have clean := first.sound sound
      rw [Manager.removeAll]
      by_cases same : job = head
      · subst same
        obtain ⟨k, found, -⟩ := sound.tracks.of_tracked tracked
        rw [Manager.removeJob_of_tracked tracked] at clean ⊢
        have cleared := Floor.Clears.discarded sound.floor found
        have later := Moves.removeAll clean rest
        refine ⟨(Moves.ages later clean).letGo cleared.letGo, fun i s here owner => ?_⟩
        exact clean.slices_removeAll cleared.letGo (cleared.slice i s here owner)
          (s.owner_cancelled.trans owner) rest
      · have remaining := (List.mem_cons.mp listed).resolve_left same
        cases other : site.2.tracker? head with
        | none =>
            rw [Manager.removeJob_of_unknown other] at clean ⊢
            exact ih clean tracked remaining
        | some u =>
            have apart : t ≠ u := by
              rintro rfl
              exact same (sound.tracks.job_unique tracked other)
            obtain ⟨k, found, -⟩ := sound.tracks.of_tracked other
            rw [Manager.removeJob_of_tracked other] at clean ⊢
            have tracked' : (site.2.without head).tracker? job = some t := by
              rw [Manager.tracker?_without sound.tracks.keys same]
              exact tracked
            have cleared := ih clean tracked' remaining
            refine ⟨cleared.letGo, fun i s here owner => cleared.slice i s ?_ owner⟩
            refine (Floor.Reworks.discarded sound.floor found).outside i s here ?_
            rw [owner]
            exact fun equal => apart (Option.some.inj equal)

theorem Manager.Site.Sound.clears {site site' : Site} (sound : site.Sound) {act : Act}
    (tracked : site.2.tracker? job = some t) (removes : job ∈ act.removes site.2)
    (done : Manager.act? site act = some site') : Floor.Clears t site.1 site'.1 := by
  cases act with
  | remove other =>
      cases done
      exact sound.clears_removeAll tracked removes
  | sweep trouble now disk =>
      have sweep := site.2.sweep_eq site.1 trouble now disk
      rw [← Option.some.inj (done.symm.trans (congrArg some sweep)).symm]
      exact sound.clears_removeAll tracked removes
  | submit | update | start | stop | take | grant | proceed | quit | land => cases removes

/-! ## What comes after it -/

/-- A slice finds no descriptor through a tracker that was let go. -/
theorem Floor.LetGo.descriptorOf? (gone : floor.LetGo t) (here : floor.slices[i]? = some s)
    (owner : s.owner = some t) : floor.descriptorOf? i = none := by
  obtain ⟨k, found, held⟩ := gone
  unfold Floor.descriptorOf?
  rw [here, Option.bind_eq_bind, Option.bind_some, Floor.keeper?_of_let_go owner found held]
  rfl

/-- What is said about a slice of a closed tracker is noted on the slice alone. -/
theorem Floor.Landed.notes {replica : String} {outcome : Outcome}
    (landed : Floor.Landed floor t k i s replica outcome next) (sound : floor.Sound)
    (closed : floor.Closed t) (here : floor.slices[i]? = some s) (owner : s.owner = some t) :
    Floor.Notes i floor next := by
  have ended := closed.terminal sound here owner
  cases landed with
  | completed pending | failed pending | doomed pending =>
      rw [pending] at ended
      exact absurd ended (by decide)
  | late statuses cancelled noted slices trackers queues minted =>
      refine ⟨trackers, queues, fun j other => ?_, fun s' before => ?_⟩
      · rw [slices, if_neg (Ne.symm other)]
      · rw [here] at before
        cases before
        exact ⟨{ s with replicaStatus := statuses }, by rw [slices, if_pos rfl], rfl⟩

theorem Manager.Site.Sound.notes {site site' : Site} (sound : site.Sound)
    (closed : site.1.Closed t) {flight : Flight} {outcome : Outcome}
    (aloft : flight ∈ site.2.flights) (here : site.1.slices[flight.slice]? = some s)
    (owner : s.owner = some t)
    (landed : site.2.land? site.1 flight.number outcome = some site') :
    Floor.Notes flight.slice site.1 site'.1 := by
  obtain ⟨found, u, k, s', first, there, owner', -, -, landing, -⟩ := sound.landing landed
  have number : found.number = flight.number := by simpa using List.find?_some first
  have same : found = flight :=
    List.inj_on_of_nodup_map sound.numbers.own (List.mem_of_find?_eq_some first) aloft number
  subst same
  rw [here] at there
  cases there
  rw [owner] at owner'
  cases owner'
  exact landing.notes sound.floor closed here owner

theorem Group.Reachable.removal_is_final {id : UInt32} {act : Manager.Act}
    (reachable : group.Reachable) (managed : group.manager? id = some m)
    (tracked : m.tracker? job = some t) (removes : job ∈ act.removes m)
    (step : group.act? (.on id act) = some group') (run : group'.Reach last) :
    (∀ (i : SliceRef) (s : Slice), group.floor.slices[i]? = some s → s.owner = some t →
      (∃ s', group'.floor.slices[i]? = some s' ∧
        (s.state = .created ∨ s.state = .pending →
          s'.state = .cancelled ∧ s'.tokenCancelled = true) ∧
        (s.state = .completed ∨ s.state = .failed → s' = s)) ∧
      ∃ s', last.floor.slices[i]? = some s' ∧ s.cancelled.Remains s') ∧
      (∀ (i : SliceRef) (s : Slice), last.floor.slices[i]? = some s → s.owner = some t →
        s.state.IsTerminal ∧ last.floor.descriptorOf? i = none) ∧
      (∀ next, last.Step next → Group.Spares t last next) ∧
      (∀ (id : UInt32) (m : Manager) (flight : Flight) (s : Slice) (ending : Ending) (next : Group),
        last.manager? id = some m → flight ∈ m.flights →
        last.floor.slices[flight.slice]? = some s → s.owner = some t →
        last.act? (.on id (.land flight.number ending)) = some next →
        Floor.Notes flight.slice last.floor next.floor) := by
  have sound := reachable.sound
  obtain ⟨member, -⟩ := Group.mem_of_manager? managed
  obtain ⟨m₁, floor', m', managed', acted, rfl⟩ := Group.act?_on step
  rw [managed] at managed'
  cases managed'
  have cleared := (sound.manager member).clears tracked removes acted
  have sound' := sound.step ⟨_, step⟩
  have keeps := sound'.keeps_closed cleared.letGo.closed run
  have gone := (sound'.ages_reach run).letGo cleared.letGo
  have clean := sound'.reach run
  refine ⟨fun i s here owner => ⟨⟨s.cancelled, cleared.slice i s here owner, ?_, ?_⟩, ?_⟩,
    fun i s here owner => ⟨gone.closed.terminal clean.floor here owner,
      gone.descriptorOf? here owner⟩,
    fun next further => clean.spares_closed further gone.closed, ?_⟩
  · intro running
    have open' : ¬ s.state.IsTerminal := by
      rcases running with created | pending
      · rw [created]
        decide
      · rw [pending]
        decide
    rw [s.cancelled_of_not_terminal open']
    exact ⟨rfl, rfl⟩
  · intro ended
    have terminal : s.state.IsTerminal := ended.elim Or.inl fun failed => Or.inr (Or.inl failed)
    exact s.cancelled_of_terminal terminal
  · obtain ⟨s', there, remains⟩ := keeps.slice i s.cancelled (cleared.slice i s here owner)
      (s.owner_cancelled.trans owner)
    exact ⟨s', there, remains⟩
  · intro id' m'' flight s ending next managed' aloft here owner landed
    obtain ⟨m₂, floor'', m₃, managed'', acted', rfl⟩ := Group.act?_on landed
    rw [managed'] at managed''
    cases managed''
    obtain ⟨member', -⟩ := Group.mem_of_manager? managed'
    exact (clean.manager member').notes gone.closed aloft here owner acted'

/-- One slice of a job is with the processor, and another one waits. -/
def Group.removalRun : List Group.Act :=
  [.build (.small 0), .build (.small 1), .build (.small 0), .on 1 .start,
    .on 1 (.submit 0 .small), .on 1 (.submit 1 .small), .on 1 .take, .on 1 .grant, .on 1 .proceed]

/-- The job is let go. -/
def Group.removalStep : Group.Act := .on 1 (.remove Descriptor.small.job.id)

/-- It comes back with a slice of the same slot. -/
def Group.removalRest : List Group.Act := [.on 1 (.submit 2 .small), .on 1 (.submit 1 .small)]

theorem Group.removal_is_final_small :
    ∃ last next, last = Group.smallAfter (removalRun ++ [removalStep] ++ removalRest) ∧
      last.floor.stateOf? 0 = some .cancelled ∧ last.floor.stateOf? 1 = some .cancelled ∧
      last.floor.stateOf? 2 = some .pending ∧ last.floor.descriptorOf? 0 = none ∧
      last.act? (.on 1 (.land 0 (.answers (.fatal "gone")))) = some next ∧
      Floor.Notes 0 last.floor next.floor ∧ Group.Spares 0 last next := by
  have known : ((Group.smallAfter removalRun).manager? 1).bind (fun m =>
      m.tracker? Descriptor.small.job.id) = some 0 := by
    decide
  obtain ⟨m, managed, tracked⟩ := Option.bind_eq_some_iff.mp known
  have removed : (Group.smallAfter removalRun).run? [removalStep] = _ :=
    Group.smallAfter_append (by decide)
  obtain ⟨group', step, same⟩ := Option.bind_eq_some_iff.mp removed
  cases same
  have run : (Group.smallAfter (removalRun ++ [removalStep])).Reach
      (Group.smallAfter (removalRun ++ [removalStep] ++ removalRest)) :=
    Group.reach_smallAfter (by decide)
  have final := Group.Reachable.removal_is_final (Group.reachable_smallAfter removalRun) managed
    tracked (List.mem_singleton.mpr rfl) step run
  generalize found : Group.smallAfter (removalRun ++ [removalStep] ++ removalRest) = last at final
  have flown : (last.manager? 1).map (fun m => (m.flights, last.floor.slices[0]?.map Slice.owner,
      (last.act? (.on 1 (.land 0 (.answers (.fatal "gone"))))).isSome)) =
      some ([⟨0, 0⟩], some (some 0), true) := by
    rw [← found]
    decide
  obtain ⟨m', managed', facts⟩ := Option.map_eq_some_iff.mp flown
  simp only [Prod.mk.injEq] at facts
  obtain ⟨flights, owned, possible⟩ := facts
  obtain ⟨s, here, owner⟩ := Option.map_eq_some_iff.mp owned
  obtain ⟨next, landed⟩ := Option.isSome_iff_exists.mp possible
  have aloft : (⟨0, 0⟩ : Flight) ∈ m'.flights := by
    rw [flights]
    exact List.mem_singleton.mpr rfl
  refine ⟨last, next, rfl, ?_, ?_, ?_, (final.2.1 0 s here owner).2, landed,
    final.2.2.2 1 m' ⟨0, 0⟩ s _ next managed' aloft here owner landed,
    final.2.2.1 next ⟨_, landed⟩⟩
  all_goals
    rw [← found]
    decide

end Restage
