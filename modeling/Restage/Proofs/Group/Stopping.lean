import Restage.Proofs.Group.Concerns
import Restage.Proofs.Group.Flights
import Restage.Proofs.Manager.Stopping

/-!
# Stopped managers

A manager that was told to stop lets its worker go at the next point where it waits. Up to there the
worker may as well find the next slice or a permit first, and hand a slice over:
`Group.slice_handed_after_stop` is such a run. In it a flight lands, too, whose slice was cancelled
meanwhile, and leaves no trace.

`Group.Reachable.nothing_handed_once_gone` is what holds instead. Once the worker is gone no slice is
handed to the processor any more, so what was left behind stays PENDING unless it is cancelled.
Flights land at any time, and their slices take the outcomes unless they were cancelled.
-/

namespace Restage

open Manager

variable {group group' : Group} {floor : Floor} {m m' : Manager} {i : SliceRef} {id : UInt32}

/-- What has become of a manager whose worker was gone. -/
structure Manager.StaysGone (m : Manager) (floor : Floor) (m' : Manager) (floor' : Floor) :
    Prop where
  worker : m'.worker = .gone
  flights : ∀ flight ∈ m'.flights, flight ∈ m.flights
  left : ∀ i, m.Leaves floor i → m'.Leaves floor' i

/-- What has become of a manager that was told to stop. -/
structure Manager.StaysStopped (m : Manager) (floor : Floor) (m' : Manager) (floor' : Floor) :
    Prop where
  home : m'.home = m.home
  queue : m'.queue = m.queue
  stopping : m'.stopping = true
  gone : m.worker = .gone → m.StaysGone floor m' floor'

namespace Manager.StaysStopped

variable {m'' : Manager} {floor' floor'' : Floor}

theorem refl (stopping : m.stopping = true) : m.StaysStopped floor m floor where
  home := rfl
  queue := rfl
  stopping := stopping
  gone := fun gone => ⟨gone, fun _ up => up, fun _ leaves => leaves⟩

theorem trans (first : m.StaysStopped floor m' floor')
    (second : m'.StaysStopped floor' m'' floor'') : m.StaysStopped floor m'' floor'' where
  home := second.home.trans first.home
  queue := second.queue.trans first.queue
  stopping := second.stopping
  gone := fun gone => by
    have before := first.gone gone
    have after := second.gone before.worker
    exact ⟨after.worker, fun flight up => before.flights flight (after.flights flight up),
      fun i leaves => after.left i (before.left i leaves)⟩

end Manager.StaysStopped

theorem Manager.Moves.staysStopped {site site' : Site} (moves : Moves site site')
    (sound : site.Sound) (stopping : site.2.stopping = true) :
    site.2.StaysStopped site.1 site'.2 site'.1 := by
  obtain ⟨home, queue, going⟩ := Moves.same moves
  refine ⟨home, queue, ?_, fun gone => ?_⟩
  · by_contra went_on
    rw [Bool.not_eq_true] at went_on
    cases stopping.symm.trans (going went_on)
  · obtain ⟨worker, flights⟩ := Moves.gone moves gone
    exact ⟨worker, flights, fun i => Moves.leaves moves sound gone⟩

/-! ## Runs -/

/-- A manager that was told to stop stays so, whoever does what. -/
theorem Group.Sound.staysStopped_step (sound : group.Sound) (step : group.Step group')
    (member : m ∈ group.managers) (stopping : m.stopping = true) :
    ∃ m' ∈ group'.managers, m.StaysStopped group.floor m' group'.floor := by
  have idle : ∀ next : Floor, (∀ i, next.post? i = group.floor.post? i) →
      m.StaysStopped group.floor m next := fun next posts =>
    ⟨rfl, rfl, stopping, fun gone => ⟨gone, fun _ up => up, fun i leaves =>
      ⟨by rw [posts]; exact leaves.posted, leaves.grounded⟩⟩⟩
  rcases sound.step_cases step with ⟨piece, rfl⟩ | rfl | ⟨mover, moving, next, moved, moves, rfl⟩
  · exact ⟨m, member, idle _ fun i => Floor.post?_addSlice⟩
  · exact ⟨m, member, idle _ fun i => rfl⟩
  · have home := (Moves.same moves).1
    by_cases same : m = mover
    · subst same
      exact ⟨moved, (sound.mem_put member home).mpr (.inl rfl),
        Moves.staysStopped moves (sound.manager member) stopping⟩
    · have within := Moves.within moves (sound.manager moving)
      have apart : m.queue ≠ mover.queue := fun equal =>
        same (sound.eq_of_queue member moving equal)
      refine ⟨m, (sound.mem_put moving home).mpr (.inr ⟨member, same⟩), rfl, rfl, stopping,
        fun gone => ⟨gone, fun _ up => up, fun i => within.leaves apart⟩⟩

theorem Group.Sound.staysStopped (sound : group.Sound) (run : group.Reach group')
    (member : m ∈ group.managers) (stopping : m.stopping = true) :
    ∃ m' ∈ group'.managers, m.StaysStopped group.floor m' group'.floor := by
  induction run with
  | refl => exact ⟨m, member, .refl stopping⟩
  | tail before step ih =>
      obtain ⟨m₁, member₁, first⟩ := ih
      obtain ⟨m₂, member₂, second⟩ :=
        (sound.reach before).staysStopped_step step member₁ first.stopping
      exact ⟨m₂, member₂, first.trans second⟩

/-! ## What a stopped manager may still do -/

/-- A manager that was told to stop may let its worker go whenever that waits for a slice or for a
permit. -/
theorem Manager.quit?_of_waiting (stopping : m.stopping = true)
    (waits : m.worker = .idle ∨ m.worker = .waiting i) : (m.quit? floor).isSome = true := by
  rw [Manager.quit?, stopping]
  rcases waits with idle | waiting
  · rw [idle]
    rfl
  · rw [waiting]
    rfl

/-- A flight of a manager lands with whatever outcome and is over then. A slice that was PENDING
takes the outcome, and one that was cancelled stays so. -/
def Group.Lands (group : Group) (m : Manager) (flight : Flight) : Prop :=
  ∀ ending : Ending, ∃ group' m' s, group.act? (.on m.home.id (.land flight.number ending)) =
      some group' ∧
    group'.manager? m.home.id = some m' ∧ flight ∉ m'.flights ∧
    group.floor.slices[flight.slice]? = some s ∧
    (s.state = .pending ∧ group'.floor.slices[flight.slice]? =
        some (s.taking m.home.address group.floor.minted ending.outcome) ∨
      s.state = .cancelled ∧ group'.floor.stateOf? flight.slice = some .cancelled)

theorem Group.Sound.lands (sound : group.Sound) (member : m ∈ group.managers) {flight : Flight}
    (up : flight ∈ m.flights) : group.Lands m flight := by
  intro ending
  have site := sound.manager member
  obtain ⟨next, m', s, done, flights, here, taken⟩ := site.lands up ending
  have moves := site.act done
  have managed : (group.put next m').manager? m.home.id = some m' :=
    (sound.manager?_put member (Moves.same moves).1 (sound.moves member moves)).trans (if_pos rfl)
  refine ⟨group.put next m', m', s, ?_, managed, ?_, here, taken⟩
  · rw [Group.act?, sound.manager?_of_mem member, Option.bind_eq_bind, Option.bind_some, done]
    rfl
  · rw [flights]
    simp

/-- Wherever a run leads after a manager was told to stop: its worker may go when it waits, once it
is gone nothing more is handed to the processor and what was left behind stays PENDING or is
cancelled, and what is with the processor still lands. -/
theorem Group.Reachable.nothing_handed_once_gone (reachable : group.Reachable)
    (managed : group.manager? id = some m) (stopped : m.stopping = true)
    (run : group.Reach group') :
    ∃ m', group'.manager? id = some m' ∧ m'.stopping = true ∧
      ((m'.worker = .idle ∨ ∃ i, m'.worker = .waiting i) →
        ∃ next m'', group'.act? (.on id .quit) = some next ∧ next.manager? id = some m'' ∧
          m''.worker = .gone) ∧
      (m.worker = .gone → m'.worker = .gone ∧ (∀ flight ∈ m'.flights, flight ∈ m.flights) ∧
        ∀ i, group.floor.post? i = some (m.queue, .pending) →
          (∀ flight ∈ m.flights, flight.slice ≠ i) →
          group'.floor.stateOf? i = some .pending ∨ group'.floor.stateOf? i = some .cancelled) ∧
      ∀ flight ∈ m'.flights, group'.Lands m' flight := by
  have sound := reachable.sound
  obtain ⟨member, rfl⟩ := Group.mem_of_manager? managed
  obtain ⟨m', member', stays⟩ := sound.staysStopped run member stopped
  have sound' := sound.reach run
  have managed' := sound'.manager?_of_mem member'
  rw [stays.home] at managed'
  refine ⟨m', managed', stays.stopping, fun waits => ?_, fun gone => ?_, fun flight up =>
    sound'.lands member' up⟩
  · have possible : (m'.quit? group'.floor).isSome = true := by
      rcases waits with idle | ⟨i, waiting⟩
      · exact Manager.quit?_of_waiting (i := 0) stays.stopping (.inl idle)
      · exact Manager.quit?_of_waiting stays.stopping (.inr waiting)
    obtain ⟨⟨next, m''⟩, done⟩ := Option.isSome_iff_exists.mp possible
    have quits : Manager.act? (group'.floor, m') .quit = some (next, m'') := done
    have moves := (sound'.manager member').act quits
    have after : (group'.put next m'').manager? m.home.id = some m'' :=
      (sound'.manager?_put member' (Moves.same moves).1 (sound'.moves member' moves)).trans
        (if_pos (congrArg Instance.id stays.home).symm)
    refine ⟨_, m'', ?_, after, ?_⟩
    · rw [Group.act?, managed', Option.bind_eq_bind, Option.bind_some, quits]
      rfl
    · rw [Manager.quit?] at done
      split at done <;> cases done <;> rfl
  · have last := stays.gone gone
    refine ⟨last.worker, last.flights, fun i posted grounded => ?_⟩
    have state : ∀ state, group'.floor.post? i = some (m'.queue, state) →
        group'.floor.stateOf? i = some state := by
      intro state post
      obtain ⟨s, t, k, here, -, -, -, same⟩ := Floor.post?_eq_some.mp post
      rw [Floor.stateOf?, here, Option.map_some, same]
    exact (last.left i ⟨.inl posted, grounded⟩).posted.imp (state _) (state _)

/-- Two slices are with the processor and one waits when the manager is told to stop. The worker is
there, but has not gone on yet. -/
def Group.stopRun : List Group.Act :=
  [.build (.small 0), .build (.small 1),
    .build { Piece.small 0 with job := Descriptor.second.job.id }, .on 1 .start,
    .on 1 (.submit 0 .small), .on 1 (.submit 1 .small)] ++ passRun ++ passRun ++
      [.on 1 (.submit 2 .second), .on 1 .stop]

/-- One flight ends, with a failure that fells its job, and the worker takes the slice that waits. -/
def Group.lateRun : List Group.Act := .on 1 (.land 0 (.answers (.fatal "gone"))) :: passRun

/-- After the manager was told to stop it hands over a slice that was not handed over before, and of
two invocations that were in flight then one ends with success, but its slice is CANCELLED. -/
theorem Group.slice_handed_after_stop :
    ∃ (group : Group) (m : Manager) (next : Group) (m' : Manager) (last : Group),
      group.Reachable ∧ group.manager? 1 = some m ∧ m.worker = .idle ∧ m.stopping = true ∧
      group.floor.stateOf? 2 = some .pending ∧
      (∀ acts ∈ stopRun.inits, ∀ m ∈ (Group.wide.run? acts).bind fun before => before.manager? 1,
        2 ∉ m.flights.map Flight.slice) ∧
      group.run? lateRun = some next ∧ next.manager? 1 = some m' ∧
      2 ∈ m'.flights.map Flight.slice ∧
      m.flights = [⟨0, 0⟩, ⟨1, 1⟩] ∧ next.act? (.on 1 (.land 1 (.answers .success))) = some last ∧
      last.floor.stateOf? 1 = some .cancelled := by
  have known : (Group.wide.run? stopRun).bind (fun group => (group.manager? 1).bind fun m =>
      (group.run? lateRun).bind fun next => (next.manager? 1).bind fun m' =>
        (next.act? (.on 1 (.land 1 (.answers .success)))).map fun last =>
          ((m.worker, m.stopping, m.flights), group.floor.stateOf? 2,
            m'.flights.map Flight.slice, last.floor.stateOf? 1)) =
      some ((.idle, true, [⟨0, 0⟩, ⟨1, 1⟩]), some .pending, [1, 2], some .cancelled) := by
    decide
  have grounded : ∀ acts ∈ stopRun.inits,
      ∀ m ∈ (Group.wide.run? acts).bind fun before => before.manager? 1,
        2 ∉ m.flights.map Flight.slice := by
    decide
  obtain ⟨group, done, rest⟩ := Option.bind_eq_some_iff.mp known
  obtain ⟨m, managed, rest⟩ := Option.bind_eq_some_iff.mp rest
  obtain ⟨next, went, rest⟩ := Option.bind_eq_some_iff.mp rest
  obtain ⟨m', managed', rest⟩ := Option.bind_eq_some_iff.mp rest
  obtain ⟨last, landed, facts⟩ := Option.map_eq_some_iff.mp rest
  simp only [Prod.mk.injEq] at facts
  obtain ⟨⟨worker, stopping, flights⟩, pending, handed, cancelled⟩ := facts
  refine ⟨group, m, next, m', last, ⟨_, _, _, .of_run? done⟩, managed, worker, stopping, pending,
    grounded, went, managed', ?_, flights, landed, cancelled⟩
  rw [handed]
  decide

/-- The worker goes first, and what waits stays PENDING while a flight lands. -/
theorem Group.nothing_handed_once_gone_wide :
    ∃ group m, Group.wide.run? (stopRun ++ [.on 1 .quit]) = some group ∧
      group.manager? 1 = some m ∧ m.worker = .gone ∧
      ∃ group' m', group.run? [.on 1 (.land 1 (.answers .success))] = some group' ∧
        group'.manager? 1 = some m' ∧ m'.worker = .gone ∧
        (∀ flight ∈ m'.flights, flight ∈ m.flights) ∧
        (group'.floor.stateOf? 2 = some .pending ∨ group'.floor.stateOf? 2 = some .cancelled) := by
  have known : (Group.wide.run? (stopRun ++ [.on 1 .quit])).bind (fun group =>
      (group.manager? 1).bind fun m =>
        (group.run? [.on 1 (.land 1 (.answers .success))]).map fun _ =>
          ((m.worker, m.stopping, m.flights), decide (group.floor.post? 2 =
            some (m.queue, .pending)))) = some ((.gone, true, [⟨0, 0⟩, ⟨1, 1⟩]), true) := by
    decide
  obtain ⟨group, done, rest⟩ := Option.bind_eq_some_iff.mp known
  obtain ⟨m, managed, rest⟩ := Option.bind_eq_some_iff.mp rest
  obtain ⟨group', went, facts⟩ := Option.map_eq_some_iff.mp rest
  simp only [Prod.mk.injEq] at facts
  obtain ⟨⟨gone, stopping, flights⟩, posted⟩ := facts
  obtain ⟨m', managed', -, -, last, -⟩ := Group.Reachable.nothing_handed_once_gone
    ⟨_, _, _, .of_run? done⟩ managed stopping (.of_run? went)
  obtain ⟨gone', fewer, left⟩ := last gone
  have grounded : ∀ flight ∈ m.flights, flight.slice ≠ 2 := by
    rw [flights]
    decide
  exact ⟨group, m, done, managed, gone, group', m', went, managed', gone', fewer,
    left 2 (of_decide_eq_true posted) grounded⟩

end Restage
