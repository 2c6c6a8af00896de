import Restage.Discovery.Cycle
import Restage.Proofs.Group.Fatality
import Restage.Proofs.Group.Stopping
import Restage.Proofs.Manager.Replicas

/-!
# The status of the local replica

`Group.Reachable.handed_slice_reports` says that a slice that is handed to the processor of an
instance tells the same by its state and by the status that it records under the instance's address,
at all times of a run, and that an outcome that comes after the slice was cancelled changes neither
its state nor makes that status SUCCEEDED.

The address is host and port. A replica that a slice names by its host alone belongs to the instance
as well (`Instance.Answers`), but no status is ever recorded under that name:
`Group.Reachable.outcome_is_noted` says under which names what is recorded, and in
`Group.bare_host_stays_pending` a replica stays PENDING whose slice was processed with success.
-/

namespace Restage

open Manager

variable {group group' : Group} {floor next : Floor} {m m' : Manager} {i : SliceRef} {s : Slice}
  {id : UInt32} {flight : Flight}

/-! ## Managers stay -/

/-- The instances of the managers with the queues they serve. -/
def Group.posts (group : Group) : List (Instance × QueueRef) :=
  group.managers.map fun m => (m.home, m.queue)

theorem Group.Sound.posts_put (sound : group.Sound) (member : m ∈ group.managers)
    (home : m'.home = m.home) (queue : m'.queue = m.queue) :
    (group.put next m').posts = group.posts := by
  rw [Group.posts, Group.posts, Group.put, List.map_map]
  refine List.map_congr_left fun old inside => ?_
  simp only [Function.comp_apply]
  split
  · next here =>
      rw [sound.eq_of_home inside member (here.trans (congrArg Instance.id home)), home, queue]
  · rfl

theorem Group.Sound.posts_reach (sound : group.Sound) (run : group.Reach group') :
    group'.posts = group.posts := by
  induction run with
  | refl => rfl
  | tail before step ih =>
      rw [← ih]
      have clean := sound.reach before
      rcases clean.step_cases step with ⟨piece, rfl⟩ | rfl | ⟨m, member, next, m', moves, rfl⟩
      · rfl
      · rfl
      · obtain ⟨home, queue, -⟩ := Moves.same moves
        exact clean.posts_put member home queue

theorem Group.mem_of_posts (same : group'.posts = group.posts) (member : m ∈ group.managers) :
    ∃ m' ∈ group'.managers, m'.home = m.home ∧ m'.queue = m.queue := by
  have listed : (m.home, m.queue) ∈ group.posts := List.mem_map_of_mem member
  rw [← same] at listed
  obtain ⟨m', member', pair⟩ := List.mem_map.mp listed
  obtain ⟨home, queue⟩ := Prod.mk.inj pair
  exact ⟨m', member', home, queue⟩

/-! ## Reports -/

/-- Every manager's slices report to it. -/
def Group.Reports (group : Group) : Prop := ∀ m ∈ group.managers, Site.Reports (group.floor, m)

theorem Group.Sound.reports_step (sound : group.Sound) (reports : group.Reports)
    (step : group.Step group') : group'.Reports := by
  rcases sound.step_cases step with ⟨piece, rfl⟩ | rfl | ⟨m, member, next, m', moves, rfl⟩
  · refine fun m member => ⟨fun there free => ?_, fun there owner found queue => ?_⟩
    · rw [Floor.slices_addSlice] at there
      split at there
      · cases there
        rfl
      · exact (reports m member).unbound there free
    · rw [Floor.slices_addSlice] at there
      split at there
      · cases there
        cases owner
      · exact (reports m member).bound there owner found queue
  · exact fun m member => ⟨(reports m member).unbound, (reports m member).bound⟩
  · have clean := sound.manager member
    have moved := Moves.reports moves clean (reports m member)
    intro other inside
    rcases (sound.mem_put member (Moves.same moves).1).mp inside with rfl | ⟨old, apart⟩
    · exact moved
    · exact (reports other old).within (Moves.within moves clean)
        (fun same => apart (sound.eq_of_queue old member same)) moved.unbound

theorem Group.Reachable.reports (reachable : group.Reachable) : group.Reports := by
  obtain ⟨recency, limit, homes, run⟩ := reachable
  have untouched := Group.untouched_ofInstances recency limit homes
  have nothing : ∀ i : SliceRef,
      (Group.ofInstances recency limit homes).floor.slices[i]? = none := by
    intro i
    rw [untouched.slices]
    rfl
  induction run with
  | refl =>
      exact fun m member => ⟨fun here => (nomatch (nothing _).symm.trans here), fun here =>
        (nomatch (nothing _).symm.trans here)⟩
  | tail before step ih => exact (untouched.sound.reach before).reports_step ih step

/-- A slice is not bound to a tracker of another queue. -/
def Slice.BoundWithin (s : Slice) (q : QueueRef) (floor : Floor) : Prop :=
  ∀ t k, s.owner = some t → floor.trackers[t]? = some k → k.queue = q

theorem Group.Reachable.reports_of_boundWithin (reachable : group.Reachable)
    (member : m ∈ group.managers) (here : group.floor.slices[i]? = some s)
    (within : s.BoundWithin m.queue group.floor) : s.Reports m.home.address := by
  have reports := reachable.reports m member
  cases owner : s.owner with
  | none =>
      rw [reports.unbound here owner]
      exact .ofPiece _ _
  | some t =>
      obtain ⟨k, found, -⟩ := reachable.sound.floor.bound here owner
      exact reports.bound here owner found (within t k owner found)

theorem Slice.boundWithin_of_owner {t : TrackerRef} {k : Tracker} (owner : s.owner = some t)
    (found : floor.trackers[t]? = some k) : s.BoundWithin k.queue floor := by
  intro u k' owner' found'
  cases owner.symm.trans owner'
  cases found.symm.trans found'
  rfl

/-- A slice of one queue was not of another one before. -/
theorem Floor.Ages.boundWithin_before {s' : Slice} {q : QueueRef} (ages : Floor.Ages floor next)
    (here : floor.slices[i]? = some s) (there : next.slices[i]? = some s')
    (within : s'.BoundWithin q next) : s.BoundWithin q floor := by
  intro t k owner found
  obtain ⟨_, there', age⟩ := ages.slice i s here
  cases there'.symm.trans there
  obtain ⟨k', found', age'⟩ := ages.tracker t k found
  exact age'.queue.symm.trans (within t k' (age.owner t owner) found')

/-- A bound slice stays in its queue. -/
theorem Floor.Ages.boundWithin_after {t : TrackerRef} {k : Tracker} (ages : Floor.Ages floor next)
    (here : floor.slices[i]? = some s) (owner : s.owner = some t)
    (found : floor.trackers[t]? = some k) :
    ∃ s', next.slices[i]? = some s' ∧ s'.BoundWithin k.queue next := by
  obtain ⟨s', there, age⟩ := ages.slice i s here
  obtain ⟨k', found', age'⟩ := ages.tracker t k found
  refine ⟨s', there, ?_⟩
  rw [← age'.queue]
  exact Slice.boundWithin_of_owner (age.owner t owner) found'

/-! ## Slices that were handed over -/

section Handed

variable (reachable : group.Reachable) (member : m ∈ group.managers) (up : flight ∈ m.flights)

include reachable member up

/-- A slice that is with the processor reported to the manager before, since it was built. -/
theorem Group.Reachable.reported_before {before : Group} (begun : before.Reachable)
    (run : before.Reach group) (here : before.floor.slices[flight.slice]? = some s) :
    s.Reports m.home.address := by
  obtain ⟨s', t, k, there, owner, found, queue, -⟩ :=
    (reachable.sound.manager member).places.flight up
  obtain ⟨m', member', home', queue'⟩ :=
    Group.mem_of_posts (begun.sound.posts_reach run).symm member
  have within := (begun.sound.ages_reach run).boundWithin_before here there
    (Slice.boundWithin_of_owner owner found)
  rw [← home']
  rw [queue, ← queue'] at within
  exact begun.reports_of_boundWithin member' here within

/-- It reports to the manager for ever after. -/
theorem Group.Reachable.reported_after (run : group.Reach group') :
    ∃ s, group'.floor.slices[flight.slice]? = some s ∧ s.Reports m.home.address := by
  obtain ⟨s, t, k, here, owner, found, queue, -⟩ :=
    (reachable.sound.manager member).places.flight up
  obtain ⟨m', member', home', queue'⟩ := Group.mem_of_posts (reachable.sound.posts_reach run) member
  obtain ⟨s', there, within⟩ := (reachable.sound.ages_reach run).boundWithin_after here owner found
  obtain ⟨recency, limit, homes, first⟩ := reachable
  have reachable' : group'.Reachable := ⟨recency, limit, homes, first.trans run⟩
  refine ⟨s', there, ?_⟩
  rw [← home']
  rw [queue, ← queue'] at within
  exact reachable'.reports_of_boundWithin member' there within

/-- If it is cancelled it stays so, whatever comes of it, and is not reported as succeeded. -/
theorem Group.Reachable.cancelled_after (run : group.Reach group')
    (cancelled : group.floor.stateOf? flight.slice = some .cancelled) :
    ∃ s, group'.floor.slices[flight.slice]? = some s ∧ s.state = .cancelled ∧
      s.replicaStatus.lookup m.home.address ≠ some .succeeded := by
  have sound := reachable.sound
  obtain ⟨s, t, k, here, owner, found, -, -⟩ := (sound.manager member).places.flight up
  obtain ⟨s', there, reports⟩ := reachable.reported_after member up run
  rw [Floor.stateOf?, here, Option.map_some, Option.some.injEq] at cancelled
  obtain ⟨-, -, governs⟩ := sound.floor.owned here owner found
  have closed : group.floor.Closed t := ⟨k, found, governs.over_of_cancelled cancelled⟩
  obtain ⟨_, there', remains⟩ := (sound.keeps_closed closed run).slice _ _ here owner
  cases there'.symm.trans there
  have still : s'.state = .cancelled := by
    rw [remains]
    exact cancelled
  refine ⟨s', there, still, fun succeeded => ?_⟩
  have completed := reports.succeeded.mp succeeded
  rw [still] at completed
  cases completed

end Handed

/-- A slice that is handed to the processor of an instance reports to its manager at all times of
the run, before and after. When it is cancelled meanwhile, its flight still lands with whatever
outcome, but the slice stays CANCELLED, and the status of the instance does not become SUCCEEDED. -/
theorem Group.Reachable.handed_slice_reports (reachable : group.Reachable)
    (managed : group.manager? id = some m) (up : flight ∈ m.flights) :
    (∀ (before : Group) (s : Slice), before.Reachable → before.Reach group →
      before.floor.slices[flight.slice]? = some s → s.Reports m.home.address) ∧
    (∀ after, group.Reach after → ∃ s, after.floor.slices[flight.slice]? = some s ∧
      s.Reports m.home.address) ∧
    (group.floor.stateOf? flight.slice = some .cancelled →
      ∀ ending, ∃ next, group.act? (.on id (.land flight.number ending)) = some next ∧
        ∀ last, next.Reach last → ∃ s, last.floor.slices[flight.slice]? = some s ∧
          s.state = .cancelled ∧ s.replicaStatus.lookup m.home.address ≠ some .succeeded) := by
  obtain ⟨member, rfl⟩ := Group.mem_of_manager? managed
  refine ⟨fun before s begun run here => reachable.reported_before member up begun run here,
    fun after run => reachable.reported_after member up run, fun cancelled ending => ?_⟩
  obtain ⟨next, m', s, done, -⟩ := reachable.sound.lands member up ending
  refine ⟨next, done, fun last run => ?_⟩
  exact reachable.cancelled_after member up (.head ⟨_, done⟩ run) cancelled

/-- A slice is built, submitted and handed over. -/
def Group.handRun (piece : Piece) : List Group.Act :=
  [.build piece, .on 1 .start, .on 1 (.submit 0 .small)] ++ passRun

/-- The job of a slice is let go while the slice is with the processor. -/
def Group.cancelledRun : List Group.Act :=
  handRun (.small 0) ++ [.on 1 (.remove Descriptor.small.job.id)]

theorem Group.handed_slice_reports_small :
    ∃ group m, Group.small.run? cancelledRun = some group ∧ group.manager? 1 = some m ∧
      m.flights = [⟨0, 0⟩] ∧
      (∃ s, group.floor.slices[0]? = some s ∧ s.Reports m.home.address) ∧
      ∃ next s, group.act? (.on 1 (.land 0 (.answers .success))) = some next ∧
        next.floor.slices[0]? = some s ∧ s.state = .cancelled ∧
        s.replicaStatus.lookup m.home.address ≠ some .succeeded := by
  have known : (Group.small.run? cancelledRun).bind (fun group => (group.manager? 1).map fun m =>
      (m.flights, group.floor.stateOf? 0)) = some ([⟨0, 0⟩], some .cancelled) := by
    decide
  obtain ⟨group, done, rest⟩ := Option.bind_eq_some_iff.mp known
  obtain ⟨m, managed, facts⟩ := Option.map_eq_some_iff.mp rest
  obtain ⟨flights, cancelled⟩ := Prod.mk.inj facts
  have up : (⟨0, 0⟩ : Flight) ∈ m.flights := by
    rw [flights]
    exact List.mem_singleton_self _
  obtain ⟨-, after, late⟩ := Group.Reachable.handed_slice_reports
    ⟨_, _, _, .of_run? done⟩ managed up
  obtain ⟨next, landed, still⟩ := late cancelled (.answers .success)
  obtain ⟨s, there, state, status⟩ := still next .refl
  exact ⟨group, m, done, managed, flights, after group .refl, next, s, landed, there, state, status⟩

/-! ## What an outcome is noted under -/

/-- The outcome of a flight whose slice is PENDING is noted under the address of the instance, in
place of what was noted there. Under every other name, the bare host of the instance included, there
stays what was noted. -/
theorem Group.Reachable.outcome_is_noted (reachable : group.Reachable)
    (managed : group.manager? id = some m) (up : flight ∈ m.flights)
    (here : group.floor.slices[flight.slice]? = some s) (pending : s.state = .pending)
    (ending : Ending) :
    ∃ next s', group.act? (.on id (.land flight.number ending)) = some next ∧
      next.floor.slices[flight.slice]? = some s' ∧
      (∀ name, m.home.Answers name → name ≠ m.home.host →
        s'.replicaStatus.lookup name = some ending.outcome.replicaStatus) ∧
      (∀ name, name ≠ m.home.address →
        s'.replicaStatus.lookup name = s.replicaStatus.lookup name) ∧
      ∀ name, name ∈ s'.replicaStatus.map Prod.fst ↔
        name ∈ s.piece.replicas ∨ name = m.home.address := by
  obtain ⟨member, rfl⟩ := Group.mem_of_manager? managed
  obtain ⟨next, m', s₁, done, -, -, here', taken⟩ := reachable.sound.lands member up ending
  cases here'.symm.trans here
  have landed := (taken.resolve_right fun late => nomatch pending.symm.trans late.1).2
  have reports := reachable.reported_before member up reachable .refl here
  refine ⟨next, _, done, landed, ?_, ?_, ?_⟩
  · intro name answers spelled
    rw [Slice.replicaStatus_taking, Slice.lookup_putStatus, if_pos (answers.resolve_left spelled)]
  · intro name other
    rw [Slice.replicaStatus_taking, Slice.lookup_putStatus, if_neg other]
  · intro name
    rw [Slice.replicaStatus_taking, Slice.mem_keys_putStatus]
    constructor
    · rintro (same | known)
      · exact .inr same
      · exact reports.known name known
    · exact fun either => either.symm.imp_right (reports.built name)

/-- The only replica of a slice is named by host and port. -/
theorem Group.outcome_is_noted_small :
    ∃ group m s, Group.small.run? (handRun { Piece.small 0 with replicas := ["db:7000"] }) =
        some group ∧ group.manager? 1 = some m ∧ m.flights = [⟨0, 0⟩] ∧
      group.floor.slices[0]? = some s ∧ s.state = .pending ∧
      ∃ next s', group.act? (.on 1 (.land 0 (.answers .success))) = some next ∧
        next.floor.slices[0]? = some s' ∧
        s'.replicaStatus.lookup "db:7000" = some .succeeded ∧
        ∀ name, name ∈ s'.replicaStatus.map Prod.fst ↔ name = "db:7000" := by
  have known : (Group.small.run? (handRun { Piece.small 0 with replicas := ["db:7000"] })).bind
      (fun group => (group.manager? 1).bind fun m => (group.floor.slices[0]?).map fun s =>
        ((m.flights, m.home), s.state, s.piece.replicas)) =
      some (([⟨0, 0⟩], ⟨1, "db", 7000, ⟨"/s"⟩⟩), .pending, ["db:7000"]) := by
    decide
  obtain ⟨group, done, rest⟩ := Option.bind_eq_some_iff.mp known
  obtain ⟨m, managed, rest⟩ := Option.bind_eq_some_iff.mp rest
  obtain ⟨s, here, facts⟩ := Option.map_eq_some_iff.mp rest
  simp only [Prod.mk.injEq] at facts
  obtain ⟨⟨flights, home⟩, pending, replicas⟩ := facts
  have up : (⟨0, 0⟩ : Flight) ∈ m.flights := by
    rw [flights]
    exact List.mem_singleton_self _
  have address : m.home.address = "db:7000" := by
    rw [home]
    decide
  obtain ⟨next, s', landed, there, accepted, -, names⟩ := Group.Reachable.outcome_is_noted
    ⟨_, _, _, .of_run? done⟩ managed up here pending (.answers .success)
  refine ⟨group, m, s, done, managed, flights, here, pending, next, s', landed, there, ?_, ?_⟩
  · refine accepted "db:7000" (.inr address.symm) ?_
    rw [home]
    decide
  · intro name
    rw [names, replicas, address, List.mem_singleton, or_self]

/-- A recorded slice whose only replica is named by its host alone. -/
def SliceRecord.bareHost : SliceRecord :=
  ⟨Descriptor.small.job.id, "", 0, "u", "k", "t", "b", "x", 0, ["db"]⟩

/-- The slice is processed with success, but the replica it names stays PENDING, and a replica that
it does not name has SUCCEEDED. -/
theorem Group.bare_host_stays_pending :
    ∃ (piece : Piece) (group : Group) (m : Manager) (next : Group) (s : Slice),
      Discovery.pieceAt m.home .bareHost = .ok piece ∧
      Group.small.run? (handRun piece) = some group ∧ group.manager? 1 = some m ∧
      group.floor.stateOf? 0 = some .pending ∧
      group.act? (.on 1 (.land 0 (.answers .success))) = some next ∧
      next.floor.slices[0]? = some s ∧ s.state = .completed ∧
      s.piece.replicas = ["db"] ∧ m.home.Answers "db" ∧
      s.replicaStatus = [("db", .pending), ("db:7000", .succeeded)] := by
  have known : (Discovery.pieceAt ⟨1, "db", 7000, ⟨"/s"⟩⟩ .bareHost).toOption.bind (fun piece =>
      (Group.small.run? (handRun piece)).bind fun group => (group.manager? 1).bind fun m =>
        (group.act? (.on 1 (.land 0 (.answers .success)))).bind fun next =>
          (next.floor.slices[0]?).map fun s =>
            ((m.home, group.floor.stateOf? 0),
              (s.state, s.piece.replicas, s.replicaStatus))) =
      some ((⟨1, "db", 7000, ⟨"/s"⟩⟩, some .pending),
        (.completed, ["db"], [("db", .pending), ("db:7000", .succeeded)])) := by
    decide
  obtain ⟨piece, made, rest⟩ := Option.bind_eq_some_iff.mp known
  obtain ⟨group, done, rest⟩ := Option.bind_eq_some_iff.mp rest
  obtain ⟨m, managed, rest⟩ := Option.bind_eq_some_iff.mp rest
  obtain ⟨next, landed, rest⟩ := Option.bind_eq_some_iff.mp rest
  obtain ⟨s, here, facts⟩ := Option.map_eq_some_iff.mp rest
  simp only [Prod.mk.injEq] at facts
  obtain ⟨⟨home, pending⟩, completed, replicas, statuses⟩ := facts
  refine ⟨piece, group, m, next, s, ?_, done, managed, pending, landed, here, completed,
    replicas, ?_, statuses⟩
  · rw [home]
    cases result : Discovery.pieceAt ⟨1, "db", 7000, ⟨"/s"⟩⟩ .bareHost with
    | error fault =>
        rw [result] at made
        cases made
    | ok other =>
        rw [result] at made
        exact congrArg _ (Option.some.inj made)
  · rw [home]
    decide

end Restage
