import Restage.Proofs.Group.Runs
import Restage.Proofs.Manager.Concerns

/-!
# Jobs and instances keep apart

An act that is about one job on one instance leaves the other jobs of the instance and all other
instances alone (`Group.Reachable.jobs_and_instances_apart`). Both frames are needed: the act's own
is that of the job (`Manager.Site.Concerns`), and what other instances have of the same job is kept
by that of the queue (`Floor.Within`, from which `Manager.Rests`).
-/

namespace Restage

open Manager

variable {group group' : Group} {floor next : Floor} {m m' other : Manager} {job : TimeId}
  {id : UInt32} {act : Manager.Act}

/-- What a manager answers for is the same on two floors: its queue, all trackers of that queue,
held or not, and their slices. -/
structure Manager.Rests (m : Manager) (floor next : Floor) : Prop where
  queue : next.queues[m.queue]? = floor.queues[m.queue]?
  trackers : ∀ (t : TrackerRef) (k : Tracker), k.queue = m.queue →
    (next.trackers[t]? = some k ↔ floor.trackers[t]? = some k)
  slices : ∀ (t : TrackerRef) (k : Tracker) (i : SliceRef) (s : Slice),
    floor.trackers[t]? = some k → k.queue = m.queue → s.owner = some t →
    (next.slices[i]? = some s ↔ floor.slices[i]? = some s)

/-- What is done within another queue is none of a manager's business. -/
theorem Floor.Within.rests {q : QueueRef} (within : Floor.Within q floor next)
    (apart : m.queue ≠ q) : m.Rests floor next where
  queue := within.queues m.queue apart
  trackers := fun t k queue => within.trackers t k (by rwa [queue])
  slices := fun t k i s found queue owner => within.slices t k i s found (by rwa [queue]) owner

/-- What one manager does leaves all others alone. -/
theorem Group.Sound.others_rest (sound : group.Sound) (member : m ∈ group.managers)
    (moves : Moves (group.floor, m) (next, m')) {other : UInt32} (apart : other ≠ m.home.id) :
    (group.put next m').manager? other = group.manager? other ∧
      ∀ m₁, group.manager? other = some m₁ → m₁.Rests group.floor next := by
  constructor
  · rw [sound.manager?_put member (Moves.same moves).1 (sound.moves member moves), if_neg apart]
  · intro m₁ managed
    obtain ⟨inside, home⟩ := Group.mem_of_manager? managed
    refine (Moves.within moves (sound.manager member)).rests fun same => apart ?_
    rw [← home, sound.eq_of_queue inside member same]

/-- What is done about a job on one instance leaves the other jobs there and all other instances as
they are; the instance's queue at most gains slices of the job. -/
theorem Group.Reachable.jobs_and_instances_apart (reachable : group.Reachable)
    (managed : group.manager? id = some m) (about : act.IsAbout job (group.floor, m))
    (step : group.act? (.on id act) = some group') :
    (∃ m', group'.manager? id = some m' ∧
      Site.Concerns job (group.floor, m) (group'.floor, m')) ∧
    ∀ other, other ≠ id → group'.manager? other = group.manager? other ∧
      ∀ m₁, group.manager? other = some m₁ → m₁.Rests group.floor group'.floor := by
  have sound := reachable.sound
  obtain ⟨member, home⟩ := Group.mem_of_manager? managed
  obtain ⟨m₁, next, m', managed', acted, rfl⟩ := Group.act?_on step
  rw [managed] at managed'
  cases managed'
  have site := sound.manager member
  have moves := site.act acted
  refine ⟨⟨m', ?_, site.concerns about acted⟩, fun other apart => ?_⟩
  · rw [sound.manager?_put member (Moves.same moves).1 (sound.moves member moves),
      if_pos home.symm]
  · exact sound.others_rest member moves (by rwa [home])

/-! ## Two instances -/

/-- Two instances that may process one slice each at a time. -/
def Group.pair : Group :=
  .ofInstances ⟨0⟩ 1 [⟨1, "db", 7000, ⟨"/s"⟩⟩, ⟨2, "db", 7001, ⟨"/r"⟩⟩]

/-- Another job for small runs. -/
def Descriptor.second : Descriptor := ⟨1, { Descriptor.small.job with id := ⟨2, by decide⟩ }⟩

/-- Two slices of a job and one of another are on the first instance, and one of the first job is on
the second instance. The first slice is with the processor. -/
def Group.pairRun : List Group.Act :=
  [.build (.small 0), .build (.small 1),
    .build { Piece.small 0 with job := Descriptor.second.job.id }, .build (.small 0),
    .on 1 .start, .on 1 (.submit 0 .small), .on 1 (.submit 1 .small), .on 1 (.submit 2 .second),
    .on 2 (.submit 3 .small), .on 1 .take, .on 1 .grant, .on 1 .proceed]

/-- The slice fails for good, which fells its job on the first instance only. -/
theorem Group.jobs_and_instances_apart_pair :
    ∃ group m m₁ group', Group.pair.run? pairRun = some group ∧ group.manager? 1 = some m ∧
      group.manager? 2 = some m₁ ∧
      group.act? (.on 1 (.land 0 (.answers (.fatal "gone")))) = some group' ∧
      [0, 1, 2, 3].map group'.floor.stateOf? =
        [some .failed, some .cancelled, some .pending, some .pending] ∧
      (∃ m', group'.manager? 1 = some m' ∧ Site.Concerns Descriptor.small.job.id
        (group.floor, m) (group'.floor, m')) ∧ m₁.Rests group.floor group'.floor := by
  have known : (Group.pair.run? pairRun).bind (fun group => (group.manager? 1).bind fun m =>
      (group.manager? 2).bind fun _ =>
        (group.act? (.on 1 (.land 0 (.answers (.fatal "gone"))))).map fun group' =>
          (decide ((Manager.Act.land 0 (.answers (.fatal "gone"))).IsAbout
            Descriptor.small.job.id (group.floor, m)),
            [0, 1, 2, 3].map group'.floor.stateOf?)) =
      some (true, [some .failed, some .cancelled, some .pending, some .pending]) := by
    decide
  obtain ⟨group, done, rest⟩ := Option.bind_eq_some_iff.mp known
  obtain ⟨m, managed, rest⟩ := Option.bind_eq_some_iff.mp rest
  obtain ⟨m₁, managed₁, rest⟩ := Option.bind_eq_some_iff.mp rest
  obtain ⟨group', step, facts⟩ := Option.map_eq_some_iff.mp rest
  obtain ⟨about, states⟩ := Prod.mk.inj facts
  have apart := Group.Reachable.jobs_and_instances_apart ⟨_, _, _, .of_run? done⟩ managed
    (of_decide_eq_true about) step
  exact ⟨group, m, m₁, group', done, managed, managed₁, step, states, apart.1,
    (apart.2 2 (by decide)).2 m₁ managed₁⟩

end Restage
