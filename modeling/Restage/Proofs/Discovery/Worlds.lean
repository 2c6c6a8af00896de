import Restage.Proofs.Discovery.Classes
import Restage.Proofs.Manager.Handing

/-!
# Cycles in the course of time

A `World` is a store, a group and a clock. Between two cycles its steps are quiet: managers do what
they do of their own accord, among it the sweeps that cycles start, clients insert jobs and records
and change statuses, and the clock goes on. No quiet step makes a tracker, so a job that an instance
does not track after a cycle stays untracked there until the next one (`World.Quietly.lacks`).

A cycle lets go of the finished and expired jobs that it reads. A sweep lets go of the jobs whose
directories it deletes. `World.Reachable.finished_are_let_go` says that of such a job nothing is
tracked any more, and that nothing of it is handed to the processor. The two ways in which a
finished job is missed by both are in `World.finished_may_stay`: the cycle itself marks it FAILED,
or it is too old to be read and has no directory.
-/

namespace Restage

open Manager Discovery

structure World where
  store : Store
  group : Group
  now : Instant

namespace World

/-- A step between two cycles. -/
inductive Quiet : World → World → Prop
  | own {w : World} {group : Group} {id : UInt32} {act : Manager.Act} (own : act.IsOwn)
    (done : w.group.act? (.on id act) = some group) : Quiet w { w with group := group }
  | insertJob {w : World} (job : Job) : Quiet w { w with store := w.store.insertJob job }
  | insertRecord {w : World} (record : SliceRecord) :
    Quiet w { w with store := w.store.insertRecord record }
  | updateStatus {w : World} {store : Store} {job : TimeId} {status : JobStatus}
    (done : w.store.updateStatus job status = .ok store) : Quiet w { w with store := store }
  | tick {w : World} {now : Instant} (later : w.now.nanos ≤ now.nanos) :
    Quiet w { w with now := now }

/-- Any number of steps between two cycles. -/
abbrev Quietly : World → World → Prop := Relation.ReflTransGen Quiet

/-- A cycle that succeeds. -/
def Cycles (settings : Settings) (w w' : World) : Prop :=
  ∃ pass report, cycle settings w.now {} w.store w.group = (pass, .finished report) ∧
    w' = ⟨pass.store, pass.group, w.now⟩

def Step (settings : Settings) (w w' : World) : Prop := w.Quiet w' ∨ w.Cycles settings w'

/-- A world that came to be from one with nothing to do. -/
def Reachable (settings : Settings) (w : World) : Prop :=
  ∃ recency limit homes now,
    Relation.ReflTransGen (Step settings) ⟨{}, .ofInstances recency limit homes, now⟩ w

structure Sound (w : World) : Prop where
  group : w.group.Sound
  distinct : w.store.Distinct

variable {w w' w₁ w₂ w₃ : World} {settings : Settings}

theorem Quiet.sound (quiet : w.Quiet w') (sound : w.Sound) : w'.Sound := by
  cases quiet with
  | own own done => exact ⟨sound.group.step ⟨_, done⟩, sound.distinct⟩
  | insertJob job => exact ⟨sound.group, sound.distinct.insertJob job⟩
  | insertRecord record => exact ⟨sound.group, sound.distinct⟩
  | updateStatus done => exact ⟨sound.group, sound.distinct.updateStatus done⟩
  | tick later => exact ⟨sound.group, sound.distinct⟩

theorem Quietly.sound (quietly : w.Quietly w') (sound : w.Sound) : w'.Sound := by
  induction quietly with
  | refl => exact sound
  | tail _ quiet ih => exact quiet.sound ih

theorem Cycles.sound (cycles : w.Cycles settings w') (sound : w.Sound) : w'.Sound := by
  obtain ⟨pass, report, done, rfl⟩ := cycles
  obtain ⟨jobs, -, -, went⟩ := cycle_went sound.group sound.distinct done
  exact ⟨sound.group.reach went.run, went.distinct sound.distinct⟩

theorem Reachable.sound (reachable : w.Reachable settings) : w.Sound := by
  obtain ⟨recency, limit, homes, now, run⟩ := reachable
  induction run with
  | refl => exact ⟨(Group.untouched_ofInstances recency limit homes).sound, List.nodup_nil⟩
  | tail _ step ih =>
      rcases step with quiet | cycles
      · exact quiet.sound ih
      · exact cycles.sound ih

end World

/-! ## Jobs that an instance does not track -/

variable {group group' : Group} {id : UInt32} {job : TimeId}

/-- The manager of an instance does not track a job. -/
def Group.Lacks (group : Group) (id : UInt32) (job : TimeId) : Prop :=
  ∀ m, group.manager? id = some m → m.tracker? job = none

instance (group : Group) (id : UInt32) (job : TimeId) : Decidable (group.Lacks id job) :=
  inferInstanceAs (Decidable (∀ m ∈ group.manager? id, m.tracker? job = none))

/-- An act of a manager, seen from the manager of an instance: it is its own, or it is none. -/
theorem Group.Sound.manager?_act (sound : group.Sound) {actor : UInt32} {act : Manager.Act}
    (done : group.act? (.on actor act) = some group') {m' : Manager}
    (managed : group'.manager? id = some m') :
    ∃ m, group.manager? id = some m ∧
      (m' = m ∨ Manager.act? (group.floor, m) act = some (group'.floor, m')) := by
  obtain ⟨m, next, m₁, found, acted, rfl⟩ := Group.act?_on done
  obtain ⟨member, -⟩ := Group.mem_of_manager? found
  have moves := (sound.manager member).act acted
  have home := (Moves.same moves).1
  rw [sound.manager?_put member home (sound.moves member moves)] at managed
  split at managed
  · next here =>
      cases managed
      refine ⟨m, ?_, .inr acted⟩
      rw [here]
      exact sound.manager?_of_mem member
  · exact ⟨m', managed, .inl rfl⟩

theorem Group.Sound.own_lacks (sound : group.Sound) {actor : UInt32} {act : Manager.Act}
    (own : act.IsOwn) (done : group.act? (.on actor act) = some group')
    (lacks : group.Lacks id job) : group'.Lacks id job := by
  intro m' managed
  obtain ⟨m, before, same | acted⟩ := sound.manager?_act done managed
  · rw [same]
    exact lacks m before
  · obtain ⟨member, -⟩ := Group.mem_of_manager? before
    exact (sound.manager member).own_untracked own acted (lacks m before)

theorem World.Quietly.lacks {w w' : World} (quietly : w.Quietly w') (sound : w.Sound)
    (lacks : w.group.Lacks id job) : w'.group.Lacks id job := by
  induction quietly with
  | refl => exact lacks
  | tail before quiet ih =>
      have clean := World.Quietly.sound before sound
      cases quiet with
      | own own done => exact clean.group.own_lacks own done ih
      | insertJob | insertRecord | updateStatus | tick => exact ih

/-- A sweep lets go of the jobs whose directories it deletes. -/
theorem Group.Sound.swept_lacks (sound : group.Sound) {m : Manager} {trouble : Trouble}
    {now : Instant} {disk : Disk} (managed : group.manager? id = some m)
    (swept : group.act? (.on id (.sweep trouble now disk)) = some group')
    (cleared : job ∈ m.cleared trouble now disk) : group'.Lacks id job := by
  obtain ⟨member, here⟩ := Group.mem_of_manager? managed
  obtain ⟨m₁, next, m₂, managed', acted, rfl⟩ := Group.act?_on swept
  rw [managed] at managed'
  cases managed'
  have site := sound.manager member
  have moves := site.act acted
  intro m' found
  rw [sound.manager?_put member (Moves.same moves).1 (sound.moves member moves), if_pos here.symm]
    at found
  cases found
  rw [site.tracker?_sweep acted, if_pos cleared]

/-- A manager that does not track a job hands none of its slices to the processor, whatever step
comes next. -/
theorem Group.Sound.hands_none (sound : group.Sound) (lacks : group.Lacks id job)
    (step : group.Step group') {m' : Manager} (managed : group'.manager? id = some m')
    {flight : Flight} (up : flight ∈ m'.flights) {s : Slice}
    (here : group'.floor.slices[flight.slice]? = some s) (of : s.piece.job = job) :
    ∃ m, group.manager? id = some m ∧ flight ∈ m.flights := by
  obtain ⟨act, done⟩ := step
  cases act with
  | build piece | describe job =>
      cases done
      exact ⟨m', managed, up⟩
  | on actor act =>
      obtain ⟨m, before, same | acted⟩ := sound.manager?_act done managed
      · exact ⟨m, before, same ▸ up⟩
      · obtain ⟨member, -⟩ := Group.mem_of_manager? before
        refine ⟨m, before, ?_⟩
        by_contra new
        have site := sound.manager member
        obtain ⟨s', t, there, -, -, tracked⟩ := site.handed acted up new
        obtain ⟨s'', there', ages⟩ := (Moves.ages (site.act acted) site).slice _ s' there
        rw [here] at there'
        cases there'
        rw [← ages.piece, of, lacks m before] at tracked
        cases tracked

/-! ## Finished jobs -/

/-- A job that is finished or expired at the end of a cycle that read it is let go of, unless the
cycle itself marked it FAILED. -/
theorem Discovery.Treated.gone {now : Instant} {before after : Pass} {read last : Job}
    {told : List (Except JobFault Standing)} (treated : Treated now before after read told)
    (stored : after.store.job? read.id = some last) (ended : last.IsTerminal ∨ last.IsExpired now)
    (unmarked : last.status = .failed → read.status = .failed) (id : UInt32) :
    after.group.sight? id read.id = none := by
  have active : read.IsActive now → last = read ∨ last = read.withStatus .failed → False := by
    rintro active (rfl | rfl)
    · exact ended.elim active.1 active.2
    · exact active.1 (.inr (.inl (unmarked rfl)))
  cases treated with
  | finished terminal stored' gone => exact gone id
  | expired unfinished late stored' gone => exact gone id
  | failed open' fatal home listed wanted recorded stored' shown =>
      rw [stored'] at stored
      exact (active open' (.inr (Option.some.inj stored).symm)).elim
  | given open' fine unbarred stored' shown slots =>
      rw [stored'] at stored
      exact (active open' (.inl (Option.some.inj stored).symm)).elim

theorem World.Cycles.lacks {w w' : World} {settings : Settings} {jobs : List Job} {read last : Job}
    (cycles : w.Cycles settings w') (id : UInt32) (sound : w.Sound)
    (recent : w.store.recentJobs? w.now settings.recencyDays = some jobs) (inside : read ∈ jobs)
    (stored : w'.store.job? read.id = some last)
    (ended : last.IsTerminal ∨ last.IsExpired w.now)
    (unmarked : last.status = .failed → read.status = .failed) : w'.group.Lacks id read.id := by
  obtain ⟨pass, report, done, rfl⟩ := cycles
  obtain ⟨jobs', recent', -, went⟩ := cycle_went sound.group sound.distinct done
  obtain rfl := Option.some.inj (recent.symm.trans recent')
  have paid : ((Pass.start settings w.store w.group).visits w.now jobs).map Visit.job = jobs :=
    Pass.visits_jobs
  rw [← paid] at inside
  obtain ⟨visit, listed, rfl⟩ := List.mem_map.mp inside
  have hidden := (went.treated visit listed).gone stored ended unmarked
  intro m managed
  obtain ⟨member, -⟩ := Group.mem_of_manager? managed
  exact (sound.group.reach went.run).untracked_iff.mp hidden m member

/-- Once a cycle has succeeded and an instance has been swept, the instance tracks no job that the
cycle left finished or expired, if the cycle had read the job and did not mark it FAILED itself, or
if the sweep deleted its directory. Until the next cycle nothing of the job is handed to the
processor there. -/
theorem World.Reachable.finished_are_let_go {settings : Settings} {w w₁ w₂ w₃ : World}
    {m : Manager} {trouble : Trouble} {disk : Disk} {swept : Group} {job : Job}
    (reachable : w.Reachable settings) (cycles : w.Cycles settings w₁) (before : w₁.Quietly w₂)
    (managed : w₂.group.manager? id = some m)
    (sweep : w₂.group.act? (.on id (.sweep trouble w.now disk)) = some swept)
    (after : World.Quietly { w₂ with group := swept } w₃)
    (stored : w₁.store.job? job.id = some job) (ended : job.IsTerminal ∨ job.IsExpired w.now)
    (met : (∃ jobs, w.store.recentJobs? w.now settings.recencyDays = some jobs ∧
        ∃ read ∈ jobs, read.id = job.id ∧ (job.status = .failed → read.status = .failed)) ∨
      job.id ∈ m.cleared trouble w.now disk) :
    w₃.group.Lacks id job.id ∧
      ∀ group' m' flight s, w₃.group.Step group' → group'.manager? id = some m' →
        flight ∈ m'.flights → group'.floor.slices[flight.slice]? = some s →
        s.piece.job = job.id → ∃ m, w₃.group.manager? id = some m ∧ flight ∈ m.flights := by
  have sound₁ := cycles.sound reachable.sound
  have sound₂ := World.Quietly.sound before sound₁
  have own : (Manager.Act.sweep trouble w.now disk).IsOwn := trivial
  have quiet : w₂.Quiet { w₂ with group := swept } := .own own sweep
  have lacks : swept.Lacks id job.id := by
    rcases met with ⟨jobs, recent, read, inside, same, unmarked⟩ | cleared
    · have read_stored : w₁.store.job? read.id = some job := same ▸ stored
      have gone := cycles.lacks id reachable.sound recent inside read_stored ended unmarked
      rw [same] at gone
      exact sound₂.group.own_lacks own sweep (World.Quietly.lacks before sound₁ gone)
    · exact sound₂.group.swept_lacks managed sweep cleared
  have last : w₃.group.Lacks id job.id := World.Quietly.lacks after (quiet.sound sound₂) lacks
  refine ⟨last, fun group' m' flight s step managed' up here of => ?_⟩
  exact (World.Quietly.sound after (quiet.sound sound₂)).group.hands_none last step managed' up
    here of

/-- A sweep that finds an empty disk leaves the group as it is. -/
theorem Group.Sound.sweep_empty (sound : group.Sound) {m : Manager} {trouble : Trouble}
    {now : Instant} (managed : group.manager? id = some m) :
    group.act? (.on id (.sweep trouble now {})) = some group := by
  obtain ⟨member, -⟩ := Group.mem_of_manager? managed
  have sweep := m.sweep_eq group.floor trouble now {}
  rw [Manager.cleared_empty, Manager.removeAll] at sweep
  have acted : Manager.act? (group.floor, m) (.sweep trouble now {}) = some (group.floor, m) :=
    congrArg some sweep
  rw [Group.act?, managed, Option.bind_eq_bind, Option.bind_some, acted]
  exact congrArg some (sound.put_self member)

/-! ## Small worlds -/

namespace World

/-- The world after a cycle with the default settings that reads some jobs. -/
def after (w : World) (jobs : List Job) : World :=
  let pass := jobs.foldl (Pass.visit {} w.now) (Pass.start {} w.store w.group)
  ⟨pass.store, pass.group, w.now⟩

/-- The world once the manager of instance 1 has done some acts, if it can do them all. -/
def worked (w : World) (acts : List Manager.Act) : World :=
  { w with group := (w.group.run? (acts.map (.on 1))).getD w.group }

variable {w : World} {group : Group} {acts : List Manager.Act}

theorem cycles_after {jobs : List Job} (cutoff : Instant)
    (day : w.now.minus? (Span.ofDays ({} : Settings).recencyDays.toNat) = some cutoff)
    (sorted : w.store.jobs.Pairwise fun left right => Store.birth left ≤ Store.birth right)
    (recent : (w.store.jobs.filter fun job => Store.IsRecent cutoff job) = jobs) :
    w.Cycles {} (w.after jobs) := by
  have read := Store.recentJobs?_of_sorted cutoff day sorted
  rw [recent] at read
  exact ⟨_, _, cycle_finished w.group read, rfl⟩

theorem Quietly.of_run? (own : ∀ act ∈ acts, act.IsOwn)
    (done : w.group.run? (acts.map (.on 1)) = some group) :
    w.Quietly { w with group := group } := by
  induction acts generalizing w with
  | nil =>
      cases done
      exact .refl
  | cons act rest ih =>
      obtain ⟨next, first, others⟩ := Option.bind_eq_some_iff.mp done
      have quiet : w.Quiet { w with group := next } := .own (own act List.mem_cons_self) first
      exact .head quiet (ih (fun act inside => own act (List.mem_cons_of_mem _ inside)) others)

theorem quietly_worked (own : ∀ act ∈ acts, act.IsOwn) : w.Quietly (w.worked acts) := by
  unfold worked
  cases done : w.group.run? (acts.map (.on 1)) with
  | none => exact .refl
  | some group => exact .of_run? own done

/-- A job, as it was read first. -/
def sample : Job := .small 3 .created 9000

/-- The job with its slice, which no cycle has seen. -/
def begin : World := ⟨⟨[sample], [.small 3 0 []]⟩, .small, .ofMillis 5000⟩

/-- The slice was submitted to the manager of instance 1. -/
def begun : World := begin.after [sample]

/-- The slice has failed for good. -/
def failing : World :=
  begun.worked [.start, .take, .grant, .proceed, .land 1 (.answers (.fatal "gone"))]

/-- The job has succeeded otherwise. -/
def succeeded : World :=
  { begun with store := begun.store.insertJob (sample.withStatus .succeeded) }

/-- Six days later. -/
def aged : World := { succeeded with now := .ofMillis 518405000 }

theorem begun_reachable : begun.Reachable {} := by
  refine ⟨⟨0⟩, 1, [⟨1, "db", 7000, ⟨"/s"⟩⟩], .ofMillis 5000, ?_⟩
  have inserted : Step {} ⟨{}, .small, .ofMillis 5000⟩ ⟨⟨[sample], []⟩, .small, .ofMillis 5000⟩ :=
    .inl (.insertJob sample)
  have recorded : Step {} ⟨⟨[sample], []⟩, .small, .ofMillis 5000⟩ begin :=
    .inl (.insertRecord (.small 3 0 []))
  have cycled : begin.Cycles {} begun :=
    cycles_after ⟨-431995000000000⟩ (by decide) (by decide) (by decide)
  exact .tail (.tail (.single inserted) recorded) (.inr cycled)

theorem Reachable.quietly {settings : Settings} {w' : World} (reachable : w.Reachable settings)
    (quietly : w.Quietly w') : w'.Reachable settings := by
  obtain ⟨recency, limit, homes, now, run⟩ := reachable
  refine ⟨recency, limit, homes, now, run.trans ?_⟩
  exact Relation.ReflTransGen.mono (fun _ _ => Or.inl) _ _ quietly

theorem failing_reachable : failing.Reachable {} :=
  begun_reachable.quietly (quietly_worked (by decide))

theorem succeeded_reachable : succeeded.Reachable {} :=
  have updated : begun.store.updateStatus sample.id .succeeded = .ok succeeded.store :=
    Store.updateStatus_ok (by decide) _
  begun_reachable.quietly (.single (.updateStatus updated))

theorem aged_reachable : aged.Reachable {} :=
  succeeded_reachable.quietly (.single (.tick (by decide)))

theorem finished_are_let_go_small :
    ¬ succeeded.group.Lacks 1 sample.id ∧
      (succeeded.after [sample.withStatus .succeeded]).group.Lacks 1 sample.id := by
  have cycles : succeeded.Cycles {} (succeeded.after [sample.withStatus .succeeded]) :=
    cycles_after ⟨-431995000000000⟩ (by decide) (by decide) (by decide)
  have known : ((succeeded.after [sample.withStatus .succeeded]).group.manager? 1).isSome := by
    decide
  obtain ⟨m, managed⟩ := Option.isSome_iff_exists.mp known
  have sound := cycles.sound succeeded_reachable.sound
  have read : succeeded.store.recentJobs? succeeded.now ({} : Settings).recencyDays =
      some [sample.withStatus .succeeded] :=
    Store.recentJobs?_of_sorted ⟨-431995000000000⟩ (by decide) (by decide)
  have sweep : (succeeded.after [sample.withStatus .succeeded]).group.act?
      (.on 1 (.sweep .nowhere succeeded.now {})) = _ := sound.group.sweep_empty managed
  have stored : (succeeded.after [sample.withStatus .succeeded]).store.job?
      (sample.withStatus .succeeded).id = some (sample.withStatus .succeeded) := by
    decide
  have gone := Reachable.finished_are_let_go succeeded_reachable cycles .refl managed sweep .refl
    stored (by decide)
    (.inl ⟨_, read, _, List.mem_singleton.mpr rfl, rfl, fun failed => by cases failed⟩)
  exact ⟨by decide, gone.1⟩

/-- Two ways for a finished job to stay. The cycle itself marks it FAILED; or it is too old to be
read and has no directory, and its slice is handed to the processor in the end. -/
theorem finished_may_stay :
    (failing.Reachable {} ∧ failing.Cycles {} (failing.after [sample]) ∧
      (failing.after [sample]).group.act? (.on 1 (.sweep .nowhere failing.now {})) =
        some (failing.after [sample]).group ∧
      (failing.after [sample]).store.job? sample.id = some (sample.withStatus .failed) ∧
      ¬ (failing.after [sample]).group.Lacks 1 sample.id) ∧
    aged.Reachable {} ∧ aged.Cycles {} (aged.after []) ∧
      (aged.after []).group.act? (.on 1 (.sweep .nowhere aged.now {})) =
        some (aged.after []).group ∧
      (aged.after []).store.job? sample.id = some (sample.withStatus .succeeded) ∧
      ¬ (aged.after []).group.Lacks 1 sample.id ∧
      (((aged.after []).worked [.start, .take, .grant, .proceed]).group.manager? 1).map
        (fun m => m.flights.map Flight.slice) = some [0] := by
  have marked : failing.Cycles {} (failing.after [sample]) :=
    cycles_after ⟨-431995000000000⟩ (by decide) (by decide) (by decide)
  have passed : aged.Cycles {} (aged.after []) :=
    cycles_after ⟨86405000000000⟩ (by decide) (by decide) (by decide)
  have idle : ∀ {w : World}, w.Sound → (w.group.manager? 1).isSome = true → ∀ now,
      w.group.act? (.on 1 (.sweep .nowhere now {})) = some w.group := by
    intro w sound known now
    obtain ⟨m, managed⟩ := Option.isSome_iff_exists.mp known
    exact sound.group.sweep_empty managed
  exact ⟨⟨failing_reachable, marked, idle (marked.sound failing_reachable.sound) (by decide) _,
      by decide, by decide⟩,
    aged_reachable, passed, idle (passed.sound aged_reachable.sound) (by decide) _, by decide,
      by decide, by decide⟩

end World

end Restage
