import Restage.Proofs.Discovery.Concerns
import Restage.Proofs.Discovery.Events
import Restage.Proofs.Group.Concerns

/-!
# How a fatal failure spreads

A job has failed on one instance. No other instance notices until a cycle reads the job again and
offers its slices: the instance that has recorded the failure answers with it, whichever it is and
however many records come first, so the store takes the job as FAILED and every instance shows it
so. The next cycle reads a finished job. It lets go of it everywhere, and what was left of its
slices is cancelled.

Until the first of these cycles the failure must only not be forgotten (`World.Event.Keeps`), and
after it nobody else may bring the job back (`World.Event.Spares`). Processors, dispatchers and all
other jobs do what they like meanwhile.
-/

namespace Restage

open Manager Discovery

namespace World

/-- An instance has recorded a failure of a job that there are slices of for it. -/
structure Doomed (home : Instance) (job : TimeId) (failure : FatalFailure) (w : World) : Prop where
  listed : home ∈ w.group.homes
  wanted : ∃ record ∈ w.store.recordsOf job, home.Holds record.replicas
  recorded : (w.group.sight? home.id job).bind Sight.fatal = some failure

/-- An instance does not let go of a job: nobody removes it there, no sweep deletes its directory,
and no cycle reads it. -/
def Event.Keeps (settings : Settings) (id : UInt32) (job : TimeId) (w : World) : Event → Prop
  | .act asked => ¬ asked.Drops w.group id job
  | .cycle => ∀ jobs, w.store.recentJobs? w.now settings.recencyDays = some jobs →
      ∀ read ∈ jobs, read.id ≠ job
  | .insertJob _ | .insertRecord _ | .updateStatus _ _ | .tick _ => True

variable {w w' w₁ : World} {settings : Settings} {event : Event} {home : Instance} {job : TimeId}
  {failure : FatalFailure} {read last : Job} {jobs : List Job}

theorem Happens.doomed (happens : Happens settings w event w') (sound : w.Sound)
    (keeps : event.Keeps settings home.id job w) (doomed : w.Doomed home job failure) :
    w'.Doomed home job failure := by
  obtain ⟨record, inside, holds⟩ := doomed.wanted
  refine ⟨happens.homes sound ▸ doomed.listed, ⟨record, happens.records sound inside, holds⟩, ?_⟩
  cases happens with
  | act done => exact sound.group.fatal_of_act done keeps doomed.recorded
  | insertJob | insertRecord | updateStatus | tick => exact doomed.recorded
  | cycle cycles =>
      obtain ⟨pass, jobs, rfl, recent, -, -, met | missed⟩ := cycles.treats sound job
      · obtain ⟨read, inside, same, -⟩ := met
        exact absurd same (keeps jobs recent read inside)
      · rw [missed.2.shown]
        exact doomed.recorded

/-- The cycle that reads a doomed job marks it FAILED. -/
theorem Doomed.marked (doomed : w.Doomed home read.id failure) (sound : w.Sound)
    (recent : w.store.recentJobs? w.now settings.recencyDays = some jobs) (inside : read ∈ jobs)
    (active : read.IsActive w.now) :
    ∃ pass report, cycle settings w.now {} w.store w.group = (pass, .finished report) ∧
      pass.store.job? read.id = some (read.withStatus .failed) ∧
      report.failedJobs = ((Pass.start settings w.store w.group).visits w.now jobs).countP
        (fun visit => visit.Failed) ∧
      (∃ visit ∈ (Pass.start settings w.store w.group).visits w.now jobs,
        visit.job = read ∧ visit.Failed) ∧
      ∀ id, ∀ sight ∈ pass.group.sight? id read.id,
        sight.descriptor.job = read.withStatus .failed := by
  have done := cycle_finished w.group recent
  obtain ⟨jobs', recent', report, went⟩ := cycle_went sound.group sound.distinct done
  cases recent.symm.trans recent'
  obtain ⟨⟨job, told⟩, visited, same⟩ :=
    Pass.visit_of_mem w.now (Pass.start settings w.store w.group) inside
  obtain rfl : job = read := same
  refine ⟨_, _, done, ?_⟩
  cases went.treated _ visited with
  | finished terminal => exact absurd terminal active.1
  | expired unfinished late => exact absurd late active.2
  | given active' fine unbarred =>
      have open' : (w.group.sight? home.id job.id).bind Sight.fatal = none :=
        unbarred home doomed.listed doomed.wanted
      rw [doomed.recorded] at open'
      cases open'
  | failed active' fatal home' listed' wanted' recorded' stored shown =>
      have failed : Visit.Failed ⟨job, told⟩ := any_isFatal.mpr ⟨_, fatal⟩
      refine ⟨stored, ?_, ⟨_, visited, rfl, failed⟩, shown⟩
      rw [went.report]
      exact Nat.zero_add _

/-- The cycle that reads a finished job cancels what is left of its slices. -/
theorem Cycles.cancels (cycles : w.Cycles settings w') (sound : w.Sound)
    (terminal : last.IsTerminal) (stored : w.store.job? last.id = some last)
    (settled : w'.Settled last) {i : SliceRef} {s : Slice}
    (here : w.group.floor.slices[i]? = some s) (of : s.piece.job = last.id)
    (bound : s.owner ≠ none) :
    w'.group.floor.slices[i]? = some s.cancelled := by
  have sound' := cycles.sound sound
  obtain ⟨pass, report, done, rfl⟩ := cycles
  obtain ⟨jobs, recent, -, -⟩ := cycle_went sound.group sound.distinct done
  have finished : ∀ job ∈ jobs, job.id = last.id → job.IsTerminal := by
    intro job inside same
    have known := sound.distinct.recent_stored recent inside
    rw [same, stored] at known
    cases known
    exact terminal
  rw [cycle_finished w.group recent] at done
  cases done
  have begin : (Pass.start settings w.store w.group).group.Sound := sound.group
  have cancels : Floor.Cancels last.id w.group.floor
      (jobs.foldl (Pass.visit {} w.now) (Pass.start settings w.store w.group)).group.floor :=
    Pass.visits_cancel begin (sound.distinct.recent_nodup recent)
      (fun job inside => sound.distinct.recent_stored recent inside) finished
  exact cancels.of_untracked sound'.group settled.unseen here of bound

/-- A fatal failure of a job on one instance reaches the store with the next cycle that reads the
job, and every instance with the one after: nothing of the job is tracked any more, what had not
ended of its slices is cancelled, and so it stays. -/
theorem fatal_failure_spreads {id : UInt32} {m : Manager} {t : TrackerRef} {k : Tracker}
    (reachable : w.group.Reachable) (distinct : w.store.Distinct)
    (managed : w.group.manager? id = some m) (tracked : m.tracker? read.id = some t)
    (found : w.group.floor.trackers[t]? = some k) (failed : k.fatal = some failure)
    (wanted : ∃ record ∈ w.store.recordsOf read.id, m.home.Holds record.replicas)
    (meanwhile : w.Run settings (fun w event => event.Keeps settings id read.id w) w₁)
    (recent : w₁.store.recentJobs? w₁.now settings.recencyDays = some jobs) (inside : read ∈ jobs)
    (active : read.IsActive w₁.now) :
    ∃ pass report,
      cycle settings w₁.now {} w₁.store w₁.group = (pass, .finished report) ∧
      pass.store.job? read.id = some (read.withStatus .failed) ∧
      report.failedJobs = ((Pass.start settings w₁.store w₁.group).visits w₁.now jobs).countP
        (fun visit => visit.Failed) ∧
      (∃ visit ∈ (Pass.start settings w₁.store w₁.group).visits w₁.now jobs,
        visit.job = read ∧ visit.Failed) ∧
      (∀ id, ∀ sight ∈ pass.group.sight? id read.id,
        sight.descriptor.job = read.withStatus .failed) ∧
      ∀ w₂ jobs',
        Run settings (fun _ event => event ≠ .cycle ∧ event.Spares read.id)
          ⟨pass.store, pass.group, w₁.now⟩ w₂ →
        w₂.store.recentJobs? w₂.now settings.recencyDays = some jobs' →
        (∃ job ∈ jobs', job.id = read.id) →
        ∃ w₃, w₂.Cycles settings w₃ ∧ (∀ id, w₃.group.Lacks id read.id) ∧
          (∀ (i : SliceRef) (s : Slice), w₂.group.floor.slices[i]? = some s →
            s.piece.job = read.id → s.owner ≠ none →
            w₃.group.floor.slices[i]? = some s.cancelled) ∧
          ∀ w₄, w₃.Run settings (fun _ event => event.Spares read.id) w₄ →
            ∀ id, w₄.group.Lacks id read.id := by
  have sound : w.Sound := ⟨reachable.sound, distinct⟩
  obtain ⟨member, rfl⟩ := Group.mem_of_manager? managed
  have doomed : w.Doomed m.home read.id failure := by
    refine ⟨List.mem_map_of_mem member, wanted, ?_⟩
    rw [sound.group.sight?_of_mem member, Site.sight?_tracked tracked found]
    exact failed
  obtain ⟨sound₁, doomed₁⟩ := Run.keeps meanwhile sound
    (fun clean keeps happens before => happens.doomed clean keeps before) doomed
  obtain ⟨pass, report, done, stored, count, visited, shown⟩ :=
    doomed₁.marked sound₁ recent inside active
  refine ⟨pass, report, done, stored, count, visited, shown, fun w₂ jobs' later recent' met => ?_⟩
  have marked : w₁.Cycles settings ⟨pass.store, pass.group, w₁.now⟩ := ⟨pass, report, done, rfl⟩
  have terminal : (read.withStatus .failed).IsTerminal := .inr (.inl rfl)
  -- between the two cycles the store still tells the job as FAILED
  have kept : ∀ {w event w'}, w.Sound → (event ≠ .cycle ∧ event.Spares read.id) →
      Happens settings w event w' →
      w.store.job? (read.withStatus .failed).id = some (read.withStatus .failed) →
      w'.store.job? (read.withStatus .failed).id = some (read.withStatus .failed) :=
    fun clean allowed happens before => happens.stored clean allowed.2 terminal before
  obtain ⟨sound₂, stored₂⟩ := Run.keeps later (marked.sound sound₁) kept stored
  have cycles : w₂.Cycles settings _ := ⟨_, _, cycle_finished w₂.group recent', rfl⟩
  have settled : Settled (read.withStatus .failed) _ :=
    cycles.settles sound₂ terminal stored₂ recent' met
  have sound₃ := cycles.sound sound₂
  refine ⟨_, cycles, settled.lacks sound₃, fun i s here of bound => ?_, fun w₄ onward => ?_⟩
  · exact cycles.cancels sound₂ terminal stored₂ settled here of bound
  · obtain ⟨sound₄, settled₄⟩ := settled.lasts sound₃ terminal onward
    exact settled₄.lacks sound₄

theorem reach_worked (acts : List Manager.Act) : w.group.Reach (w.worked acts).group := by
  unfold worked
  cases done : w.group.run? (acts.map (.on 1)) with
  | none => exact .refl
  | some group => exact .of_run? done

/-- Two instances share a job of one slice, which no cycle has seen. -/
def shared : World := ⟨⟨[sample], [.small 3 0 []]⟩, .pair, .ofMillis 5000⟩

/-- Each of them has the slice, and it has failed for good on the first one. -/
def sharedFailing : World :=
  (shared.after [sample]).worked
    [.start, .take, .grant, .proceed, .land 1 (.answers (.fatal "gone"))]

theorem sharedFailing_reachable : sharedFailing.group.Reachable := by
  have fresh : shared.group.Reachable := ⟨_, _, _, .refl⟩
  have recent : shared.store.recentJobs? shared.now ({} : Settings).recencyDays = some [sample] :=
    Store.recentJobs?_of_sorted ⟨-431995000000000⟩ (by decide) (by decide)
  obtain ⟨jobs, -, -, went⟩ :=
    cycle_went fresh.sound (by decide) (cycle_finished shared.group recent)
  obtain ⟨recency, limit, homes, run⟩ := fresh
  have begun : Group.Reach _ (shared.after [sample]).group := run.trans went.run
  exact ⟨recency, limit, homes, begun.trans (reach_worked _)⟩

/-- The second instance learns of the failure with the second cycle, which cancels its slice. -/
theorem fatal_failure_spreads_shared :
    [0, 1].map sharedFailing.group.floor.stateOf? = [some .failed, some .pending] ∧
    ∃ pass report w, cycle {} sharedFailing.now {} sharedFailing.store sharedFailing.group =
        (pass, .finished report) ∧
      pass.store.job? sample.id = some (sample.withStatus .failed) ∧ report.failedJobs = 1 ∧
      Cycles {} ⟨pass.store, pass.group, sharedFailing.now⟩ w ∧
      (∀ id, w.group.Lacks id sample.id) ∧
      (w.group.floor.slices[1]?).map Slice.state = some .cancelled := by
  have recent : sharedFailing.store.recentJobs? sharedFailing.now
      ({} : Settings).recencyDays = some [sample] :=
    Store.recentJobs?_of_sorted ⟨-431995000000000⟩ (by decide) (by decide)
  have known : (sharedFailing.group.manager? 1).bind (fun m =>
      (m.tracker? sample.id).bind fun t =>
        (sharedFailing.group.floor.trackers[t]?).bind fun k => k.fatal.map fun _ =>
          decide (∃ record ∈ sharedFailing.store.recordsOf sample.id,
            m.home.Holds record.replicas)) = some true := by
    decide
  obtain ⟨m, managed, rest⟩ := Option.bind_eq_some_iff.mp known
  obtain ⟨t, tracked, rest⟩ := Option.bind_eq_some_iff.mp rest
  obtain ⟨k, found, rest⟩ := Option.bind_eq_some_iff.mp rest
  obtain ⟨failure, failed, wanted⟩ := Option.map_eq_some_iff.mp rest
  obtain ⟨pass, report, done, stored, -, -, -, onward⟩ :=
    fatal_failure_spreads sharedFailing_reachable (by decide) managed tracked found failed
      (of_decide_eq_true wanted) .refl recent List.mem_cons_self (by decide)
  have same := (cycle_finished sharedFailing.group recent).symm.trans done
  cases same
  have again : Store.recentJobs? (sharedFailing.after [sample]).store sharedFailing.now
      ({} : Settings).recencyDays = some [sample.withStatus .failed] :=
    Store.recentJobs?_of_sorted ⟨-431995000000000⟩ (by decide) (by decide)
  obtain ⟨w, cycles, gone, cancelled, -⟩ := onward _ _ .refl again ⟨_, List.mem_cons_self, rfl⟩
  have pending : ((sharedFailing.after [sample]).group.floor.slices[1]?).map
      (fun s => decide (s.piece.job = sample.id ∧ s.owner ≠ none ∧
        s.cancelled.state = .cancelled)) = some true := by
    decide
  obtain ⟨s, here, facts⟩ := Option.map_eq_some_iff.mp pending
  obtain ⟨of, bound, state⟩ := of_decide_eq_true facts
  refine ⟨by decide, _, _, w, done, stored, by decide, cycles, gone, ?_⟩
  rw [cancelled 1 s here of bound]
  exact congrArg some state

end World

end Restage
