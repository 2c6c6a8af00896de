import Restage.Proofs.Discovery.Worlds
import Restage.Proofs.Group.Tracking

/-!
# Events in a world

`World.Happens` is all that may happen in a world, event by event: any act in its group, whoever
asks for it, anything that is written into its store, the clock going on, and cycles. A `World.Run`
allows some events only, and what every allowed event keeps the run keeps (`World.Run.keeps`).

A cycle treats a job that it reads by its class and leaves every other one alone
(`World.Cycles.treats`). So of a finished job that no instance shows nothing is ever seen again, as
long as nobody submits it or records it anew (`World.Happens.settled`).
-/

namespace Restage

open Manager Discovery

/-- A finished job stays as it was recorded, and no instance shows it. -/
theorem Discovery.Treated.of_terminal {now : Instant} {before after : Pass} {last : Job}
    {told : List (Except JobFault Standing)} (treated : Treated now before after last told)
    (terminal : last.IsTerminal) :
    after.store.job? last.id = some last ∧ ∀ id, after.group.sight? id last.id = none := by
  cases treated with
  | finished terminal' stored gone => exact ⟨stored, gone⟩
  | expired unfinished => exact absurd terminal unfinished
  | failed active => exact absurd terminal active.1
  | given active => exact absurd terminal active.1

namespace World

inductive Event where
  | act (act : Group.Act)
  | insertJob (job : Job)
  | insertRecord (record : SliceRecord)
  | updateStatus (job : TimeId) (status : JobStatus)
  | tick (now : Instant)
  | cycle

/-- What an event makes of a world. -/
inductive Happens (settings : Settings) (w : World) : Event → World → Prop
  | act {act : Group.Act} {group : Group} (done : w.group.act? act = some group) :
    Happens settings w (.act act) { w with group := group }
  | insertJob (job : Job) :
    Happens settings w (.insertJob job) { w with store := w.store.insertJob job }
  | insertRecord (record : SliceRecord) :
    Happens settings w (.insertRecord record) { w with store := w.store.insertRecord record }
  | updateStatus {job : TimeId} {status : JobStatus} {store : Store}
    (done : w.store.updateStatus job status = .ok store) :
    Happens settings w (.updateStatus job status) { w with store := store }
  | tick {now : Instant} (later : w.now.nanos ≤ now.nanos) :
    Happens settings w (.tick now) { w with now := now }
  | cycle {w' : World} (cycles : w.Cycles settings w') : Happens settings w .cycle w'

/-- A run of events that are all allowed where they happen. -/
abbrev Run (settings : Settings) (allowed : World → Event → Prop) : World → World → Prop :=
  Relation.ReflTransGen fun w w' => ∃ event, allowed w event ∧ Happens settings w event w'

variable {w w' : World} {settings : Settings} {event : Event} {job : TimeId}
  {allowed : World → Event → Prop}

theorem Happens.sound (happens : Happens settings w event w') (sound : w.Sound) : w'.Sound := by
  cases happens with
  | act done => exact ⟨sound.group.step ⟨_, done⟩, sound.distinct⟩
  | insertJob job => exact ⟨sound.group, sound.distinct.insertJob job⟩
  | insertRecord record => exact ⟨sound.group, sound.distinct⟩
  | updateStatus done => exact ⟨sound.group, sound.distinct.updateStatus done⟩
  | tick later => exact ⟨sound.group, sound.distinct⟩
  | cycle cycles => exact cycles.sound sound

/-- What every allowed event keeps is kept by a run of them. -/
theorem Run.keeps {property : World → Prop} (run : w.Run settings allowed w') (sound : w.Sound)
    (step : ∀ {w event w'}, w.Sound → allowed w event → Happens settings w event w' →
      property w → property w')
    (begin : property w) : w'.Sound ∧ property w' := by
  induction run with
  | refl => exact ⟨sound, begin⟩
  | tail _ last ih =>
      obtain ⟨event, fine, happens⟩ := last
      exact ⟨happens.sound ih.1, step ih.1 fine happens ih.2⟩

/-! ## What a cycle does to a job -/

theorem Cycles.treats (cycles : w.Cycles settings w') (sound : w.Sound) (job : TimeId) :
    ∃ pass jobs, w' = ⟨pass.store, pass.group, w.now⟩ ∧
      w.store.recentJobs? w.now settings.recencyDays = some jobs ∧
      pass.store.records = w.store.records ∧ pass.group.homes = w.group.homes ∧
      ((∃ read ∈ jobs, read.id = job ∧
        ∃ told, Treated w.now (Pass.start settings w.store w.group) pass read told) ∨
      ((∀ read ∈ jobs, read.id ≠ job) ∧
        Pass.Leaves job (Pass.start settings w.store w.group) pass)) := by
  obtain ⟨pass, report, done, rfl⟩ := cycles
  obtain ⟨jobs, recent, -, went⟩ := cycle_went sound.group sound.distinct done
  refine ⟨pass, jobs, rfl, recent, went.records, went.homes, ?_⟩
  by_cases met : ∃ read ∈ jobs, read.id = job
  · obtain ⟨read, inside, same⟩ := met
    obtain ⟨visit, listed, rfl⟩ :=
      Pass.visit_of_mem w.now (Pass.start settings w.store w.group) inside
    exact .inl ⟨visit.job, Pass.job_of_mem_visits listed, same, _, went.treated visit listed⟩
  · have away : ∀ read ∈ jobs, read.id ≠ job := fun read inside same => met ⟨read, inside, same⟩
    exact .inr ⟨away, went.leaves job fun visit listed =>
      away visit.job (Pass.job_of_mem_visits listed)⟩

/-! ## What stays -/

theorem Happens.homes (happens : Happens settings w event w') (sound : w.Sound) :
    w'.group.homes = w.group.homes := by
  cases happens with
  | act done => exact sound.group.homes_of_act done
  | insertJob | insertRecord | updateStatus | tick => rfl
  | cycle cycles =>
      obtain ⟨pass, jobs, rfl, -, -, homes, -⟩ := cycles.treats sound default
      exact homes

/-- No record is ever lost. -/
theorem Happens.records (happens : Happens settings w event w') (sound : w.Sound)
    {record : SliceRecord} (inside : record ∈ w.store.recordsOf job) :
    record ∈ w'.store.recordsOf job := by
  have kept : ∀ {store : Store}, (∀ record ∈ w.store.records, record ∈ store.records) →
      record ∈ store.recordsOf job := by
    intro store all
    obtain ⟨listed, of⟩ := List.mem_filter.mp inside
    exact List.mem_filter.mpr ⟨all record listed, of⟩
  cases happens with
  | act | tick => exact inside
  | insertJob other => exact kept fun record listed => listed
  | insertRecord other => exact kept fun record listed => List.mem_append_left _ listed
  | updateStatus done =>
      refine kept fun record listed => ?_
      unfold Store.updateStatus at done
      split at done <;> cases done
      exact listed
  | cycle cycles =>
      obtain ⟨pass, jobs, rfl, -, records, -⟩ := cycles.treats sound job
      exact kept fun record listed => records ▸ listed

/-! ## Settled jobs -/

/-- Nobody but a cycle submits anything for a job, and nobody records the job anew. -/
def Event.Spares (job : TimeId) : Event → Prop
  | .act asked => ¬ asked.Submits job
  | .insertJob other => other.id ≠ job
  | .updateStatus other _ => other ≠ job
  | .insertRecord _ | .tick _ | .cycle => True

variable {last : Job} {jobs : List Job}

/-- A cycle lets go of a finished job when it comes to it, and leaves it alone otherwise. -/
theorem Cycles.of_finished (cycles : w.Cycles settings w') (sound : w.Sound)
    (terminal : last.IsTerminal) (stored : w.store.job? last.id = some last) :
    w'.store.job? last.id = some last ∧
      ((∀ id, w'.group.sight? id last.id = none) ∨
        (∀ jobs, w.store.recentJobs? w.now settings.recencyDays = some jobs →
          ∀ read ∈ jobs, read.id ≠ last.id) ∧
        ∀ id, w'.group.sight? id last.id = w.group.sight? id last.id) := by
  obtain ⟨pass, jobs, rfl, recent, -, -, met | missed⟩ := cycles.treats sound last.id
  · obtain ⟨read, inside, same, told, treated⟩ := met
    have known := sound.distinct.recent_stored recent inside
    rw [same, stored] at known
    cases known
    obtain ⟨stored', gone⟩ := treated.of_terminal terminal
    exact ⟨stored', .inl gone⟩
  · refine ⟨missed.2.stored.trans stored, .inr ⟨fun jobs' recent' => ?_, missed.2.shown⟩⟩
    obtain rfl := Option.some.inj (recent.symm.trans recent')
    exact missed.1

/-- The store tells a finished job as it was last recorded. -/
theorem Happens.stored (happens : Happens settings w event w') (sound : w.Sound)
    (spares : event.Spares last.id) (terminal : last.IsTerminal)
    (stored : w.store.job? last.id = some last) : w'.store.job? last.id = some last := by
  cases happens with
  | act | insertRecord | tick => exact stored
  | insertJob other =>
      have apart : other.id ≠ last.id := spares
      rw [Store.job?_insertJob, if_neg (Ne.symm apart)]
      exact stored
  | @updateStatus other status store done =>
      have apart : other ≠ last.id := spares
      unfold Store.updateStatus at done
      split at done
      · cases done
      · next known =>
          cases done
          have same := Store.id_of_job? known
          rw [Store.job?_insertJob]
          refine (if_neg ?_).trans stored
          exact fun equal => apart (same.symm.trans equal.symm)
  | cycle cycles => exact (cycles.of_finished sound terminal stored).1

/-- A job is finished in the store, and no instance shows it. -/
structure Settled (last : Job) (w : World) : Prop where
  stored : w.store.job? last.id = some last
  unseen : ∀ id, w.group.sight? id last.id = none

theorem Settled.lacks (settled : w.Settled last) (sound : w.Sound) (id : UInt32) :
    w.group.Lacks id last.id := by
  intro m managed
  exact sound.group.untracked_iff.mp settled.unseen m (Group.mem_of_manager? managed).1

/-- A cycle that finds a job finished lets go of it everywhere. -/
theorem Cycles.settles (cycles : w.Cycles settings w') (sound : w.Sound)
    (terminal : last.IsTerminal) (stored : w.store.job? last.id = some last)
    (recent : w.store.recentJobs? w.now settings.recencyDays = some jobs)
    (read : ∃ job ∈ jobs, job.id = last.id) : w'.Settled last := by
  obtain ⟨stored', gone | missed⟩ := cycles.of_finished sound terminal stored
  · exact ⟨stored', gone⟩
  · obtain ⟨job, inside, same⟩ := read
    exact absurd same (missed.1 jobs recent job inside)

theorem Happens.settled (happens : Happens settings w event w') (sound : w.Sound)
    (spares : event.Spares last.id) (terminal : last.IsTerminal) (settled : w.Settled last) :
    w'.Settled last := by
  refine ⟨happens.stored sound spares terminal settled.stored, ?_⟩
  cases happens with
  | act done => exact sound.group.unseen_of_act done spares settled.unseen
  | insertJob | insertRecord | updateStatus | tick => exact settled.unseen
  | cycle cycles =>
      obtain ⟨-, gone | missed⟩ := cycles.of_finished sound terminal settled.stored
      · exact gone
      · intro id
        rw [missed.2]
        exact settled.unseen id

/-- Nothing is seen of a finished job again. -/
theorem Settled.lasts (settled : w.Settled last) (sound : w.Sound) (terminal : last.IsTerminal)
    (run : w.Run settings (fun _ event => event.Spares last.id) w') : w'.Sound ∧ w'.Settled last :=
  Run.keeps run sound
    (fun clean spares happens before => happens.settled clean spares terminal before) settled

end World

end Restage
