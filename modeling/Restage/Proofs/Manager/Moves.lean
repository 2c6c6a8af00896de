import Mathlib.Logic.Relation
import Restage.Manager.Sweep
import Restage.Manager.Worker
import Restage.Proofs.Floor.Posts

/-!
# What a manager does, move by move

`Manager.Act` lists the steps that nothing else can come between, `Manager.act?` runs one, and
`Manager.Move` writes out what may come of it: one change of the floor and of the manager, with
what is known of both just before. An act is a chain of moves. A submission to an unknown job is
two, a new tracker and an admission, and a sweep is as many as the jobs whose directories it
deletes, `Manager.cleared` (`Manager.sweep_eq`).

A sweep may as well be taken apart into the removals it makes, since every removal is an act of its
own.
-/

namespace Restage

/-! ## Acts -/

/-- How the task that runs the processor on a slice ends. -/
inductive Ending where
  | answers (outcome : Outcome)
  | panics (detail : String)

/-- What is applied to the slice of a task that has ended. -/
def Ending.outcome : Ending → Outcome
  | answers outcome => outcome
  | panics detail => .retriable ("Processor task aborted: " ++ detail)

inductive Manager.Act where
  | submit (i : SliceRef) (descriptor : Descriptor)
  | update (descriptor : Descriptor)
  | remove (job : TimeId)
  | sweep (trouble : Trouble) (now : Instant) (disk : Disk)
  | start
  | stop
  | take
  | grant
  | proceed
  | quit
  | land (number : Nat) (ending : Ending)

/-- A manager and the floor it works on. -/
abbrev Manager.Site := Floor × Manager

/-- One act of a manager, when it is possible. -/
def Manager.act? (site : Manager.Site) : Manager.Act → Option Manager.Site
  | .submit i descriptor =>
      let (floor, m, _) := site.2.submit site.1 i descriptor
      some (floor, m)
  | .update descriptor => some (site.2.updateJob site.1 descriptor, site.2)
  | .remove job =>
      let (floor, m, _) := site.2.removeJob site.1 job
      some (floor, m)
  | .sweep trouble now disk =>
      let (sweep, _) := site.2.sweep trouble now disk site.1
      some (sweep.floor, sweep.manager)
  | .start => some (site.1, site.2.start.1)
  | .stop => some (site.1, site.2.stop)
  | .take => site.2.take? site.1
  | .grant => site.2.obtain? site.1
  | .proceed => site.2.proceed? site.1
  | .quit => site.2.quit? site.1
  | .land number ending => site.2.land? site.1 number ending.outcome

/-! ## Submissions -/

/-- A manager that has a tracker more. -/
def Manager.tracking (m : Manager) (job : TimeId) (t : TrackerRef) : Manager :=
  { m with jobs := m.jobs ++ [(job, t)] }

theorem Manager.submit_absent {m : Manager} {floor : Floor} {i : SliceRef}
    {descriptor : Descriptor} (absent : floor.slices[i]? = none) :
    m.submit floor i descriptor = (floor, m, .error (.retriable "Unknown slice")) := by
  rw [Manager.submit, absent]

theorem Manager.submit_foreign {m : Manager} {floor : Floor} {i : SliceRef} {s : Slice}
    {descriptor : Descriptor} (here : floor.slices[i]? = some s)
    (foreign : s.piece.job ≠ descriptor.job.id) :
    m.submit floor i descriptor = (floor, m, .error (foreignSlice s.key descriptor.job.id)) := by
  rw [Manager.submit, here]
  exact if_pos foreign

theorem Manager.submit_tracked {m : Manager} {floor : Floor} {i : SliceRef} {s : Slice}
    {descriptor : Descriptor} {t : TrackerRef} (here : floor.slices[i]? = some s)
    (job : s.piece.job = descriptor.job.id) (tracked : m.tracker? descriptor.job.id = some t) :
    m.submit floor i descriptor = ((floor.enrol t i).1, m, (floor.enrol t i).2) := by
  rw [Manager.submit, here]
  simp only [Manager.trackerFor, tracked]
  exact if_neg (not_not.mpr job)

theorem Manager.submit_untracked {m : Manager} {floor : Floor} {i : SliceRef} {s : Slice}
    {descriptor : Descriptor} (here : floor.slices[i]? = some s)
    (job : s.piece.job = descriptor.job.id) (new : m.tracker? descriptor.job.id = none) :
    m.submit floor i descriptor =
      (((floor.addTracker (.fresh descriptor m.queue)).1.enrol floor.trackers.size i).1,
        m.tracking descriptor.job.id floor.trackers.size,
        ((floor.addTracker (.fresh descriptor m.queue)).1.enrol floor.trackers.size i).2) := by
  rw [Manager.submit, here]
  simp only [Manager.trackerFor, new]
  exact if_neg (not_not.mpr job)

/-! ## Removals -/

/-- The floor once a tracker's slices were cancelled and it was let go. -/
def Floor.discarded (floor : Floor) (t : TrackerRef) : Floor :=
  (floor.cancelAll t).1.modifyTracker t fun found => { found with held := false }

def Manager.without (m : Manager) (job : TimeId) : Manager :=
  { m with jobs := m.jobs.filter fun (other, _) => other ≠ job }

theorem Manager.removeJob_of_tracked {m : Manager} {floor : Floor} {job : TimeId}
    {t : TrackerRef} (tracked : m.tracker? job = some t) :
    m.removeJob floor job = (floor.discarded t, m.without job, true) := by
  rw [Manager.removeJob, tracked]
  rfl

theorem Manager.removeJob_of_unknown {m : Manager} {floor : Floor} {job : TimeId}
    (unknown : m.tracker? job = none) : m.removeJob floor job = (floor, m, false) := by
  rw [Manager.removeJob, unknown]

/-- Lets go of some jobs, one after the other. -/
def Manager.removeAll (m : Manager) (floor : Floor) : List TimeId → Manager.Site
  | [] => (floor, m)
  | job :: rest => (m.removeJob floor job).2.1.removeAll (m.removeJob floor job).1 rest

/-! ## Sweeps -/

/-- The jobs whose directories a sweep deletes that comes to the given entries. -/
def Sweep.clears (trouble : Trouble) (now : Instant) (home : Instance) (recency : Span) :
    Disk → List (Option String) → List TimeId
  | _, [] => []
  | disk, none :: rest => clears trouble now home recency disk rest
  | disk, some name :: rest =>
      let path := home.stagingDir.join name
      if disk.IsObsolete path recency now then
        match trouble.delete disk path with
        | (disk, true) => (JobDir.id? name).toList ++ clears trouble now home recency disk rest
        | (disk, false) => clears trouble now home recency disk rest
      else clears trouble now home recency disk rest

/-- The jobs whose directories a manager's sweep deletes. -/
def Manager.cleared (m : Manager) (trouble : Trouble) (now : Instant) (disk : Disk) :
    List TimeId :=
  match disk.list m.home.stagingDir with
  | .ok names =>
      Sweep.clears trouble now m.home m.recency disk (trouble.reads m.home.stagingDir names)
  | .error _ => []

theorem Manager.removeJob_home (m : Manager) (floor : Floor) (job : TimeId) :
    (m.removeJob floor job).2.1.home = m.home ∧
      (m.removeJob floor job).2.1.recency = m.recency := by
  cases tracked : m.tracker? job with
  | none => rw [Manager.removeJob_of_unknown tracked]; exact ⟨rfl, rfl⟩
  | some t => rw [Manager.removeJob_of_tracked tracked]; exact ⟨rfl, rfl⟩

theorem Sweep.foldl_visit (trouble : Trouble) (now : Instant) (entries : List (Option String))
    (sweep : Sweep) :
    ((entries.foldl (Sweep.visit trouble now) sweep).floor,
        (entries.foldl (Sweep.visit trouble now) sweep).manager) =
      sweep.manager.removeAll sweep.floor (Sweep.clears trouble now sweep.manager.home
        sweep.manager.recency sweep.disk entries) := by
  induction entries generalizing sweep with
  | nil => rfl
  | cons entry rest ih =>
      rw [List.foldl_cons, ih]
      cases entry with
      | none => rfl
      | some name =>
          rw [Sweep.clears, Sweep.visit]
          by_cases obsolete : sweep.disk.IsObsolete (sweep.manager.home.stagingDir.join name)
              sweep.manager.recency now
          · simp only [if_pos obsolete]
            rcases trouble.delete sweep.disk (sweep.manager.home.stagingDir.join name) with
              ⟨disk, _ | _⟩
            · rfl
            · simp only [Sweep.forget]
              cases decoded : JobDir.id? name with
              | none => rfl
              | some job =>
                  obtain ⟨home, recency⟩ := sweep.manager.removeJob_home sweep.floor job
                  simp only [home, recency]
                  rfl
          · simp only [if_neg obsolete]

/-- A sweep lets go of the jobs whose directories it deletes, and touches nothing else of the floor
and the manager. -/
theorem Manager.sweep_eq (m : Manager) (floor : Floor) (trouble : Trouble) (now : Instant)
    (disk : Disk) :
    ((m.sweep trouble now disk floor).1.floor, (m.sweep trouble now disk floor).1.manager) =
      m.removeAll floor (m.cleared trouble now disk) := by
  rw [Manager.sweep, Manager.cleared]
  split
  · next listed => simp only [listed, Manager.removeAll]
  · next listed => simp only [listed, Manager.removeAll]
  · next names listed =>
      simp only [listed]
      exact Sweep.foldl_visit trouble now _ _

/-! ## Moves -/

/-- What one step of a manager may change, with what holds before it. -/
inductive Manager.Move : Manager.Site → Manager.Site → Prop
  /-- A tracker is made for a job. -/
  | track {floor : Floor} {m : Manager} {descriptor : Descriptor}
    (new : m.tracker? descriptor.job.id = none) :
    Move (floor, m) ((floor.addTracker (.fresh descriptor m.queue)).1,
      m.tracking descriptor.job.id floor.trackers.size)
  | accept {floor : Floor} {m : Manager} {t : TrackerRef} {k : Tracker} {i : SliceRef} {s : Slice}
    (found : floor.trackers[t]? = some k) (queue : k.queue = m.queue) (held : k.held = true)
    (fine : k.fatal = none) (here : floor.slices[i]? = some s) (free : s.owner = none)
    (job : s.piece.job = k.descriptor.job.id) (new : k.members.lookup s.slot = none) :
    Move (floor, m) (floor.admitted t k i s, m)
  | reopen {floor : Floor} {m : Manager} {t : TrackerRef} {k : Tracker} {i : SliceRef} {s : Slice}
    (found : floor.trackers[t]? = some k) (queue : k.queue = m.queue) (held : k.held = true)
    (fine : k.fatal = none) (here : floor.slices[i]? = some s) (owner : s.owner = some t)
    (failed : s.state = .failed) :
    Move (floor, m) (floor.reopened k i s, m)
  | update {floor : Floor} {m : Manager} {t : TrackerRef} {k : Tracker} {descriptor : Descriptor}
    (found : floor.trackers[t]? = some k) (queue : k.queue = m.queue)
    (job : k.descriptor.job.id = descriptor.job.id) :
    Move (floor, m)
      (floor.modifyTracker t fun found => { found with descriptor := descriptor }, m)
  | discard {floor : Floor} {m : Manager} {job : TimeId} {t : TrackerRef} {k : Tracker}
    (found : floor.trackers[t]? = some k) (queue : k.queue = m.queue)
    (tracked : m.tracker? job = some t) :
    Move (floor, m) (floor.discarded t, m.without job)
  /-- The outcome of a flight is applied to its slice. -/
  | land {floor next : Floor} {m : Manager} {number : Nat} {flight : Flight} {t : TrackerRef}
    {k : Tracker} {s : Slice} {outcome : Outcome}
    (aloft : m.flights.find? (fun flight => flight.number = number) = some flight)
    (here : floor.slices[flight.slice]? = some s) (owner : s.owner = some t)
    (found : floor.trackers[t]? = some k) (queue : k.queue = m.queue)
    (landed : Floor.Landed floor t k flight.slice s m.home.address outcome next) :
    Move (floor, m) (next, { m with
      flights := m.flights.filter fun other => other.number ≠ number
      active := m.active.filter fun slot => slot ≠ s.slot
      free := m.free + 1 })
  | start {floor : Floor} {m : Manager} (unborn : m.worker = .unborn) :
    Move (floor, m) (floor, { m with worker := .idle })
  | stop {floor : Floor} {m : Manager} : Move (floor, m) (floor, m.stop)
  | take {floor : Floor} {m : Manager} {q : Queue} {i : SliceRef} {rest : List SliceRef}
    (idle : m.worker = .idle) (queue : floor.queues[m.queue]? = some q)
    (waiting : q.waiting = i :: rest) :
    Move (floor, m) (floor.modifyQueue m.queue fun queue => { queue with waiting := rest },
      { m with worker := .waiting i })
  | grant {floor : Floor} {m : Manager} {i : SliceRef} {free : Nat}
    (waiting : m.worker = .waiting i) (permit : m.free = free + 1) :
    Move (floor, m)
      (floor.modifyQueue m.queue fun queue => { queue with counted := queue.counted - 1 },
        { m with worker := .ready i, free := free })
  | pass {floor : Floor} {m : Manager} {i : SliceRef} {s : Slice} (ready : m.worker = .ready i)
    (here : floor.slices[i]? = some s) (pending : s.state = .pending) :
    Move (floor, m) (floor.mint.1, { m with
      worker := .idle
      flights := m.flights ++ [⟨floor.minted, i⟩]
      active := Manager.activate s.slot m.active })
  /-- A slice that is not PENDING any more is skipped and its permit given back. -/
  | skip {floor : Floor} {m : Manager} {i : SliceRef} (ready : m.worker = .ready i)
    (past : ∀ s, floor.slices[i]? = some s → s.state ≠ .pending) :
    Move (floor, m) (floor, { m with worker := .idle, free := m.free + 1 })
  | quit {floor : Floor} {m : Manager} (stopping : m.stopping = true) :
    Move (floor, m) (floor.modifyQueue m.queue fun queue =>
      { queue with waiting := [], closed := true }, { m with worker := .gone })

/-- Several moves, one after the other. -/
abbrev Manager.Moves : Manager.Site → Manager.Site → Prop := Relation.ReflTransGen Manager.Move

end Restage
