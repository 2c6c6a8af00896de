import Restage.Proofs.Manager.Sound

/-!
# Permits and the count of waiting slices

The dispatcher of a manager is its queue, its worker and its flights. `Manager.Dispatch` is one step
of it: a slice is put into the queue, the worker starts or goes on, a flight lands, or something
happens to the slices that leaves the queue alone, such as a cancellation. Which slices come, how
often, and in which state they are does not matter here.

`Manager.Metered` says that permits are neither lost nor made and that the count of the queue is the
number of slices without a permit. Every step keeps it (`Manager.Metered.dispatched`), and where it
holds the worker can go on when there is something to do and a permit to do it with
(`Manager.Metered.enabled`).
-/

namespace Restage

open Manager

variable {floor next : Floor} {m m' : Manager} {i : SliceRef}

/-! ## What an outcome leaves alone -/

/-- The queues are the same, and no serial number was taken back. -/
structure Floor.SameQueues (floor next : Floor) : Prop where
  queues : next.queues = floor.queues
  minted : floor.minted ≤ next.minted

theorem Floor.SameQueues.refl : Floor.SameQueues floor floor := ⟨rfl, Nat.le_refl _⟩

theorem Floor.SameQueues.trans {last : Floor} (first : Floor.SameQueues floor next)
    (second : Floor.SameQueues next last) : Floor.SameQueues floor last :=
  ⟨second.queues.trans first.queues, Nat.le_trans first.minted second.minted⟩

theorem Floor.SameQueues.moveBy (change : Slice → Option Slice) :
    Floor.SameQueues floor (floor.moveBy i change).1 := by
  rw [Floor.moveBy]
  split
  · exact ⟨rfl, Nat.le_refl _⟩
  · exact .refl

theorem Floor.SameQueues.cancelAll {t : TrackerRef} :
    Floor.SameQueues floor (floor.cancelAll t).1 :=
  ⟨Floor.queues_cancelAll, Nat.le_of_eq Floor.minted_cancelAll.symm⟩

theorem Floor.SameQueues.recordFatal (t : TrackerRef) (failure : FatalFailure) :
    Floor.SameQueues floor (floor.recordFatal t failure) := by
  rw [Floor.recordFatal]
  split
  · exact .refl
  · split
    · have marked : Floor.SameQueues floor
          (floor.modifyTracker t fun found => { found with fatal := some failure }) :=
        ⟨rfl, Nat.le_refl _⟩
      exact marked.trans .cancelAll
    · split
      · exact .cancelAll
      · exact .refl

theorem Floor.SameQueues.report (cause : JobFault) :
    Floor.SameQueues floor (floor.report i cause) := by
  unfold Floor.report
  split
  · exact .recordFatal _ _
  · exact .refl

theorem Floor.SameQueues.fail (cause : JobFault) :
    Floor.SameQueues floor (floor.fail i cause).1 := by
  have moved : Floor.SameQueues floor (floor.moveBy i fun found => found.fail? cause).1 :=
    .moveBy _
  exact moved.trans (.report cause)

theorem Floor.SameQueues.applyOutcome (replica : String) (outcome : Outcome) :
    Floor.SameQueues floor (floor.applyOutcome i replica outcome) := by
  have noted : ∀ {floor : Floor} {status : ReplicaStatus},
      Floor.SameQueues floor (floor.noteReplica i replica status) := ⟨rfl, Nat.le_refl _⟩
  cases outcome with
  | success =>
      have moved : Floor.SameQueues floor (floor.complete i).1 := .moveBy _
      rw [Floor.applyOutcome]
      split
      · next completed done =>
          rw [done] at moved
          exact moved.trans noted
      · next completed done =>
          rw [done] at moved
          exact moved
  | retriable detail => exact noted.trans (.fail _)
  | fatal detail =>
      have minted : Floor.SameQueues (floor.noteReplica i replica .failed)
          (floor.noteReplica i replica .failed).mint.1 := ⟨rfl, Nat.le_succ _⟩
      exact (noted.trans minted).trans (.fail _)

/-! ## The steps of a dispatcher -/

inductive Manager.Dispatch : Site → Site → Prop
  | enqueue {floor : Floor} {m : Manager} (i : SliceRef) :
    Dispatch (floor, m) (floor.enqueue m.queue i, m)
  /-- Slices are built, moved or cancelled, jobs come and go, and other managers work. -/
  | meanwhile {floor next : Floor} {m : Manager} {jobs : List (TimeId × TrackerRef)}
    (queue : next.queues[m.queue]? = floor.queues[m.queue]?)
    (minted : floor.minted ≤ next.minted) : Dispatch (floor, m) (next, { m with jobs := jobs })
  | start {floor : Floor} {m : Manager} : Dispatch (floor, m) (floor, m.start.1)
  | take {site site' : Site} (taken : site.2.take? site.1 = some site') : Dispatch site site'
  | grant {site site' : Site} (granted : site.2.obtain? site.1 = some site') : Dispatch site site'
  | proceed {site site' : Site} (proceeded : site.2.proceed? site.1 = some site') :
    Dispatch site site'
  | land {site site' : Site} {number : Nat} (ending : Ending)
    (landed : site.2.land? site.1 number ending.outcome = some site') : Dispatch site site'

/-- Any number of steps of a dispatcher. -/
abbrev Manager.Dispatched : Site → Site → Prop := Relation.ReflTransGen Manager.Dispatch

/-! ## What every step keeps -/

/-- The permit that a worker holds. -/
def Worker.permits : Worker → Nat
  | ready _ => 1
  | _ => 0

/-- The slice that a worker holds without a permit. -/
def Worker.waits : Worker → Nat
  | waiting _ => 1
  | _ => 0

structure Manager.Metered (limit : Nat) (m : Manager) (floor : Floor) : Prop where
  permits : m.free + m.flights.length + m.worker.permits = limit
  counted : ∃ queue, floor.queues[m.queue]? = some queue ∧ queue.closed = false ∧
    queue.counted = queue.waiting.length + m.worker.waits
  numbers : m.Numbers floor
  going : m.stopping = false ∧ m.worker ≠ .gone

variable {limit : Nat}

theorem Manager.Metered.take (metered : m.Metered limit floor)
    (taken : m.take? floor = some (next, m')) : m'.Metered limit next := by
  obtain ⟨permits, ⟨queue, here, shut, counted⟩, numbers, going⟩ := metered
  rw [Manager.take?] at taken
  split at taken
  · next i rest idle waiting =>
      cases taken
      rw [here, Option.map_some, Option.some.injEq] at waiting
      rw [idle] at permits counted
      rw [waiting] at counted
      refine ⟨permits, ⟨{ queue with waiting := rest }, ?_, shut, counted⟩,
        numbers.mono rfl (Nat.le_refl _), going.1, nofun⟩
      rw [Floor.queues_modifyQueue, if_pos rfl, here, Option.map_some]
  · cases taken

theorem Manager.Metered.grant (metered : m.Metered limit floor)
    (granted : m.obtain? floor = some (next, m')) : m'.Metered limit next := by
  obtain ⟨permits, ⟨queue, here, shut, counted⟩, numbers, going⟩ := metered
  rw [Manager.obtain?] at granted
  split at granted
  · next i free waiting permit =>
      cases granted
      rw [waiting] at permits counted
      rw [permit] at permits
      refine ⟨?_, ⟨{ queue with counted := queue.counted - 1 }, ?_, shut, ?_⟩,
        numbers.mono rfl (Nat.le_refl _), going.1, nofun⟩
      · rw [← permits]
        exact Nat.add_right_comm free m.flights.length 1
      · rw [Floor.queues_modifyQueue, if_pos rfl, here, Option.map_some]
      · rw [counted]
        rfl
  · cases granted

/-- A worker that skips its slice gives its permit back, and one that passes it on hands the permit
on with it. -/
theorem Manager.Metered.proceed (metered : m.Metered limit floor)
    (proceeded : m.proceed? floor = some (next, m')) : m'.Metered limit next := by
  obtain ⟨permits, ⟨queue, here, shut, counted⟩, numbers, going⟩ := metered
  rw [Manager.proceed?] at proceeded
  split at proceeded
  · next i ready =>
      rw [ready] at permits counted
      have held : m.free + m.flights.length + 1 = limit := permits
      have skipped : ({ m with worker := .idle, free := m.free + 1 } : Manager).Metered limit
          floor := by
        refine ⟨?_, ⟨queue, here, shut, counted⟩, numbers.mono rfl (Nat.le_refl _), going.1, nofun⟩
        rw [← held]
        exact Nat.add_right_comm m.free 1 m.flights.length
      split at proceeded
      · next s found =>
          split at proceeded
          · next pending =>
              cases proceeded
              refine ⟨?_, ⟨queue, here, shut, counted⟩, numbers.pass, going.1, nofun⟩
              rw [List.length_append, ← held]
              rfl
          · cases proceeded
            exact skipped
      · cases proceeded
        exact skipped
  · cases proceeded

theorem Manager.Metered.land {number : Nat} {outcome : Outcome} (metered : m.Metered limit floor)
    (landed : m.land? floor number outcome = some (next, m')) : m'.Metered limit next := by
  obtain ⟨permits, ⟨queue, here, shut, counted⟩, numbers, going⟩ := metered
  rw [Manager.land?] at landed
  split at landed
  · cases landed
  · next flight aloft =>
      cases landed
      have same : Floor.SameQueues floor _ :=
        .applyOutcome (i := flight.slice) m.home.address outcome
      have fewer := (Flight.perm_of_find numbers.own aloft).length_eq
      rw [List.length_cons] at fewer
      refine ⟨?_, ⟨queue, by rw [same.queues]; exact here, shut, counted⟩,
        numbers.land same.minted, going⟩
      simp only
      omega

theorem Manager.Metered.start (metered : m.Metered limit floor) :
    m.start.1.Metered limit floor := by
  rw [Manager.start]
  split
  · next unborn =>
      obtain ⟨permits, counted, numbers, going⟩ := metered
      rw [unborn] at permits counted
      exact ⟨permits, counted, numbers.mono rfl (Nat.le_refl _), going.1, nofun⟩
  · exact metered

theorem Manager.Metered.enqueue (metered : m.Metered limit floor) (i : SliceRef) :
    m.Metered limit (floor.enqueue m.queue i) := by
  obtain ⟨permits, ⟨queue, here, shut, counted⟩, numbers, going⟩ := metered
  have pushed : queue.push i =
      { queue with waiting := queue.waiting ++ [i], counted := queue.counted + 1 } := by
    rw [Queue.push, if_neg (by rw [shut]; decide)]
  refine ⟨permits, ⟨queue.push i, ?_, ?_, ?_⟩, numbers.mono rfl (Nat.le_refl _), going⟩
  · rw [Floor.queues_enqueue, if_pos rfl, here, Option.map_some]
  · rw [pushed]
    exact shut
  · rw [pushed]
    simp only [List.length_append, List.length_singleton, counted]
    omega

theorem Manager.Metered.dispatch {site site' : Site} (metered : site.2.Metered limit site.1)
    (step : Dispatch site site') : site'.2.Metered limit site'.1 := by
  cases step with
  | enqueue i => exact metered.enqueue i
  | meanwhile queue minted =>
      obtain ⟨permits, ⟨found, here, shut, counted⟩, numbers, going⟩ := metered
      exact ⟨permits, ⟨found, queue.trans here, shut, counted⟩, numbers.mono rfl minted, going⟩
  | start => exact metered.start
  | take taken => exact metered.take taken
  | grant granted => exact metered.grant granted
  | proceed proceeded => exact metered.proceed proceeded
  | land ending landed => exact metered.land landed

theorem Manager.Metered.dispatched {site site' : Site} (metered : site.2.Metered limit site.1)
    (run : Dispatched site site') : site'.2.Metered limit site'.1 := by
  induction run with
  | refl => exact metered
  | tail _ step ih => exact ih.dispatch step

theorem Manager.Metered.ofInstance {home : Instance} {recency : Span} {queue : QueueRef}
    (empty : floor.queues[queue]? = some ⟨[], 0, false⟩) :
    (Manager.ofInstance home recency limit queue).Metered limit floor where
  permits := rfl
  counted := ⟨_, empty, rfl, rfl⟩
  numbers := ⟨List.nodup_nil, nofun⟩
  going := ⟨rfl, nofun⟩

/-! ## What it comes to -/

/-- A worker that has been started can go on when a slice waits and a permit is left for it. -/
theorem Manager.Metered.enabled (metered : m.Metered limit floor) (started : m.worker ≠ .unborn)
    (waits : floor.waiting m.queue ≠ [] ∨ m.worker.hand ≠ [])
    (left : m.flights.length < limit) : (m.step? floor).isSome = true := by
  obtain ⟨permits, ⟨queue, here, shut, counted⟩, numbers, stopping, there⟩ := metered
  have stays : m.quit? floor = none := by
    rw [Manager.quit?, stopping]
  rw [Manager.step?, stays, Option.orElse_none]
  cases worker : m.worker with
  | unborn => exact absurd worker started
  | gone => exact absurd worker there
  | idle =>
      have some_waiting : queue.waiting ≠ [] := by
        rcases waits with waiting | hand
        · rwa [Floor.waiting_of here] at waiting
        · rw [worker] at hand
          exact absurd rfl hand
      obtain ⟨i, rest, list⟩ := List.exists_cons_of_ne_nil some_waiting
      simp only [Manager.proceed?, Manager.obtain?, Manager.take?, worker, here, list,
        Option.map_some, Option.orElse_none, Option.isSome_some]
  | waiting i =>
      rw [worker] at permits
      have nobody : m.free + m.flights.length = limit := permits
      obtain ⟨free, permit⟩ : ∃ free, m.free = free + 1 :=
        Nat.exists_eq_succ_of_ne_zero (by omega)
      simp only [Manager.proceed?, Manager.obtain?, worker, permit, Option.orElse_none,
        Option.orElse_some, Option.isSome_some]
  | ready i =>
      have proceeds : (m.proceed? floor).isSome = true := by
        rw [Manager.proceed?, worker]
        simp only
        split
        · split
          · rfl
          · rfl
        · rfl
      obtain ⟨after, proceeded⟩ := Option.isSome_iff_exists.mp proceeds
      rw [proceeded, Option.orElse_some]
      rfl

/-- No more slices are with the processor than permits were given out. -/
theorem Manager.Metered.bound (metered : m.Metered limit floor) : m.flights.length ≤ limit := by
  have permits := metered.permits
  omega

/-- The count of the queue is the number of slices that have no permit yet. -/
theorem Manager.Metered.queued (metered : m.Metered limit floor) :
    m.queuedCount floor = (floor.waiting m.queue).length + m.worker.waits := by
  obtain ⟨found, here, -, counted⟩ := metered.counted
  rw [Manager.queuedCount, here, Floor.waiting_of here]
  exact counted

/-- When the worker takes its slice off the count, the count is not zero. -/
theorem Manager.Metered.queued_pos (metered : m.Metered limit floor)
    (waiting : m.worker = .waiting i) : 0 < m.queuedCount floor := by
  rw [metered.queued, waiting, Worker.waits]
  exact Nat.succ_pos _

end Restage
