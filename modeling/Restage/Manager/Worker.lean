import Restage.Manager

/-!
# The worker's steps

Each function here is one step that nothing else can come between. The worker takes the next slice,
is granted a permit for it, and passes it on, unless the slice is not PENDING any more: then the
permit goes back at once. A flight lands when the processor has said something about its slice.

A manager that was told to stop lets its worker go, with whatever is still in the queue. Flights
land all the same.
-/

namespace Restage.Manager

/-- The worker is there from now on. The answer is whether it was not before. -/
def start (manager : Manager) : Manager × Bool :=
  if manager.worker = .unborn then ({ manager with worker := .idle }, true) else (manager, false)

/-- Tells the manager to stop. -/
def stop (manager : Manager) : Manager := { manager with stopping := true }

/-- The worker takes the next slice from the queue. -/
def take? (manager : Manager) (floor : Floor) : Option (Floor × Manager) :=
  match manager.worker, (floor.queues[manager.queue]?).map Queue.waiting with
  | .idle, some (slice :: rest) =>
      some (floor.modifyQueue manager.queue fun queue => { queue with waiting := rest },
        { manager with worker := .waiting slice })
  | _, _ => none

/-- The worker is granted a permit for the slice in its hand. -/
def obtain? (manager : Manager) (floor : Floor) : Option (Floor × Manager) :=
  match manager.worker, manager.free with
  | .waiting slice, free + 1 =>
      some (floor.modifyQueue manager.queue fun queue => { queue with counted := queue.counted - 1 },
        { manager with worker := .ready slice, free := free })
  | _, _ => none

/-- A slot put among those that are with the processor. -/
def activate (slot : Slot) (active : List Slot) : List Slot :=
  if slot ∈ active then active else active ++ [slot]

/-- The worker passes the slice in its hand on, or skips it and gives the permit back. -/
def proceed? (manager : Manager) (floor : Floor) : Option (Floor × Manager) :=
  match manager.worker with
  | .ready slice =>
      match floor.slices[slice]? with
      | some found =>
          if found.state = .pending then
            let (floor, number) := floor.mint
            some (floor,
              { manager with
                worker := .idle
                flights := manager.flights ++ [⟨number, slice⟩]
                active := activate found.slot manager.active })
          else some (floor, { manager with worker := .idle, free := manager.free + 1 })
      | none => some (floor, { manager with worker := .idle, free := manager.free + 1 })
  | _ => none

/-- A flight ends: its slot and its permit are given back, and the outcome is applied to its
slice. -/
def land? (manager : Manager) (floor : Floor) (number : Nat) (outcome : Outcome) :
    Option (Floor × Manager) :=
  match manager.flights.find? fun flight => flight.number = number with
  | none => none
  | some flight =>
      let active := match floor.slices[flight.slice]? with
        | some found => manager.active.filter fun slot => slot ≠ found.slot
        | none => manager.active
      some (floor.applyOutcome flight.slice manager.home.address outcome,
        { manager with
          flights := manager.flights.filter fun other => other.number ≠ number
          active := active
          free := manager.free + 1 })

/-- The worker of a manager that was told to stop goes, unless it is just passing a slice on. What
waits in its hand and in the queue is dropped, though it stays counted. -/
def quit? (manager : Manager) (floor : Floor) : Option (Floor × Manager) :=
  match manager.stopping, manager.worker with
  | true, .idle | true, .waiting _ =>
      some (floor.modifyQueue manager.queue fun queue =>
        { queue with waiting := [], closed := true }, { manager with worker := .gone })
  | _, _ => none

/-- The worker's next step, if it can take any. A worker that was told to stop does so first. -/
def step? (manager : Manager) (floor : Floor) : Option (Floor × Manager) :=
  (manager.quit? floor).orElse fun _ => (manager.proceed? floor).orElse fun _ =>
    (manager.obtain? floor).orElse fun _ => manager.take? floor

/-- Lets the worker go on until it has to wait, for at most `fuel` steps. -/
def work (manager : Manager) (floor : Floor) : Nat → Floor × Manager
  | 0 => (floor, manager)
  | fuel + 1 =>
      match manager.step? floor with
      | none => (floor, manager)
      | some (floor, manager) => manager.work floor fuel

/-- A number of steps after which a worker has to wait: three for each slice it may pass on, two to
finish with the one in its hand, and one to go. -/
def workBound (manager : Manager) (floor : Floor) : Nat :=
  match floor.queues[manager.queue]? with
  | some queue => 3 * queue.waiting.length + 3
  | none => 3

end Restage.Manager
