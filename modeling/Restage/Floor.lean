import Restage.Job
import Restage.Slice

/-!
# The floor

Slices, the trackers that own them and the queues they wait in are shared: a queue and a tracker
may mean the same slice, and what happens to it shows in both. The floor holds them in three
tables and everything else refers to them by number. Entries are only ever added or changed in
place, so a number means the same thing for ever.
-/

namespace Restage

/-- A job descriptor as it is handed around. Two descriptors may say the same and still be
different ones, so each has a serial number. -/
structure Descriptor where
  serial : Nat
  job : Job
  deriving DecidableEq

/-- All slices of one job on one instance. -/
structure Tracker where
  /-- The descriptor that all of its slices read. -/
  descriptor : Descriptor
  /-- Its slices, each under its slot. -/
  members : List (Slot × SliceRef)
  /-- The failure that ended the job. -/
  fatal : Option FatalFailure
  /-- Where its slices wait to be processed. -/
  queue : QueueRef
  /-- Whether anyone still holds it. A slice does not. -/
  held : Bool

/-- Slices that wait to be processed, the first to come first. -/
structure Queue where
  waiting : List SliceRef
  /-- How many slices came and were not yet granted a permit. -/
  counted : Nat
  /-- Whether nobody takes slices any more. -/
  closed : Bool
  deriving DecidableEq, Repr, Inhabited

/-- The tables, and the last serial number that was given out. -/
structure Floor where
  slices : Array Slice := #[]
  trackers : Array Tracker := #[]
  queues : Array Queue := #[]
  minted : Nat := 0

namespace Floor

/-! ## Tables -/

/-- A new slice and its number. -/
def addSlice (floor : Floor) (slice : Slice) : Floor × SliceRef :=
  ({ floor with slices := floor.slices.push slice }, floor.slices.size)

/-- A new tracker and its number. -/
def addTracker (floor : Floor) (tracker : Tracker) : Floor × TrackerRef :=
  ({ floor with trackers := floor.trackers.push tracker }, floor.trackers.size)

/-- A new empty queue and its number. -/
def addQueue (floor : Floor) : Floor × QueueRef :=
  ({ floor with queues := floor.queues.push ⟨[], 0, false⟩ }, floor.queues.size)

def modifySlice (floor : Floor) (slice : SliceRef) (change : Slice → Slice) : Floor :=
  { floor with slices := floor.slices.modify slice change }

def modifyTracker (floor : Floor) (tracker : TrackerRef) (change : Tracker → Tracker) : Floor :=
  { floor with trackers := floor.trackers.modify tracker change }

def modifyQueue (floor : Floor) (queue : QueueRef) (change : Queue → Queue) : Floor :=
  { floor with queues := floor.queues.modify queue change }

/-- A serial number that was never given out before. -/
def mint (floor : Floor) : Floor × Nat := ({ floor with minted := floor.minted + 1 }, floor.minted)

/-- A descriptor of its own for a job. -/
def describe (floor : Floor) (job : Job) : Floor × Descriptor :=
  let (floor, serial) := floor.mint
  (floor, ⟨serial, job⟩)

/-! ## Looking around -/

/-- The tracker a slice is bound to, as long as someone holds it. -/
def keeper? (floor : Floor) (slice : Slice) : Option TrackerRef :=
  slice.owner.filter fun owner => (floor.trackers[owner]?).any Tracker.held

/-- The descriptor a slice reads through its tracker. -/
def descriptorOf? (floor : Floor) (slice : SliceRef) : Option Descriptor := do
  let found ← floor.slices[slice]?
  let keeper ← floor.keeper? found
  let tracker ← floor.trackers[keeper]?
  some tracker.descriptor

/-- The slices of a tracker. -/
def membersOf (floor : Floor) (tracker : TrackerRef) : List SliceRef :=
  match floor.trackers[tracker]? with
  | some found => found.members.map Prod.snd
  | none => []

/-- The state of a slice. -/
def stateOf? (floor : Floor) (slice : SliceRef) : Option SliceState :=
  (floor.slices[slice]?).map Slice.state

/-! ## Queues -/

/-- A slice put at the end of a queue. A closed queue drops it. -/
def enqueue (floor : Floor) (queue : QueueRef) (slice : SliceRef) : Floor :=
  floor.modifyQueue queue fun found =>
    if found.closed then found
    else { found with waiting := found.waiting ++ [slice], counted := found.counted + 1 }

end Floor

end Restage
