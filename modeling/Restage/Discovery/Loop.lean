import Restage.Discovery.Cycle

/-!
# The discovery loop

The loop runs a cycle, waits as long as its pace asks for, and runs the next one. Time is a number
of milliseconds that only ever grows. However far it jumps, one cycle follows, and the wait begins
anew from there.
-/

namespace Restage.Discovery

/-- The pace after a single cycle. A cycle that fails leaves it alone. -/
def paceAfter (pace : Pace) : CycleEnd → Pace
  | .finished report => .after report
  | .failed _ | .outOfCalendar => pace

/-- The pace of the loop after a cycle. After a failure it is idle. -/
def loopPaceAfter (pace : Pace) : CycleEnd → Pace
  | .finished report => .after report
  | .failed _ => .idle
  | .outOfCalendar => pace

/-- Whether obsolete directories are swept after a cycle, as they are even when the store does not
answer. -/
def sweepsAfter : CycleEnd → Bool
  | .finished _ | .failed _ => true
  | .outOfCalendar => false

/-- The time of the next cycle of the loop; none when the loop has ended. -/
def dueAfter (settings : Settings) (clock : Nat) (pace : Pace) : CycleEnd → Option Nat
  | .finished _ | .failed _ => some (clock + (pace.delay settings).millis)
  | .outOfCalendar => none

/-- Whether the loop runs a cycle at a time. -/
def IsDue (due : Option Nat) (clock : Nat) : Prop := ∃ time ∈ due, time ≤ clock

instance (due : Option Nat) (clock : Nat) : Decidable (IsDue due clock) :=
  match due with
  | none => .isFalse (by simp [IsDue])
  | some time => decidable_of_iff (time ≤ clock) (by simp [IsDue])

end Restage.Discovery
