import Restage.Path

/-!
# Faults

Two kinds of things go wrong. A `Fault` is met by the service itself and ends what it was doing.
A `JobFault` is met by a piece of work: a retriable one is the slice's own, a fatal one is the
whole job's and is recorded once, so that it is told apart by identity and not by its text.
-/

namespace Restage

/-- What the service may fail with. -/
inductive Fault where
  | config (detail : String)
  | io (detail : String)
  | invalidInput (detail : String)
  | cleanupFailed (refused : List Path)
  deriving DecidableEq, Repr

namespace Fault

/-- The text a fault is reported with. -/
def message : Fault → String
  | config detail => "Configuration error: " ++ detail
  | io detail => "I/O error: " ++ detail
  | invalidInput detail => "Invalid input: " ++ detail
  | cleanupFailed refused =>
      "Failed to delete " ++ toString refused.length ++ " obsolete restore job director(ies)"

end Fault

/-- A failure that ends a job. Its serial number is its identity. -/
structure FatalFailure where
  serial : Nat
  message : String
  deriving DecidableEq, Repr, Inhabited

/-- What a piece of work may fail with. -/
inductive JobFault where
  | fatal (failure : FatalFailure)
  | retriable (message : String)
  deriving DecidableEq, Repr

namespace JobFault

/-- The text a failure is reported with. -/
def message : JobFault → String
  | fatal failure => "Restore job failed: " ++ failure.message
  | retriable message => "Restore slice failed (retriable): " ++ message

def IsFatal : JobFault → Prop
  | fatal _ => True
  | retriable _ => False

instance : (fault : JobFault) → Decidable fault.IsFatal
  | fatal _ => .isTrue trivial
  | retriable _ => .isFalse id

/-- Fatal failures are the same when they are one recorded failure, retriable ones when they say
the same. -/
def same : JobFault → JobFault → Bool
  | fatal left, fatal right => left.serial == right.serial
  | retriable left, retriable right => left == right
  | _, _ => false

end JobFault

end Restage
