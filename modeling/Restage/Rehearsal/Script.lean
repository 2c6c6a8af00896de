import Restage.Outcome

/-!
# Scripts for the processor

In a rehearsal the processor follows a script. The script has a list of behaviours for each bucket:
the first time a slice is processed it shows the first of them, the next time the second, and from
the end of the list on always the last.
-/

namespace Restage

/-- What the processor does with a slice. -/
structure Behaviour where
  /-- What it says in the end. -/
  outcome : Outcome := .success
  /-- Whether it waits to be released before. -/
  holds : Bool := false
  /-- Whether it goes on waiting when the slice is cancelled. -/
  ignoresCancel : Bool := false
  deriving DecidableEq, Repr, Inhabited

/-- The behaviours for each bucket. -/
abbrev Script := List (Int × List Behaviour)

namespace Behaviour

/-- What a processor that dies is taken to say. -/
def died : Outcome := .retriable "Processor task aborted"

/-- What the processor says of a slice that was cancelled while it waited. -/
def cancelled : Outcome := .retriable "cancelled"

/-- What the processor says by now, if anything. -/
def says? (behaviour : Behaviour) (released tokenCancelled : Bool) : Option Outcome :=
  if !behaviour.holds || released then some behaviour.outcome
  else if tokenCancelled && !behaviour.ignoresCancel then some cancelled
  else none

end Behaviour

/-- The behaviour of the `time`-th turn of a bucket, counted from zero. -/
def Script.turn (script : Script) (bucket : Int) (time : Nat) : Behaviour :=
  match script.lookup bucket with
  | none => {}
  | some behaviours => (behaviours[min time (behaviours.length - 1)]?).getD {}

end Restage
