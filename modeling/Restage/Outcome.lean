/-!
# Outcomes of processing

What the processor of an instance says about a slice it was handed.
-/

namespace Restage

/-- How the processing of a slice ended. -/
inductive Outcome where
  | success
  | retriable (detail : String)
  | fatal (detail : String)
  deriving DecidableEq, Repr, Inhabited

end Restage
