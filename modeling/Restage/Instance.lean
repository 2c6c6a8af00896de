import Restage.Path

/-!
# Database instances

An instance is one database node whose staging directory the service fills. Job records name the
replicas of a slice either by host alone or by host and port.
-/

namespace Restage

/-- A managed database instance. -/
structure Instance where
  id : UInt32
  host : String
  port : UInt16
  stagingDir : Path
  deriving DecidableEq, Repr

namespace Instance

/-- Host and port, as the status of a replica is recorded under. -/
def address (node : Instance) : String := node.host ++ ":" ++ toString node.port.toNat

/-- Whether a replica's name means this instance. -/
def Answers (node : Instance) (replica : String) : Prop :=
  replica = node.host ∨ replica = node.address

instance (node : Instance) (replica : String) : Decidable (node.Answers replica) :=
  inferInstanceAs (Decidable (_ ∨ _))

/-- Whether a slice with those replicas belongs on this instance: a slice that names no replica
belongs on every one. -/
def Holds (node : Instance) (replicas : List String) : Prop :=
  replicas = [] ∨ ∃ replica ∈ replicas, node.Answers replica

instance (node : Instance) (replicas : List String) : Decidable (node.Holds replicas) :=
  inferInstanceAs (Decidable (_ ∨ _))

end Instance

end Restage
