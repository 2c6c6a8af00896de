import Restage.TimeId.Spelling

/-!
# Job directories

Everything a job stages lies below one directory, named `restore-` and the job's identifier. The
name is the only source of the directory's age: `JobDir.id?` reads the identifier back, and
`JobDir.IsOutdated` compares the instant it embeds with a clock reading.
-/

namespace Restage.JobDir

/-- What every job directory's name begins with. -/
def marker : String := "restore-"

/-- The name of a job's directory. -/
def name (id : TimeId) : String := marker ++ id.render

/-- The job a directory is named for; none for any other name, and for an identifier that embeds
no instant. -/
def id? (name : String) : Option TimeId :=
  (List.isPrefixOf? marker.toList name.toList).bind fun rest =>
    (TimeId.ofChars? rest).filter fun id => id.IsTimeBased

/-- Whether a directory of that name was made more than `recency` before `now`, in whole
milliseconds. A directory exactly `recency` old is kept. -/
def IsOutdated (name : String) (recency : Span) (now : Instant) : Prop :=
  match (id? name).bind TimeId.unixMillis? with
  | some created => (recency.millis : Int) < now.millis - created
  | none => False

instance (name : String) (recency : Span) (now : Instant) :
    Decidable (IsOutdated name recency now) := by
  unfold IsOutdated
  split <;> infer_instance

end Restage.JobDir
