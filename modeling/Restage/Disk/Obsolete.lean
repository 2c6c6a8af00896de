import Restage.Disk
import Restage.Job.Directory

/-!
# Obsolete job directories

A path is obsolete when a folder stands there itself, not behind a link, and its name is that of a
job whose directory has outlived the recency window.
-/

namespace Restage.Disk

/-- Whether a path leads to an obsolete job directory. -/
def IsObsolete (disk : Disk) (path : Path) (recency : Span) (now : Instant) : Prop :=
  match disk.entryAt? path, path.fileName? with
  | some entry, some name => entry.IsFolder ∧ JobDir.IsOutdated name recency now
  | _, _ => False

instance (disk : Disk) (path : Path) (recency : Span) (now : Instant) :
    Decidable (disk.IsObsolete path recency now) := by
  unfold IsObsolete
  split <;> infer_instance

end Restage.Disk
