import Restage.Path
import Restage.TimeId.Spelling

/-!
# Slice keys

Within one instance a slice is named by its job, its bucket and the directory it is staged into.
A key keeps the directory as it was spelled, and two keys mean the same work when their slots
agree: a slot has the components of the directory in place of its spelling.
-/

namespace Restage

/-- The name of a slice within one instance. -/
structure SliceKey where
  job : TimeId
  bucket : Int16
  target : Path
  deriving DecidableEq

/-- What a key means, whatever the spelling of its directory. -/
structure Slot where
  job : TimeId
  bucket : Int16
  target : List Component
  deriving DecidableEq

namespace SliceKey

def slot (key : SliceKey) : Slot := ⟨key.job, key.bucket, key.target.components⟩

/-- The text a key is shown as. -/
def render (key : SliceKey) : String :=
  key.job.render ++ "/" ++ toString key.bucket.toInt ++ "@" ++ key.target.text

end SliceKey

end Restage
