import Restage.Fault
import Restage.Job.Directory
import Restage.Slice.Key

/-!
# Pieces of work

A `SliceRecord` is a slice as the job store holds it. A `Recipe` adds where an instance stages it,
and `Recipe.build` makes the `Piece`: the part of a slice that never changes.

Everything a piece stages goes below `<staging>/restore-<job>/<upload>/<keyspace>/<table>`, and its
archive is a file of its own in that directory.
-/

namespace Restage

/-- A slice as the job store records it. -/
structure SliceRecord where
  job : TimeId
  sliceId : String
  bucket : Int16
  upload : String
  keyspace : String
  table : String
  storageBucket : String
  storageKey : String
  compressedSize : UInt64
  replicas : List String
  deriving DecidableEq

/-- The part of a slice that never changes. -/
structure Piece where
  sliceId : String
  job : TimeId
  bucket : Int16
  keyspace : String
  table : String
  storageBucket : String
  storageKey : String
  compressedSize : UInt64
  target : Path
  replicas : List String
  deriving DecidableEq

/-- What a piece is made from. Only the job and the staging location have to be given. -/
structure Recipe where
  sliceId : Option String := none
  job : Option TimeId := none
  bucket : Int16 := 0
  keyspace : String := ""
  table : String := ""
  storageBucket : String := ""
  storageKey : String := ""
  compressedSize : UInt64 := 0
  staging : Option (Path × String) := none
  replicas : List String := []

namespace Recipe

/-- A name put into a sorted list of distinct names. -/
def insertName (name : String) : List String → List String
  | [] => [name]
  | head :: rest =>
      if name < head then name :: head :: rest
      else if name = head then head :: rest
      else head :: insertName name rest

/-- The distinct names of a list in ascending order. -/
def nameSet (names : List String) : List String := names.foldr insertName []

/-- The recipe of a recorded slice. The staging location is the instance's and still missing. -/
def ofRecord (record : SliceRecord) : Recipe where
  sliceId := some record.sliceId
  job := some record.job
  bucket := record.bucket
  keyspace := record.keyspace
  table := record.table
  storageBucket := record.storageBucket
  storageKey := record.storageKey
  compressedSize := record.compressedSize
  replicas := record.replicas

/-- The same recipe below a staging directory. -/
def stagedAt (recipe : Recipe) (staging : Path) (upload : String) : Recipe :=
  { recipe with staging := some (staging, upload) }

/-- The directory that a slice of a job is staged into. -/
def targetOf (staging : Path) (job : TimeId) (upload keyspace table : String) : Path :=
  (((staging.join (JobDir.name job)).join upload).join keyspace).join table

/-- The identifier of a slice that was given none. -/
def defaultSliceId (job : TimeId) (bucket : Int16) : String :=
  job.render ++ "-" ++ toString bucket.toInt

/-- Makes the piece. A missing job is reported before a missing staging location. -/
def build (recipe : Recipe) : Except Fault Piece :=
  match recipe.job, recipe.staging with
  | none, _ => .error (.invalidInput "restore slice requires a job id")
  | some _, none => .error (.invalidInput "restore slice requires a staging location")
  | some job, some (staging, upload) =>
      .ok {
        sliceId := recipe.sliceId.getD (defaultSliceId job recipe.bucket)
        job := job
        bucket := recipe.bucket
        keyspace := recipe.keyspace
        table := recipe.table
        storageBucket := recipe.storageBucket
        storageKey := recipe.storageKey
        compressedSize := recipe.compressedSize
        target := targetOf staging job upload recipe.keyspace recipe.table
        replicas := nameSet recipe.replicas }

end Recipe

namespace Piece

def key (piece : Piece) : SliceKey := ⟨piece.job, piece.bucket, piece.target⟩

def slot (piece : Piece) : Slot := piece.key.slot

/-- The name of a slice's archive: its identifier with every slash replaced, or its bucket when
the identifier is empty. -/
def archiveName (piece : Piece) : String :=
  let stem :=
    if piece.sliceId = "" then "bucket-" ++ toString piece.bucket.toInt
    else piece.sliceId.map fun c => if c = '/' then '_' else c
  stem ++ ".tar.gz"

/-- Where a slice's archive is kept while it is staged. -/
def archivePath (piece : Piece) : Path := piece.target.join piece.archiveName

end Piece

end Restage
