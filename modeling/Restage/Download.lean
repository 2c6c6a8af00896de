import Restage.Archive
import Restage.Outcome
import Restage.Slice.Piece

/-!
# Staging a slice

The archive of a slice is fetched from the object store, its size is compared with the recorded
one, and it is unpacked into the slice's directory. `Download.stream` writes a body to a file or
leaves no file, `Download.stage` checks and unpacks it, and `Download.process` does all of it and
always takes the archive away again.

What the store sends is given as data: an `Answer`, and a body as the list of events in the order
in which they are seen. What unpacks an archive is a parameter of `Download.stageBy` and
`Download.processBy`, since the task that does it may die; the service uses `Download.unpacker`.
-/

namespace Restage

/-- What is seen while a body is copied. A body ends where its events end. -/
inductive BodyEvent where
  /-- More of the body, which is written. -/
  | chunk (bytes : ByteArray)
  /-- More of the body, which the disk refuses. -/
  | unwritable
  /-- The body breaks off. -/
  | broken
  /-- The slice is cancelled. -/
  | cancelled
  /-- The body is at its end, but the disk refuses what is left to be written. -/
  | unflushed

/-- What the object store says to a request. -/
inductive Answer where
  | body (events : List BodyEvent)
  | missing
  | failed
  /-- The slice was cancelled before the store said anything. -/
  | cancelled

/-- How the task ends that unpacks an archive. -/
inductive Unpacking where
  /-- It is through and has counted the files. -/
  | counted (files : Nat)
  | refused (refusal : Archive.Refusal)
  /-- It dies on the way. -/
  | died

/-- Unpacks the archive at the first path into the folder at the second one. -/
abbrev Unpacker := Disk → Path → Path → Disk × Unpacking

/-- Why a slice is not staged. -/
inductive DownloadFault where
  | noStaging (target : Path)
  | missing (bucket key : String)
  | refused (bucket key : String)
  | uncreatable (destination : Path)
  | unwritable (destination : Path)
  | unflushed (destination : Path)
  | broken
  | wrongSize (archive : Path) (downloaded expected : Nat)
  | unpackable (refusal : Archive.Refusal)
  | lostTask
  | cancelled
  deriving DecidableEq

namespace DownloadFault

/-- The text a fault is reported with. -/
def message : DownloadFault → String
  | noStaging target => "Failed to create staging directory " ++ target.text
  | missing bucket key | refused bucket key =>
      "Failed to get object s3://" ++ bucket ++ "/" ++ key
  | uncreatable destination => "Failed to create " ++ destination.text
  | unwritable destination => "Failed to write to " ++ destination.text
  | unflushed destination => "Failed to flush " ++ destination.text
  | broken => "Failed to read object body"
  | wrongSize archive downloaded expected =>
      "Downloaded " ++ toString downloaded ++ " bytes into " ++ archive.text
        ++ " but expected " ++ toString expected
  | unpackable refusal => refusal.message
  | lostTask => "Extraction task failed"
  | cancelled => "Slice was cancelled"

/-- What a fault means for the slice. Only an object that does not exist is fatal. -/
def outcome (fault : DownloadFault) : Outcome :=
  match fault with
  | missing _ _ => .fatal fault.message
  | _ => .retriable fault.message

end DownloadFault

namespace Download

/-! ## Bodies -/

/-- Copies a body behind what is written: all that is written in the end, and the fault that ended
it early. -/
def copy (destination : Path) (written : ByteArray) :
    List BodyEvent → ByteArray × Option DownloadFault
  | [] => (written, none)
  | .chunk bytes :: rest => copy destination (written ++ bytes) rest
  | .unwritable :: _ => (written, some (.unwritable destination))
  | .broken :: _ => (written, some .broken)
  | .cancelled :: _ => (written, some .cancelled)
  | .unflushed :: _ => (written, some (.unflushed destination))

/-- Takes a file away if it is there. -/
def discard (disk : Disk) (path : Path) : Disk := (disk.dropFile path).toOption.getD disk

/-- Writes a body to a file and answers with its size. The file of a body that is not complete is
taken away. -/
def stream (disk : Disk) (destination : Path) (events : List BodyEvent) :
    Disk × Except DownloadFault Nat :=
  let (written, fault?) := copy destination ByteArray.empty events
  match disk.putFile destination written with
  | .error _ => (disk, .error (.uncreatable destination))
  | .ok disk =>
      match fault? with
      | none => (disk, .ok written.size)
      | some fault => (discard disk destination, .error fault)

/-! ## Archives -/

/-- The unpacker of the service, which does not die. -/
def unpacker : Unpacker := fun disk archive target =>
  match Archive.extract disk archive target with
  | (disk, .ok files) => (disk, .counted files)
  | (disk, .error refusal) => (disk, .refused refusal)

/-- Unpacks a downloaded archive when its size is the recorded one. The answer is the number of
files in the slice's directory. -/
def stageBy (unpack : Unpacker) (disk : Disk) (archive target : Path) (expected downloaded : Nat) :
    Disk × Except DownloadFault Nat :=
  if downloaded ≠ expected then (disk, .error (.wrongSize archive downloaded expected))
  else
    match unpack disk archive target with
    | (disk, .counted files) => (disk, .ok files)
    | (disk, .refused refusal) => (disk, .error (.unpackable refusal))
    | (disk, .died) => (disk, .error .lostTask)

/-- The same with the unpacker of the service. -/
def stage (disk : Disk) (archive target : Path) (expected downloaded : Nat) :
    Disk × Except DownloadFault Nat :=
  stageBy unpacker disk archive target expected downloaded

/-- Downloads and stages a slice whose directory is there. -/
def fetchBy (unpack : Unpacker) (disk : Disk) (piece : Piece) (answer : Answer) :
    Disk × Except DownloadFault Nat :=
  match answer with
  | .cancelled => (disk, .error .cancelled)
  | .missing => (disk, .error (.missing piece.storageBucket piece.storageKey))
  | .failed => (disk, .error (.refused piece.storageBucket piece.storageKey))
  | .body events =>
      match stream disk piece.archivePath events with
      | (disk, .error fault) => (disk, .error fault)
      | (disk, .ok downloaded) =>
          stageBy unpack disk piece.archivePath piece.target piece.compressedSize.toNat downloaded

/-- Processes a slice. Whatever comes of it, the archive is taken away in the end. -/
def processBy (unpack : Unpacker) (disk : Disk) (piece : Piece) (answer : Answer) :
    Disk × Outcome :=
  match disk.makeFoldersAt piece.target with
  | (disk, some _) => (disk, DownloadFault.outcome (.noStaging piece.target))
  | (disk, none) =>
      match fetchBy unpack disk piece answer with
      | (disk, .ok _) => (discard disk piece.archivePath, .success)
      | (disk, .error fault) => (discard disk piece.archivePath, fault.outcome)

/-- The same with the unpacker of the service. -/
def process (disk : Disk) (piece : Piece) (answer : Answer) : Disk × Outcome :=
  processBy unpacker disk piece answer

end Download

end Restage
