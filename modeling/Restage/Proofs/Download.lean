import Restage.Download
import Restage.Proofs.Disk

/-!
# What comes of processing a slice

`Download.processBy_classified` says what the processor answers, for every answer of the object
store, every look at which the cancellation of the slice is noticed and whatever comes of the
unpacking. It is fatal that the object does not exist, a slice is staged when its whole body was
written, has the recorded size and was unpacked (`Download.Completes`), and everything else may be
tried again. The archive is gone afterwards.

The lemmas follow the functions from the inside out. Each function has one lemma for the case in
which it goes well, which says what it answers, and one for all others, which says that the fault is
one that passes.
-/

namespace Restage

open Download

variable {unpack : Unpacker} {disk stored : Disk} {piece : Piece} {destination : Path}
  {answer : Answer} {events : List BodyEvent} {chunks : List ByteArray} {written : ByteArray}

/-! ## Looks -/

/-- What is seen of a body by one who looks `looks` times at it before the slice is cancelled. -/
def BodyEvent.seenIn : Nat → List BodyEvent → List BodyEvent
  | 0, _ => [.cancelled]
  | _ + 1, [] => []
  | looks + 1, event :: rest => event :: seenIn looks rest

/-- What is seen of an answer when the slice is cancelled after so many looks, if it is. The first
look is for the answer itself. -/
def Answer.seenIn (answer : Answer) : Option Nat → Answer
  | none => answer
  | some 0 => .cancelled
  | some (looks + 1) =>
      match answer with
      | .body events => .body (BodyEvent.seenIn looks events)
      | other => other

/-- A body is seen as a whole when there is a look for each chunk and one for the end. -/
theorem BodyEvent.seenIn_eq_chunks {looks : Nat} :
    BodyEvent.seenIn looks events = chunks.map .chunk ↔
      events = chunks.map .chunk ∧ chunks.length < looks := by
  induction looks generalizing events chunks with
  | zero =>
      rw [BodyEvent.seenIn]
      cases chunks with
      | nil => exact ⟨nofun, fun whole => absurd whole.2 (Nat.not_lt_zero _)⟩
      | cons chunk rest => exact ⟨nofun, fun whole => absurd whole.2 (Nat.not_lt_zero _)⟩
  | succ looks ih =>
      cases events with
      | nil =>
          cases chunks with
          | nil => exact ⟨fun _ => ⟨rfl, Nat.succ_pos looks⟩, fun _ => rfl⟩
          | cons chunk rest => exact ⟨nofun, nofun⟩
      | cons event later =>
          cases chunks with
          | nil => exact ⟨nofun, nofun⟩
          | cons chunk rest =>
              rw [BodyEvent.seenIn, List.map_cons, List.cons.injEq, List.cons.injEq, ih,
                List.length_cons, Nat.succ_lt_succ_iff, and_assoc]

/-! ## Faults -/

/-- A fault that leaves the slice to be tried again. -/
def DownloadFault.Passes (fault : DownloadFault) : Prop :=
  ∃ detail, fault.outcome = .retriable detail

/-- The bytes of some chunks, one after the other. -/
def Download.joined (chunks : List ByteArray) : ByteArray := chunks.foldl (· ++ ·) ByteArray.empty

/-! ## Bodies -/

theorem Download.copy_chunks_append :
    copy destination written (chunks.map .chunk ++ events) =
      copy destination (chunks.foldl (· ++ ·) written) events := by
  induction chunks generalizing written with
  | nil => rfl
  | cons chunk rest ih =>
      rw [List.map_cons, List.cons_append, copy, ih]
      rfl

theorem Download.copy_chunks :
    copy destination written (chunks.map .chunk) = (chunks.foldl (· ++ ·) written, none) := by
  rw [← List.append_nil (chunks.map BodyEvent.chunk), copy_chunks_append, copy]

theorem Download.copy_short (destination : Path) (written : ByteArray)
    (short : ∀ chunks : List ByteArray, events ≠ chunks.map .chunk) :
    ∃ fault, (copy destination written events).2 = some fault ∧ fault.Passes := by
  induction events generalizing written with
  | nil => exact absurd rfl (short [])
  | cons event rest ih =>
      cases event with
      | chunk bytes =>
          exact ih _ fun chunks same => short (bytes :: chunks) (congrArg _ same)
      | unwritable | broken | cancelled | unflushed => exact ⟨_, rfl, _, rfl⟩

theorem Download.stream_whole (put : disk.putFile destination (joined chunks) = .ok stored) :
    stream disk destination (chunks.map .chunk) =
      (stored, .ok (joined chunks).size) := by
  rw [joined] at put
  rw [stream, copy_chunks]
  simp only [put]
  rfl

theorem Download.stream_short
    (short : ∀ chunks stored, events = chunks.map .chunk →
      disk.putFile destination (joined chunks) ≠ .ok stored) :
    ∃ next fault, stream disk destination events = (next, .error fault) ∧ fault.Passes := by
  rw [stream]
  cases put : disk.putFile destination (copy destination ByteArray.empty events).1 with
  | error fault =>
      simp only [put]
      exact ⟨_, _, rfl, _, rfl⟩
  | ok stored =>
      have broken : ∀ chunks : List ByteArray, events ≠ chunks.map .chunk := by
        rintro chunks rfl
        rw [copy_chunks] at put
        exact short chunks stored rfl put
      obtain ⟨fault, ended, passes⟩ := copy_short destination .empty broken
      simp only [put, ended]
      exact ⟨_, fault, rfl, passes⟩

/-! ## Slices -/

/-- A body is there as a whole and has the recorded size, and its archive can be written and is
unpacked. `disk` is the disk once the slice's directory is there. -/
def Download.Stages (unpack : Unpacker) (disk : Disk) (piece : Piece) (events : List BodyEvent) :
    Prop :=
  ∃ chunks stored files, events = chunks.map .chunk ∧
    disk.putFile piece.archivePath (joined chunks) = .ok stored ∧
    (joined chunks).size = piece.compressedSize.toNat ∧
    (unpack stored piece.archivePath piece.target).2 = .counted files

theorem Download.fetchBy_staged (stages : Stages unpack disk piece events) :
    ∃ next files, fetchBy unpack disk piece (.body events) = (next, .ok files) := by
  obtain ⟨chunks, stored, files, rfl, put, size, counted⟩ := stages
  rw [fetchBy]
  simp only [stream_whole put]
  rw [stageBy, if_neg (not_not_intro size)]
  cases unpacked : unpack stored piece.archivePath piece.target with
  | mk next ending =>
      rw [unpacked] at counted
      cases counted
      exact ⟨next, files, rfl⟩

theorem Download.stageBy_failed {archive target : Path} {expected downloaded : Nat}
    (failed : downloaded = expected → ∀ files, (unpack disk archive target).2 ≠ .counted files) :
    ∃ next fault, stageBy unpack disk archive target expected downloaded = (next, .error fault) ∧
      fault.Passes := by
  rw [stageBy]
  split
  · exact ⟨_, _, rfl, _, rfl⟩
  · next same =>
      have refused := failed (Decidable.not_not.mp same)
      cases unpacked : unpack disk archive target with
      | mk next ending =>
          rw [unpacked] at refused
          cases ending with
          | counted files => exact absurd rfl (refused files)
          | refused refusal => exact ⟨next, _, rfl, _, rfl⟩
          | died => exact ⟨next, _, rfl, _, rfl⟩

theorem Download.fetchBy_unstaged (failed : ¬ Stages unpack disk piece events) :
    ∃ next fault, fetchBy unpack disk piece (.body events) = (next, .error fault) ∧
      fault.Passes := by
  rw [fetchBy]
  by_cases whole : ∃ chunks stored, events = chunks.map .chunk ∧
      disk.putFile piece.archivePath (joined chunks) = .ok stored
  · obtain ⟨chunks, stored, rfl, put⟩ := whole
    simp only [stream_whole put]
    refine stageBy_failed fun size files counted => failed ?_
    exact ⟨chunks, stored, files, rfl, put, size, counted⟩
  · obtain ⟨next, fault, streamed, passes⟩ := stream_short fun chunks stored same put =>
      whole ⟨chunks, stored, same, put⟩
    simp only [streamed]
    exact ⟨next, fault, rfl, passes⟩

/-- Nothing but a folder is left where a file was to be taken away. -/
theorem Download.entryAt?_discard (disk : Disk) (path : Path) :
    (discard disk path).entryAt? path = none ∨
      (discard disk path).entryAt? path = some .folder := by
  rw [discard]
  rcases disk.dropFile_cases path with ⟨fault, kept, left⟩ | ⟨place, dropped, below, found⟩
  · rw [kept]
    exact left
  · rw [dropped]
    exact .inl (Disk.entryAt?_erase below found)

/-! ## Outcomes -/

/-- The store says that there is no such object before the slice is cancelled. -/
def Download.Misses (answer : Answer) (looks? : Option Nat) : Prop :=
  answer = .missing ∧ looks? ≠ some 0

/-- What has to come together for a slice to be staged, once its directory is there. The slice is
not cancelled before the end of the body was seen. -/
def Download.Completes (unpack : Unpacker) (disk : Disk) (piece : Piece) (answer : Answer)
    (looks? : Option Nat) : Prop :=
  ∃ chunks : List ByteArray, answer = .body (chunks.map .chunk) ∧
    (∀ looks, looks? = some looks → chunks.length + 1 < looks) ∧
    Stages unpack disk piece (chunks.map .chunk)

variable {looks? : Option Nat}

theorem Answer.seenIn_eq_body :
    answer.seenIn looks? = .body (chunks.map .chunk) ↔
      answer = .body (chunks.map .chunk) ∧
        ∀ looks, looks? = some looks → chunks.length + 1 < looks := by
  cases looks? with
  | none => exact ⟨fun seen => ⟨seen, nofun⟩, And.left⟩
  | some looks =>
      cases looks with
      | zero => exact ⟨nofun, fun whole => absurd (whole.2 0 rfl) (Nat.not_lt_zero _)⟩
      | succ looks =>
          cases answer with
          | missing | failed | cancelled => exact ⟨nofun, nofun⟩
          | body events => simp [Answer.seenIn, BodyEvent.seenIn_eq_chunks]

theorem Answer.seenIn_eq_missing : answer.seenIn looks? = .missing ↔ Misses answer looks? := by
  rw [Misses]
  cases looks? with
  | none => exact ⟨fun seen => ⟨seen, nofun⟩, And.left⟩
  | some looks =>
      cases looks with
      | zero => exact ⟨nofun, fun misses => absurd rfl misses.2⟩
      | succ looks => cases answer <;> simp [Answer.seenIn]

/-- It is enough to know what is seen of the answer. -/
theorem Download.completes_iff :
    Completes unpack disk piece answer looks? ↔
      ∃ events, answer.seenIn looks? = .body events ∧ Stages unpack disk piece events := by
  constructor
  · rintro ⟨chunks, whole, looked, stages⟩
    exact ⟨_, Answer.seenIn_eq_body.mpr ⟨whole, looked⟩, stages⟩
  · rintro ⟨_, seen, chunks, stored, files, rfl, rest⟩
    obtain ⟨whole, looked⟩ := Answer.seenIn_eq_body.mp seen
    exact ⟨chunks, whole, looked, chunks, stored, files, rfl, rest⟩

theorem Download.processBy_unmade (unpack : Unpacker) (answer : Answer) {fault : DiskFault}
    (unmade : (disk.makeFoldersAt piece.target).2 = some fault) :
    ∃ detail, (processBy unpack disk piece answer).2 = .retriable detail := by
  rw [processBy]
  cases made : disk.makeFoldersAt piece.target with
  | mk there fault? =>
      rw [made] at unmade
      cases unmade
      exact ⟨_, rfl⟩

section Made

variable {there : Disk} (made : disk.makeFoldersAt piece.target = (there, none))

include made

theorem Download.processBy_staged (stages : Stages unpack there piece events) :
    (processBy unpack disk piece (.body events)).2 = .success := by
  obtain ⟨next, files, fetched⟩ := fetchBy_staged stages
  rw [processBy, made]
  simp only [fetched]

theorem Download.processBy_missing :
    ∃ detail, (processBy unpack disk piece .missing).2 = .fatal detail := by
  rw [processBy, made]
  exact ⟨_, rfl⟩

theorem Download.processBy_passing (other : answer ≠ .missing)
    (failed : ∀ events, answer = .body events → ¬ Stages unpack there piece events) :
    ∃ detail, (processBy unpack disk piece answer).2 = .retriable detail := by
  have passing : ∃ next fault, fetchBy unpack there piece answer = (next, .error fault) ∧
      fault.Passes := by
    cases answer with
    | missing => exact absurd rfl other
    | failed | cancelled => exact ⟨_, _, rfl, _, rfl⟩
    | body events => exact fetchBy_unstaged (failed events rfl)
  obtain ⟨next, fault, fetched, detail, passes⟩ := passing
  rw [processBy, made]
  simp only [fetched]
  exact ⟨detail, passes⟩

/-- Taking the archive away is the last thing that is done. -/
theorem Download.processBy_discards (unpack : Unpacker) (answer : Answer) :
    ∃ left, (processBy unpack disk piece answer).1 = discard left piece.archivePath := by
  rw [processBy, made]
  cases fetched : fetchBy unpack there piece answer with
  | mk next ending => cases ending <;> exact ⟨next, by simp only [fetched]⟩

/-- The three ways in which the processing of a slice ends whose directory could be made. -/
theorem Download.processBy_cases (unpack : Unpacker) (answer : Answer) (looks? : Option Nat) :
    let outcome := (processBy unpack disk piece (answer.seenIn looks?)).2
    let misses := Misses answer looks?
    let completes := Completes unpack there piece answer looks?
    misses ∧ ¬ completes ∧ (∃ detail, outcome = .fatal detail) ∨
      ¬ misses ∧ completes ∧ outcome = .success ∨
      ¬ misses ∧ ¬ completes ∧ ∃ detail, outcome = .retriable detail := by
  simp only [completes_iff, ← Answer.seenIn_eq_missing]
  by_cases misses : answer.seenIn looks? = .missing
  · refine .inl ⟨misses, ?_, misses ▸ processBy_missing made⟩
    rintro ⟨events, seen, -⟩
    exact nomatch misses.symm.trans seen
  refine .inr ?_
  by_cases completes : ∃ events, answer.seenIn looks? = .body events ∧
      Stages unpack there piece events
  · obtain ⟨events, seen, stages⟩ := completes
    exact .inl ⟨misses, ⟨events, seen, stages⟩, seen ▸ processBy_staged made stages⟩
  · have failed := fun events seen stages => completes ⟨events, seen, stages⟩
    exact .inr ⟨misses, completes, processBy_passing made misses failed⟩

end Made

/-- What the processor answers for any slice, any answer of the store, any look at which the
cancellation of the slice is noticed and any unpacker. A slice whose directory cannot be made may be
tried again, since no object is asked for then. Otherwise nothing but a folder is at the archive's
place in the end. -/
theorem Download.processBy_classified (unpack : Unpacker) (disk : Disk) (piece : Piece)
    (answer : Answer) (looks? : Option Nat) :
    let made := disk.makeFoldersAt piece.target
    let done := processBy unpack disk piece (answer.seenIn looks?)
    let fatal := made.2 = none ∧ Misses answer looks?
    let staged := made.2 = none ∧ Completes unpack made.1 piece answer looks?
    ((∃ detail, done.2 = .fatal detail) ↔ fatal) ∧
      (done.2 = .success ↔ staged) ∧
      ((∃ detail, done.2 = .retriable detail) ↔ ¬ fatal ∧ ¬ staged) ∧
      (made.2 = none → done.1.entryAt? piece.archivePath = none ∨
        done.1.entryAt? piece.archivePath = some .folder) := by
  intro made done fatal staged
  cases unmade : made.2 with
  | some fault =>
      obtain ⟨detail, retried⟩ := processBy_unmade unpack (answer.seenIn looks?) unmade
      simp [fatal, staged, done, retried, unmade]
  | none =>
      have folders : disk.makeFoldersAt piece.target = (made.1, none) := Prod.ext rfl unmade
      obtain ⟨left, discards⟩ := processBy_discards folders unpack (answer.seenIn looks?)
      have cleared := entryAt?_discard left piece.archivePath
      rw [← discards] at cleared
      simp only [fatal, staged, unmade, true_and]
      rcases processBy_cases folders unpack answer looks? with
        ⟨misses, fails, detail, ended⟩ | ⟨found, completes, ended⟩ | ⟨found, fails, detail, ended⟩
      · simp [done, ended, misses, fails, cleared]
      · simp [done, ended, found, completes, cleared]
      · simp [done, ended, found, fails, cleared]

/-- A slice whose archive has three bytes. -/
def Piece.threeBytes : Piece := ⟨"a", .ofNat 1, 0, "k", "t", "b", "x", 3, ⟨"/s"⟩, []⟩

/-- Its archive in two chunks. -/
def Download.twoChunks : List ByteArray := [⟨#[1, 2]⟩, ⟨#[3]⟩]

theorem Disk.makeFoldersAt_threeBytes :
    ({} : Disk).makeFoldersAt Piece.threeBytes.target = (⟨[(["s"], .folder)]⟩, none) := by
  have steps : Piece.threeBytes.target.components = [.root, .name ['s']] := by decide
  have short : ¬ 4096 ≤ Piece.threeBytes.target.text.utf8ByteSize := by decide
  rw [Disk.makeFoldersAt, if_neg short, steps]
  simp +decide [Disk.makeFolders, Disk.makeFolder, Disk.walk, Disk.get?, Disk.put, Disk.erase,
    bind, Except.bind]

theorem Disk.putFile_threeBytes (bytes : ByteArray) :
    (⟨[(["s"], .folder)]⟩ : Disk).putFile Piece.threeBytes.archivePath bytes =
      .ok ⟨[(["s"], .folder), (["s", "a.tar.gz"], .file bytes)]⟩ := by
  have path : Piece.threeBytes.archivePath = ⟨"/s/a.tar.gz"⟩ := by decide +kernel
  have steps : Disk.stepsOf "/s/a.tar.gz".toList =
      [.root, .here, .name ['s'], .name "a.tar.gz".toList] := by decide
  have free : [(["s"], Entry.folder)].lookup ["s", "a.tar.gz"] = none := by decide
  have place : (⟨[(["s"], .folder)]⟩ : Disk).resolve true ⟨"/s/a.tar.gz"⟩ =
      .ok ["s", "a.tar.gz"] := by
    rw [Disk.resolve, steps]
    simp +decide [Disk.walk, Disk.get?, free]
  rw [path, Disk.putFile, place]
  simp +decide [Disk.get?, Disk.put, Disk.erase, free, bind, Except.bind]

/-- The slice is staged although it is cancelled, since that is noticed after the last look. -/
theorem Download.processBy_classified_threeBytes :
    (processBy (fun disk _ _ => (disk, .counted 1)) {} .threeBytes
      ((Answer.body (twoChunks.map .chunk)).seenIn (some 4))).2 = .success := by
  have classified := processBy_classified (fun disk _ _ => (disk, .counted 1)) {} .threeBytes
    (.body (twoChunks.map .chunk)) (some 4)
  simp only [Disk.makeFoldersAt_threeBytes, true_and] at classified
  obtain ⟨-, staged, -, -⟩ := classified
  refine staged.mpr ⟨twoChunks, rfl, ?_, twoChunks, _, 1, rfl, Disk.putFile_threeBytes _, ?_, rfl⟩
  · rintro looks ⟨⟩
    decide
  · decide

end Restage
