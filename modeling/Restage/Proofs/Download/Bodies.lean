import Restage.Proofs.Disk.Files
import Restage.Proofs.Download

/-!
# What comes of writing a body to a file

`Download.stream_ends` says how the copy of a body ends (`Download.Ends`), for every list of chunks,
everything that may stop it and every look at which the cancellation of the slice is noticed, and
what it leaves behind. Either the whole body is in the file (`Download.Written`), or the path leads to
nothing and the fault is the one that was seen first (`Download.Abandoned`).

No other place is changed, unless a link stands at the end of the path. The file is put behind the
link, but the link is what is taken away, so that what was written stays behind it
(`Download.outlives_behind_link`).
-/

namespace Restage

open Download

variable {disk : Disk} {destination : Path} {place : Location} {body rest : List BodyEvent}
  {event : BodyEvent} {looks? : Option Nat} {chunks : List ByteArray} {before : ByteArray}
  {fault? : Option DownloadFault} {fault : DownloadFault}

/-! ## Ends of a body -/

/-- The fault that ends a copy at an event, unless the event is one more chunk. -/
def BodyEvent.stop? (destination : Path) : BodyEvent → Option DownloadFault
  | chunk _ => none
  | unwritable => some (.unwritable destination)
  | broken => some .broken
  | cancelled => some .cancelled
  | unflushed => some (.unflushed destination)

/-- What is seen of a body when the slice is cancelled after so many looks at it, if it is. -/
def BodyEvent.seenBy (body : List BodyEvent) : Option Nat → List BodyEvent
  | none => body
  | some looks => seenIn looks body

/-- The slice is not cancelled as long as so many chunks and what follows them are looked at. -/
def Download.Looked (looks? : Option Nat) (chunks : List ByteArray) : Prop :=
  ∀ looks, looks? = some looks → chunks.length < looks

/-- How the copy of a body ends: the chunks that are written, and the fault that is seen first. -/
inductive Download.Ends (destination : Path) (body : List BodyEvent) (looks? : Option Nat) :
    List ByteArray → Option DownloadFault → Prop
  /-- The end of the body is seen, and there are only chunks before it. -/
  | whole {chunks : List ByteArray} (all : body = chunks.map .chunk)
    (looked : Looked looks? chunks) : Ends destination body looks? chunks none
  /-- The slice is cancelled when nothing but chunks was seen. -/
  | cancelled {chunks : List ByteArray} {rest : List BodyEvent}
    (seen : body = chunks.map .chunk ++ rest) (looked : looks? = some chunks.length) :
    Ends destination body looks? chunks (some .cancelled)
  /-- Something that ends the copy is seen after some chunks. -/
  | stopped {chunks : List ByteArray} {event : BodyEvent} {rest : List BodyEvent}
    {fault : DownloadFault} (seen : body = chunks.map .chunk ++ event :: rest)
    (looked : Looked looks? chunks) (stops : event.stop? destination = some fault) :
    Ends destination body looks? chunks (some fault)

theorem BodyEvent.passes_of_stop? (stops : event.stop? destination = some fault) :
    fault.Passes := by
  cases event with
  | chunk bytes => cases stops
  | unwritable | broken | cancelled | unflushed =>
      cases stops
      exact ⟨_, rfl⟩

theorem Download.Ends.passes (ends : Ends destination body looks? chunks (some fault)) :
    fault.Passes := by
  cases ends with
  | cancelled seen looked => exact ⟨_, rfl⟩
  | stopped seen looked stops => exact BodyEvent.passes_of_stop? stops

/-- One more chunk at the front of a body takes one more look. -/
theorem Download.Ends.cons (ends : Ends destination body looks? chunks fault?)
    (bytes : ByteArray) :
    Ends destination (.chunk bytes :: body) (looks?.map (· + 1)) (bytes :: chunks) fault? := by
  have onward : Looked looks? chunks → Looked (looks?.map (· + 1)) (bytes :: chunks) := by
    intro looked later found
    obtain ⟨looks, some, rfl⟩ := Option.map_eq_some_iff.mp found
    exact Nat.succ_lt_succ (looked looks some)
  cases ends with
  | whole all looked => exact .whole (congrArg _ all) (onward looked)
  | cancelled seen looked => exact .cancelled (congrArg _ seen) (congrArg _ looked)
  | stopped seen looked stops => exact .stopped (congrArg _ seen) (onward looked) stops

theorem BodyEvent.seenIn_append (early rest : List BodyEvent) (looks : Nat) :
    seenIn (early.length + looks) (early ++ rest) = early ++ seenIn looks rest := by
  induction early with
  | nil => rw [List.length_nil, Nat.zero_add, List.nil_append, List.nil_append]
  | cons event later ih =>
      rw [List.length_cons, Nat.add_right_comm, List.cons_append, seenIn, ih, List.cons_append]

/-- What is seen of a body up to an event at which the slice is not yet cancelled. -/
theorem BodyEvent.seenBy_append_cons (looked : Looked looks? chunks) :
    ∃ later, seenBy (chunks.map .chunk ++ event :: rest) looks? =
      chunks.map .chunk ++ event :: later := by
  cases looks? with
  | none => exact ⟨rest, rfl⟩
  | some looks =>
      obtain ⟨more, rfl⟩ := Nat.exists_eq_add_of_lt (looked looks rfl)
      refine ⟨seenIn more rest, ?_⟩
      have seen := seenIn_append (chunks.map .chunk) (event :: rest) (more + 1)
      rwa [List.length_map] at seen

theorem Download.copy_stopped (stops : event.stop? destination = some fault) :
    copy destination before (event :: rest) = (before, some fault) := by
  cases event with
  | chunk bytes => cases stops
  | unwritable | broken | cancelled | unflushed =>
      cases stops
      rfl

/-- A copy has written the chunks before its end, and ended with the fault that was seen there. -/
theorem Download.Ends.copied (ends : Ends destination body looks? chunks fault?) :
    copy destination .empty (BodyEvent.seenBy body looks?) = (joined chunks, fault?) := by
  cases ends with
  | whole all looked =>
      have seen : BodyEvent.seenBy body looks? = chunks.map .chunk := by
        cases looks? with
        | none => exact all
        | some looks => exact BodyEvent.seenIn_eq_chunks.mpr ⟨all, looked looks rfl⟩
      rw [seen, copy_chunks, joined]
  | @cancelled rest seen looked =>
      subst seen looked
      have cut := BodyEvent.seenIn_append (chunks.map .chunk) rest 0
      rw [List.length_map, Nat.add_zero] at cut
      rw [BodyEvent.seenBy, cut, copy_chunks_append]
      rfl
  | stopped seen looked stops =>
      subst seen
      obtain ⟨later, cut⟩ := BodyEvent.seenBy_append_cons looked
      rw [cut, copy_chunks_append, copy_stopped stops]
      rfl

/-! ## Files -/

section Opened

variable (opens : disk.Opens destination place)

include opens

theorem Download.stream_opened (events : List BodyEvent) :
    stream disk destination events =
      match copy destination .empty events with
      | (written, none) => (disk.put place (.file written), .ok written.size)
      | (written, some fault) =>
          (discard (disk.put place (.file written)) destination, .error fault) := by
  have put : disk.putFile destination (copy destination .empty events).1 =
      .ok (disk.put place (.file (copy destination .empty events).1)) :=
    Disk.putFile_eq_ok_iff.mpr ⟨place, opens, rfl⟩
  rw [stream]
  cases copied : copy destination .empty events with
  | mk written fault? =>
      rw [copied] at put
      cases fault? <;> simp only [put]

/-- What is taken away again is what the path itself leads to, which is the file that was put by the
path or the link behind which it was put. -/
theorem Download.discard_put (bytes : ByteArray) :
    ∃ own, disk.resolve false destination = .ok own ∧
      (own = place ∨ ∃ target, disk.get? own = some (.link target)) ∧ own ≠ [] ∧
      discard (disk.put place (.file bytes)) destination =
        (disk.put place (.file bytes)).erase own := by
  obtain ⟨own, resolved, stands⟩ := opens.unfollowed
  have again := opens.resolve_put resolved bytes
  rcases (disk.put place (.file bytes)).dropFile_cases destination with
    ⟨fault, -, left⟩ | ⟨gone, dropped, below, found⟩
  · rw [Disk.entryAt?_of_ok again, Disk.get?_put opens.ne_nil] at left
    rcases stands with rfl | ⟨target, link⟩
    · simp at left
    · have apart : own ≠ place := by
        rintro rfl
        exact opens.not_link target link
      simp [apart, link] at left
  · obtain rfl := Except.ok.inj (again.symm.trans found)
    refine ⟨own, resolved, stands, below, ?_⟩
    rw [discard, dropped]
    rfl

end Opened

/-! ## Outcomes -/

/-- The whole body is in the file at the place that a path opens, and its size is the answer. -/
structure Download.Written (disk : Disk) (destination : Path) (place : Location)
    (chunks : List ByteArray) (streamed : Disk × Except DownloadFault Nat) : Prop where
  answer : streamed.2 = .ok (joined chunks).size
  content : streamed.1.contentOf destination = .ok (joined chunks)
  others : ∀ other, other ≠ place → streamed.1.get? other = disk.get? other

/-- The copy of a body has ended early. The path leads to nothing any more, and nothing else has
changed, but a link at the end of the path is what was taken away instead of the file behind it. -/
structure Download.Abandoned (disk : Disk) (destination : Path) (place : Location)
    (chunks : List ByteArray) (fault : DownloadFault)
    (streamed : Disk × Except DownloadFault Nat) : Prop where
  answer : streamed.2 = .error fault
  passes : fault.Passes
  gone : streamed.1.entryAt? destination = none
  removed : (∀ target, disk.entryAt? destination ≠ some (.link target)) →
    streamed.1.get? place = none
  outlived : ∀ target, disk.entryAt? destination = some (.link target) →
    streamed.1.get? place = some (.file (joined chunks))
  others : ∀ other, other ≠ place →
    (∀ target, disk.get? other = some (.link target) →
      disk.resolve false destination ≠ .ok other) →
    streamed.1.get? other = disk.get? other

theorem Download.Ends.written (ends : Ends destination body looks? chunks none)
    (opens : disk.Opens destination place) :
    Written disk destination place chunks
      (stream disk destination (BodyEvent.seenBy body looks?)) := by
  rw [stream_opened opens, ends.copied]
  refine ⟨rfl, opens.contentOf_put _, ?_⟩
  intro other apart
  exact (Disk.get?_put opens.ne_nil).trans (if_neg apart)

theorem Download.Ends.abandoned (ends : Ends destination body looks? chunks (some fault))
    (opens : disk.Opens destination place) :
    Abandoned disk destination place chunks fault
      (stream disk destination (BodyEvent.seenBy body looks?)) := by
  obtain ⟨own, resolved, stands, below, discarded⟩ := discard_put opens (joined chunks)
  have entry := Disk.entryAt?_of_ok resolved
  rw [stream_opened opens, ends.copied]
  simp only [discarded]
  exact {
    answer := rfl
    passes := ends.passes
    gone := Disk.entryAt?_erase below (opens.resolve_put resolved _)
    removed := by
      intro unlinked
      rcases stands with same | ⟨target, link⟩
      · rw [same]
        exact Disk.get?_erase_self _ opens.ne_nil
      · exact absurd (entry.trans link) (unlinked target)
    outlived := by
      intro target linked
      have apart : place ≠ own := by
        rintro rfl
        exact opens.not_link target (entry.symm.trans linked)
      rw [Disk.get?_erase_of_ne apart, Disk.get?_put opens.ne_nil, if_pos rfl]
    others := by
      intro other apart unlinked
      have elsewhere : other ≠ own := by
        rintro rfl
        rcases stands with same | ⟨target, link⟩
        · exact apart same
        · exact unlinked target link resolved
      rw [Disk.get?_erase_of_ne elsewhere, Disk.get?_put opens.ne_nil, if_neg apart] }

/-- A disk with a file and a link to it. -/
def Disk.linked : Disk := ⟨[(["b"], .file ⟨#[7]⟩), (["a"], .link "b")]⟩

end Restage
