import Restage.Gzip
import Restage.Tar.Records
import Restage.Tar.Sparse

/-!
# Archives

An archive is a sequence of members, each a header and its data padded to whole blocks, and ends
at an empty block or where the bytes end. A long name, a long link target or a list of records may
precede a member and then belong to it.

`Tar.members?` reads all members of a compressed archive, or none when anything is wrong before
its end.
-/

namespace Restage.Tar

/-- What a member is. -/
inductive Kind where
  | folder
  | hardLink
  | symbolicLink
  | longName
  | longLink
  | records
  | globalRecords
  | sparse
  | file
  deriving DecidableEq, Repr

/-- The kind a letter stands for. Letters without a meaning stand for files. -/
def Kind.of (letter : UInt8) : Kind :=
  match Char.ofNat letter.toNat with
  | '1' => .hardLink
  | '2' => .symbolicLink
  | '5' => .folder
  | 'L' => .longName
  | 'K' => .longLink
  | 'x' => .records
  | 'g' => .globalRecords
  | 'S' => .sparse
  | _ => .file

/-- A member of an archive. -/
structure Member where
  kind : Kind
  name : String
  link : Option String
  /-- Whether a slash at the end of the name makes a file a folder. -/
  slashMakesFolder : Bool
  bytes : ByteArray

/-- What precedes a member and belongs to it. -/
structure Lead where
  name : Option (List UInt8) := none
  link : Option (List UInt8) := none
  records : Option (List UInt8) := none

def Lead.IsEmpty (lead : Lead) : Prop := lead.name = none ∧ lead.link = none ∧ lead.records = none

instance (lead : Lead) : Decidable lead.IsEmpty := inferInstanceAs (Decidable (_ ∧ _))

/-- The size of data with its padding. -/
def padded (size : Nat) : Nat := (size + (blockSize - 1)) / blockSize * blockSize

/-- A text of its own without a zero byte at its end. -/
def ownText (bytes : List UInt8) : List UInt8 :=
  match bytes.getLast? with
  | some 0 => bytes.dropLast
  | _ => bytes

/-- The member of a header, with what precedes it. -/
def member (lead : Lead) (header : Header) (bytes : ByteArray) : Member where
  kind := Kind.of header.kind
  name := Text.Lossy.decode <|
    match lead.name with
    | some name => ownText name
    | none => (lead.records.bind (value? "path")).getD header.name
  link := Option.map Text.Lossy.decode <|
    match lead.link with
    | some link => some (ownText link)
    | none => (lead.records.bind (value? "linkpath")).orElse fun _ => header.link?
  slashMakesFolder := ¬ header.IsStandard
  bytes := bytes

/-- The lead with one more part, none when that part is there already. -/
def Lead.extended? (lead : Lead) (kind : Kind) (bytes : List UInt8) : Option Lead :=
  match kind with
  | .longName => if lead.name = none then some { lead with name := some bytes } else none
  | .longLink => if lead.link = none then some { lead with link := some bytes } else none
  | .records => if lead.records = none then some { lead with records := some bytes } else none
  | _ => none

/-- Whether a kind only extends the member that follows. -/
def Kind.IsLead (kind : Kind) : Prop := kind = longName ∨ kind = longLink ∨ kind = records

instance (kind : Kind) : Decidable kind.IsLead := inferInstanceAs (Decidable (_ ∨ _))

/-- The size of the data behind a header. Records replace it only where the header says zero. -/
def dataSize? (lead : Lead) (header : Header) : Option Nat :=
  header.dataSize?.map fun size =>
    if size = 0 then (lead.records.bind sizeIn?).getD 0 else size

/-- Reads members from a position on. Each takes a block at least, which bounds their number. -/
def membersFrom? (content : Gzip.Content) (position : Nat) (lead : Lead) :
    Nat → Option (List Member)
  | 0 => none
  | fuel + 1 =>
      let bytes := content.bytes
      if bytes.size ≤ position then
        if content.isWhole ∧ position = bytes.size ∧ lead.IsEmpty then some [] else none
      else if bytes.size < position + blockSize then none
      else
        let header : Header := ⟨(bytes.extract position (position + blockSize)).toList⟩
        if header.IsEnd then if lead.IsEmpty then some [] else none
        else if header.IsIntact then do
          let size ← dataSize? lead header
          let start := position + blockSize
          if bytes.size < start + padded size then none
          else
            let data := bytes.extract start (start + size)
            let kind := Kind.of header.kind
            if kind.IsLead ∧ (header.IsStandard ∨ header.IsExtended) then
              let lead ← lead.extended? kind data.toList
              membersFrom? content (start + padded size) lead fuel
            else
              let data ← if kind = .sparse then
                  if header.IsExtended then sparseBytes? header data else none
                else some data
              let rest ← membersFrom? content (start + padded size) {} fuel
              some (member lead header data :: rest)
        else none

/-- The members of a compressed archive. -/
def members? (content : Gzip.Content) : Option (List Member) :=
  membersFrom? content 0 {} (content.bytes.size / blockSize + 1)

end Restage.Tar
