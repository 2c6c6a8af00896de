import Restage.Discovery.Cycle
import Restage.Proofs.Config
import Restage.Proofs.Slice.Target

/-!
# Archives of different slices

The archive of a slice lies in the slice's target under a name of its own (`Piece.components_archive`).
The name is made of the slice's identifier by writing every slash as an underscore, and an empty
identifier is replaced by the bucket. So different identifiers may come to name one archive, which
is what `Piece.NamedAlike` says.

Two slices of an instance have one archive when their targets are the same and they are named alike.
Two instances have the archive of a record in common when they are given one staging directory, or
when the record has an absolute text. `Config.archives_meet_iff` says that there are no other ways.
-/

namespace Restage

variable {left right record : SliceRecord} {piece piece' : Piece} {home other : Instance}
  {config : Config} {source : Config.Source} {checkUrl : String → Except UrlFault Unit}

/-! ## Names of archives -/

namespace Piece

/-- An identifier with its slashes written as underscores. -/
def flat (sliceId : String) : String := sliceId.map fun c => if c = '/' then '_' else c

/-- What stands in for an empty identifier. -/
def bucketName (bucket : Int16) : String := "bucket-" ++ toString bucket.toInt

/-- The name of a slice's archive, without its ending. -/
def stem (piece : Piece) : String :=
  if piece.sliceId = "" then bucketName piece.bucket else flat piece.sliceId

theorem archiveName_eq (piece : Piece) : piece.archiveName = piece.stem ++ ".tar.gz" := rfl

/-- How slices with different identifiers have archives of one name. -/
inductive NamedAlike (piece piece' : Piece) : Prop
  /-- One has underscores where the other has slashes. -/
  | slashes (named : piece.sliceId ≠ "") (named' : piece'.sliceId ≠ "")
    (same : flat piece.sliceId = flat piece'.sliceId)
  /-- One has none, and the other is spelled like the bucket of that. -/
  | unnamed (none : piece.sliceId = "") (same : piece'.sliceId = bucketName piece.bucket)
  | unnamed' (none : piece'.sliceId = "") (same : piece.sliceId = bucketName piece'.bucket)

theorem toList_flat (sliceId : String) :
    (flat sliceId).toList = sliceId.toList.map fun c => if c = '/' then '_' else c :=
  String.toList_map

theorem slash_notMem_flat (sliceId : String) : '/' ∉ (flat sliceId).toList := by
  rw [toList_flat, List.mem_map]
  rintro ⟨c, -, same⟩
  split at same
  · cases same
  · next other => exact other same

theorem flat_of_slashless {sliceId : String} (slashless : '/' ∉ sliceId.toList) :
    flat sliceId = sliceId := by
  have kept : ∀ c ∈ sliceId.toList, (if c = '/' then '_' else c) = c := by
    intro c inside
    exact if_neg fun slash : c = '/' => slashless (slash ▸ inside)
  rw [← String.toList_inj, toList_flat, List.map_congr_left kept, List.map_id']

/-- Numbers are written in digits, behind a sign where they are negative. -/
theorem notMem_toString {c : Char} (sign : c ≠ '-') (digit : ¬ c.isDigit) (number : Int) :
    c ∉ (toString number).toList := by
  have digits : ∀ number : Nat, c ∉ number.repr.toList := by
    intro number inside
    rw [Nat.toList_repr] at inside
    exact digit (Nat.isDigit_of_mem_toDigits (by omega) (by omega) inside)
  cases number with
  | ofNat number => exact digits number
  | negSucc number =>
      intro inside
      change c ∈ ("-" ++ (number + 1).repr).toList at inside
      rw [String.toList_append, List.mem_append] at inside
      rcases inside with minus | inside
      · exact sign (List.mem_singleton.mp minus)
      · exact digits _ inside

theorem notMem_bucketName {c : Char} (front : c ∉ "bucket-".toList) (digit : ¬ c.isDigit)
    (bucket : Int16) : c ∉ (bucketName bucket).toList := by
  rw [bucketName, String.toList_append, List.mem_append, not_or]
  refine ⟨front, notMem_toString (fun minus => front ?_) digit _⟩
  rw [minus]
  decide

theorem bucketName_ne_empty (bucket : Int16) : bucketName bucket ≠ "" := by
  intro nothing
  have front := congrArg String.toList nothing
  rw [bucketName, String.toList_append] at front
  cases front

/-- The name of a bucket has no slashes and no underscores, so nothing else is written flat like
it. -/
theorem flat_eq_bucketName_iff {sliceId : String} {bucket : Int16} :
    flat sliceId = bucketName bucket ↔ sliceId = bucketName bucket := by
  constructor
  · intro same
    have slashless : '/' ∉ sliceId.toList := by
      intro inside
      refine notMem_bucketName (c := '_') (by decide) (by decide) bucket ?_
      rw [← same, toList_flat]
      exact List.mem_map.mpr ⟨'/', inside, if_pos rfl⟩
    rwa [flat_of_slashless slashless] at same
  · rintro rfl
    exact flat_of_slashless (notMem_bucketName (by decide) (by decide) bucket)

/-- Slices with different identifiers name one archive when they are named alike. -/
theorem stem_eq_iff (different : piece.sliceId ≠ piece'.sliceId) :
    piece.stem = piece'.stem ↔ NamedAlike piece piece' := by
  unfold stem
  constructor
  · intro same
    split at same
    · next none =>
        rw [if_neg fun none' => different (none.trans none'.symm)] at same
        exact .unnamed none (flat_eq_bucketName_iff.mp same.symm)
    · next named =>
        split at same
        · next none' => exact .unnamed' none' (flat_eq_bucketName_iff.mp same)
        · next named' => exact .slashes named named' same
  · intro alike
    cases alike with
    | slashes named named' same => rw [if_neg named, if_neg named', same]
    | unnamed none same =>
        have named' : piece'.sliceId ≠ "" := same ▸ bucketName_ne_empty _
        rw [if_pos none, if_neg named', flat_eq_bucketName_iff.mpr same]
    | unnamed' none same =>
        have named : piece.sliceId ≠ "" := same ▸ bucketName_ne_empty _
        rw [if_neg named, if_pos none, flat_eq_bucketName_iff.mpr same]

/-! ## Archives below their targets -/

theorem slash_notMem_archiveName (piece : Piece) : '/' ∉ piece.archiveName.toList := by
  rw [archiveName_eq, String.toList_append, List.mem_append, not_or]
  refine ⟨?_, by decide⟩
  unfold stem
  split
  · exact notMem_bucketName (by decide) (by decide) _
  · exact slash_notMem_flat _

theorem ofPart?_archiveName (piece : Piece) :
    Path.ofPart? piece.archiveName.toList = some (.name piece.archiveName.toList) := by
  have long : 7 ≤ piece.archiveName.toList.length := by
    rw [archiveName_eq, String.toList_append, List.length_append]
    exact Nat.le_add_left _ _
  unfold Path.ofPart?
  rw [if_neg, if_neg]
  · intro dots
    rw [dots] at long
    exact absurd long (by decide)
  · rintro (nothing | dot)
    · rw [nothing] at long
      exact absurd long (by decide)
    · rw [dot] at long
      exact absurd long (by decide)

/-- The archive of a slice is a file directly below the slice's target. -/
theorem components_archive (spelled : piece.target.text ≠ "") : piece.archivePath.components =
    piece.target.components ++ [.name piece.archiveName.toList] := by
  have slashless := piece.slash_notMem_archiveName
  have relative : ¬ Path.Absolute piece.archiveName := fun absolute =>
    slashless (List.mem_of_head? absolute)
  rw [archivePath, Path.components_join spelled relative,
    Path.added_of_slashless slashless piece.ofPart?_archiveName]

/-- Two slices have one archive when they have one target and one name for it. -/
theorem archives_agree_iff (spelled : piece.target.text ≠ "") (spelled' : piece'.target.text ≠ "") :
    piece.archivePath.Agree piece'.archivePath ↔
      piece.target.Agree piece'.target ∧ piece.stem = piece'.stem := by
  unfold Path.Agree
  rw [components_archive spelled, components_archive spelled', List.append_singleton_inj,
    Component.name.injEq, String.toList_inj, archiveName_eq, archiveName_eq,
    String.append_left_inj]

end Piece

/-! ## Records on instances -/

/-- The texts of a record that its target is put together from. -/
def SliceRecord.texts (record : SliceRecord) : List String :=
  [record.upload, record.keyspace, record.table]

namespace Discovery

theorem target_of_pieceAt (made : pieceAt home record = .ok piece) :
    piece.target = (home.stagingDir.join (JobDir.name record.job)).joinAll record.texts := by
  cases made
  rfl

theorem target_ne_empty (made : pieceAt home record = .ok piece) : piece.target.text ≠ "" :=
  Recipe.target_ne_empty made

theorem labels_of_pieceAt (made : pieceAt home record = .ok piece) :
    piece.sliceId = record.sliceId ∧ piece.bucket = record.bucket := by
  cases made
  exact ⟨rfl, rfl⟩

/-- The targets of a record on two instances are the same when the staging directories are, or when
an absolute text makes those count for nothing. -/
theorem targets_agree_iff (made : pieceAt home record = .ok piece)
    (made' : pieceAt other record = .ok piece') : piece.target.Agree piece'.target ↔
      home.stagingDir.Agree other.stagingDir ∨ ∃ text ∈ record.texts, Path.Absolute text := by
  rw [Path.Agree, Path.Agree, target_of_pieceAt made, target_of_pieceAt made']
  by_cases relative : ∀ text ∈ record.texts, ¬ Path.Absolute text
  · have below := (Recipe.staged home.stagingDir record.job record.texts).spelled relative
    have below' := (Recipe.staged other.stagingDir record.job record.texts).spelled relative
    have none : ¬ ∃ text ∈ record.texts, Path.Absolute text := by
      rintro ⟨text, inside, absolute⟩
      exact relative text inside absolute
    rw [below, below', or_iff_left none, List.append_left_inj, List.append_left_inj]
  · simp only [not_forall, not_not] at relative
    obtain ⟨text, inside, absolute⟩ := relative
    obtain ⟨before, after, texts⟩ := List.append_of_mem inside
    refine iff_of_true ?_ (.inr ⟨text, inside, absolute⟩)
    rw [texts, Path.joinAll_of_absolute absolute, Path.joinAll_of_absolute absolute]

end Discovery

open Discovery in
/-- Under an accepted configuration the slices of two records, or of one record on two instances,
have one archive in these cases only: one record leads to the same target on both instances, or two
records lead to the same target and are named alike. -/
theorem Config.archives_meet_iff (accept : ofSource checkUrl source = .ok config)
    (inside : home ∈ config.instances) (inside' : other ∈ config.instances)
    (named : left ≠ right → left.sliceId ≠ right.sliceId) (pair : (home, left) ≠ (other, right))
    (made : pieceAt home left = .ok piece) (made' : pieceAt other right = .ok piece') :
    piece.archivePath.Agree piece'.archivePath ↔
      (left = right ∧ home.id ≠ other.id ∧
        (home.stagingDir.Agree other.stagingDir ∨ ∃ text ∈ left.texts, Path.Absolute text)) ∨
      (left ≠ right ∧ piece.target.Agree piece'.target ∧ piece.NamedAlike piece') := by
  have label := labels_of_pieceAt made
  have label' := labels_of_pieceAt made'
  rw [Piece.archives_agree_iff (target_ne_empty made) (target_ne_empty made')]
  by_cases record : left = right
  · subst record
    have apart : home.id ≠ other.id := by
      intro same
      refine pair (congrArg (·, left) ?_)
      exact List.inj_on_of_nodup_map (instances_nodup accept) inside inside' same
    have stems : piece.stem = piece'.stem := by
      rw [Piece.stem, Piece.stem, label.1, label.2, label'.1, label'.2]
    rw [targets_agree_iff made made']
    simp [stems, apart]
  · have different : piece.sliceId ≠ piece'.sliceId := by
      rw [label.1, label'.1]
      exact named record
    rw [Piece.stem_eq_iff different]
    simp [record]

/-- Instances with staging directories of their own. -/
def Instance.first : Instance := ⟨1, "10.0.0.1", 9042, ⟨"/var/db1/staging"⟩⟩

def Instance.second : Instance := ⟨2, "10.0.0.2", 9042, ⟨"/var/db2/staging"⟩⟩

def Config.Source.twin : Config.Source where
  instances := some [.first, .second]
  restoreJob := none
  databaseUrl := some "postgres://db/jobs"
  storage := none
  logLevel := none

/-- A record of one job with some identifier. -/
def SliceRecord.called (sliceId : String) (bucket : Int16) : SliceRecord :=
  ⟨.ofNat 1, sliceId, bucket, "upload", "ks", "tbl", "backups", "key", 0, []⟩

namespace Config

theorem twin_accepted : ∃ config, ofSource Url.check .twin = .ok config ∧
    .first ∈ config.instances ∧ .second ∈ config.instances :=
  ⟨_, rfl, List.mem_cons_self, List.mem_cons_of_mem _ List.mem_cons_self⟩

/-- Two instances keep their archives of one record apart. -/
theorem archives_meet_iff_twin : ∃ config, ofSource Url.check .twin = .ok config ∧
    .first ∈ config.instances ∧ .second ∈ config.instances ∧ ∃ piece piece',
      Discovery.pieceAt .first (.called "a/b" 0) = .ok piece ∧
        Discovery.pieceAt .second (.called "a/b" 0) = .ok piece' ∧
        ¬ piece.archivePath.Agree piece'.archivePath := by
  obtain ⟨config, accept, inside, inside'⟩ := twin_accepted
  obtain ⟨piece, made⟩ : ∃ piece, Discovery.pieceAt .first (.called "a/b" 0) = .ok piece :=
    ⟨_, rfl⟩
  obtain ⟨piece', made'⟩ : ∃ piece, Discovery.pieceAt .second (.called "a/b" 0) = .ok piece :=
    ⟨_, rfl⟩
  have meet := archives_meet_iff accept inside inside' (absurd rfl) (by decide) made made'
  refine ⟨config, accept, inside, inside', piece, piece', made, made', fun same => ?_⟩
  rcases meet.mp same with ⟨-, -, staging | absolute⟩ | ⟨different, -⟩
  · exact absurd staging (by decide)
  · exact absurd absolute (by decide)
  · exact different rfl

/-- The slices `a/b` and `a_b` of an instance have different keys and one archive. -/
theorem archives_of_different_slices_meet :
    ∃ config, ofSource Url.check .twin = .ok config ∧ .first ∈ config.instances ∧ ∃ piece piece',
      Discovery.pieceAt .first (.called "a/b" 0) = .ok piece ∧
        Discovery.pieceAt .first (.called "a_b" 1) = .ok piece' ∧
        piece.sliceId ≠ piece'.sliceId ∧ piece.slot ≠ piece'.slot ∧
        piece.archivePath.Agree piece'.archivePath := by
  obtain ⟨config, accept, inside, -⟩ := twin_accepted
  obtain ⟨piece, made⟩ : ∃ piece, Discovery.pieceAt .first (.called "a/b" 0) = .ok piece :=
    ⟨_, rfl⟩
  obtain ⟨piece', made'⟩ : ∃ piece, Discovery.pieceAt .first (.called "a_b" 1) = .ok piece :=
    ⟨_, rfl⟩
  have label : piece.sliceId = "a/b" ∧ piece.bucket = 0 := Discovery.labels_of_pieceAt made
  have label' : piece'.sliceId = "a_b" ∧ piece'.bucket = 1 := Discovery.labels_of_pieceAt made'
  have different : piece.sliceId ≠ piece'.sliceId := by
    rw [label.1, label'.1]
    decide
  refine ⟨config, accept, inside, piece, piece', made, made', different, ?slots, ?same⟩
  case slots =>
    intro same
    have bucket : piece.bucket = piece'.bucket := congrArg Slot.bucket same
    rw [label.2, label'.2] at bucket
    exact absurd bucket (by decide)
  case same =>
    rw [Piece.archives_agree_iff (Discovery.target_ne_empty made) (Discovery.target_ne_empty made')]
    constructor
    · rw [Discovery.target_of_pieceAt made, Discovery.target_of_pieceAt made']
      rfl
    · refine (Piece.stem_eq_iff different).mpr (.slashes ?_ ?_ ?_)
      · rw [label.1]
        decide
      · rw [label'.1]
        decide
      · rw [label.1, label'.1, ← String.toList_inj, Piece.toList_flat, Piece.toList_flat]
        decide

end Config

end Restage
