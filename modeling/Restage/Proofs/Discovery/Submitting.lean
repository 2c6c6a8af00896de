import Restage.Discovery.Cycle
import Restage.Proofs.Group.Sights

/-!
# Giving out the slices of a job

A cycle offers the slices of an active job to the managers, record by record and instance by
instance, until one of them answers with the job's fatal failure. `Discovery.Offered` says what has
become of the group then. If all slices were given out, every instance shows the job as if it had
been offered just those records that it holds (`Sight.offerAll`), and none that was asked had
recorded a failure. If not, one of them had.

`Discovery.answers` lists what the managers answered on the way, and `Discovery.verdict` reads the
end of it off that list.
-/

namespace Restage

open Manager Discovery

variable {group group' : Group} {floor : Floor} {m : Manager} {descriptor : Descriptor}
  {job : TimeId} {front rest : List Manager} {record : SliceRecord} {home : Instance}

/-! ## Slots of records -/

/-- The slot of a record's slice on an instance. -/
def Discovery.slotAt (home : Instance) (record : SliceRecord) : Slot :=
  ⟨record.job, record.bucket, (Recipe.targetOf home.stagingDir record.job record.upload
    record.keyspace record.table).components⟩

/-- A record always makes a piece, since neither its job nor its staging location is missing. -/
theorem Discovery.pieceAt_ok (home : Instance) (record : SliceRecord) :
    ∃ piece, pieceAt home record = .ok piece ∧ piece.slot = slotAt home record ∧
      piece.job = record.job :=
  ⟨_, rfl, rfl, rfl⟩

/-! ## What is seen of a job that is offered records -/

namespace Sight

/-- What an instance shows of a job that was offered a record's slice, if it holds that. -/
def offerAt (descriptor : Descriptor) (record : SliceRecord) (home : Instance)
    (seen : Option Sight) : Option Sight :=
  if home.Holds record.replicas then some (offer descriptor (slotAt home record) seen) else seen

/-- What an instance shows of a job that was offered the slices of some records. -/
def offerAll (descriptor : Descriptor) (records : List SliceRecord) (home : Instance)
    (seen : Option Sight) : Option Sight :=
  records.foldl (fun seen record => offerAt descriptor record home seen) seen

variable {seen : Option Sight} {slot : Slot}

theorem offerAt_fatal :
    (offerAt descriptor record home seen).bind Sight.fatal = seen.bind Sight.fatal := by
  unfold offerAt
  split
  · rw [Option.bind_some, offer_fatal]
  · rfl

/-- Whatever is offered, a job that was tracked keeps its descriptor and a new one has the one it
was offered with. -/
theorem offerAll_descriptor {records : List SliceRecord} {sight : Sight}
    (shown : ∀ sight ∈ seen, sight.descriptor = descriptor)
    (after : offerAll descriptor records home seen = some sight) :
    sight.descriptor = descriptor := by
  induction records generalizing seen with
  | nil => exact shown sight after
  | cons record rest ih =>
      refine @ih (offerAt descriptor record home seen) (fun sight' here => ?_) after
      unfold offerAt at here
      split at here
      · rw [Option.mem_some_iff] at here
        subst here
        rw [offer_descriptor]
        cases seen with
        | none => rfl
        | some before => exact shown before rfl
      · exact shown sight' here

theorem offerAll_of_unwanted {records : List SliceRecord}
    (unwanted : ∀ record ∈ records, ¬ home.Holds record.replicas) :
    offerAll descriptor records home seen = seen := by
  induction records generalizing seen with
  | nil => rfl
  | cons record rest ih =>
      have idle : offerAt descriptor record home seen = seen :=
        if_neg (unwanted record List.mem_cons_self)
      rw [offerAll, List.foldl_cons, idle]
      exact ih fun other inside => unwanted other (List.mem_cons_of_mem _ inside)

/-- A job that has not failed is shown with the slots it was shown with before and those of the
records that the instance holds. -/
theorem mem_offerAll {records : List SliceRecord} (fine : seen.bind Sight.fatal = none) :
    (∃ sight ∈ offerAll descriptor records home seen, slot ∈ sight.slots) ↔
      (∃ sight ∈ seen, slot ∈ sight.slots) ∨
        ∃ record ∈ records, home.Holds record.replicas ∧ slot = slotAt home record := by
  induction records generalizing seen with
  | nil => simp [offerAll]
  | cons record rest ih =>
      have later := @ih (offerAt descriptor record home seen) (by rw [offerAt_fatal, fine])
      rw [offerAll, List.foldl_cons]
      refine later.trans ?_
      rw [List.exists_mem_cons_iff, ← or_assoc]
      refine or_congr_left ?_
      unfold offerAt
      split
      · next holds =>
          simp only [Option.mem_some_iff, exists_eq_left', mem_offer fine, holds, true_and]
      · next elsewhere => simp only [elsewhere, false_and, or_false]

end Sight

/-! ## What becomes of the group -/

/-- What offering slices of a job to some instances has come to. `Wants` are the instances that
there are slices for, and `effect` is what is seen of the job on an instance that was offered
them. -/
inductive Discovery.Offered (job : TimeId) (effect : Instance → Option Sight → Option Sight)
    (asked : List Instance) (Wants : Instance → Prop) (group group' : Group) :
    Except FatalFailure Nat → Prop
  | taken {fresh : Nat} (shows : Group.Shows job effect asked group group')
    (fine : ∀ home ∈ asked, Wants home → (group.sight? home.id job).bind Sight.fatal = none) :
    Offered job effect asked Wants group group' (.ok fresh)
  /-- One of the instances answers with the failure that it has recorded. -/
  | stopped {failure : FatalFailure} (around : Group.Around job group group') (home : Instance)
    (listed : home ∈ asked) (wants : Wants home)
    (fatal : (group.sight? home.id job).bind Sight.fatal = some failure) :
    Offered job effect asked Wants group group' (.error failure)

/-- An instance was passed by or took what it was offered; what becomes of the others is what
becomes of all. -/
theorem Discovery.Offered.cons {effect : Instance → Option Sight → Option Sight}
    {asked : List Instance} {Wants : Instance → Prop} {middle last : Group}
    {answer : Except FatalFailure Nat} (fresh : Nat)
    (first : Group.Shows job effect [home] group middle)
    (fine : Wants home → (group.sight? home.id job).bind Sight.fatal = none)
    (later : Offered job effect asked Wants middle last answer)
    (apart : ∀ other ∈ asked, other.id ≠ home.id) :
    Offered job effect (home :: asked) Wants group last (answer.map (fresh + ·)) := by
  have same : ∀ other ∈ asked, middle.sight? other.id job = group.sight? other.id job := by
    intro other listed
    refine first.elsewhere other.id fun single member => ?_
    rw [List.mem_singleton.mp member]
    exact Ne.symm (apart other listed)
  cases later with
  | taken shows fine' =>
      refine .taken (first.cons shows apart) fun other listed wants => ?_
      rcases List.mem_cons.mp listed with rfl | listed
      · exact fine wants
      · rw [← same other listed]
        exact fine' other listed wants
  | stopped around other listed wants fatal =>
      refine .stopped (first.toAround.trans around) other (List.mem_cons_of_mem _ listed) wants ?_
      rw [← same other listed]
      exact fatal

/-! ## One record -/

section

variable {piece : Piece} {next : Floor} {m' : Manager}

theorem Discovery.submitRecord_skip (elsewhere : ¬ m.home.Holds record.replicas) :
    submitRecord descriptor record floor (m :: rest) =
      ((submitRecord descriptor record floor rest).1,
        m :: (submitRecord descriptor record floor rest).2.1,
        (submitRecord descriptor record floor rest).2.2.map (0 + ·)) := by
  rw [submitRecord, if_neg elsewhere]

theorem Discovery.submitRecord_stop {failure : FatalFailure} (holds : m.home.Holds record.replicas)
    (made : pieceAt m.home record = .ok piece)
    (told : m.submit (floor.addSlice (.ofPiece piece)).1 floor.slices.size descriptor =
      (next, m', .error (.fatal failure))) :
    submitRecord descriptor record floor (m :: rest) = (next, m' :: rest, .error failure) := by
  have told' : m.submit (floor.addSlice (.ofPiece piece)).1 (floor.addSlice (.ofPiece piece)).2
      descriptor = (next, m', .error (.fatal failure)) := told
  rw [submitRecord, if_pos holds, made]
  simp only [told']

theorem Discovery.submitRecord_next {standing : Standing} (holds : m.home.Holds record.replicas)
    (made : pieceAt m.home record = .ok piece)
    (told : m.submit (floor.addSlice (.ofPiece piece)).1 floor.slices.size descriptor =
      (next, m', .ok standing)) :
    submitRecord descriptor record floor (m :: rest) =
      ((submitRecord descriptor record next rest).1,
        m' :: (submitRecord descriptor record next rest).2.1,
        (submitRecord descriptor record next rest).2.2.map
          ((if standing = .created then 1 else 0) + ·)) := by
  have told' : m.submit (floor.addSlice (.ofPiece piece)).1 (floor.addSlice (.ofPiece piece)).2
      descriptor = (next, m', .ok standing) := told
  rw [submitRecord, if_pos holds, made]
  simp only [told']
  cases standing <;> rfl

end

theorem Discovery.submitRecord_offered (front : List Manager)
    (of : record.job = descriptor.job.id) (sound : (⟨floor, front ++ rest⟩ : Group).Sound) :
    Offered descriptor.job.id (Sight.offerAt descriptor record) (rest.map Manager.home)
      (fun home => home.Holds record.replicas) ⟨floor, front ++ rest⟩
      ⟨(submitRecord descriptor record floor rest).1,
        front ++ (submitRecord descriptor record floor rest).2.1⟩
      (submitRecord descriptor record floor rest).2.2 := by
  induction rest generalizing floor front with
  | nil => exact .taken .nil fun home listed => by cases listed
  | cons m rest ih =>
      have apart := sound.apart_of_middle
      by_cases holds : m.home.Holds record.replicas
      · obtain ⟨piece, made, slot, label⟩ := pieceAt_ok m.home record
        obtain ⟨offered, answers⟩ := sound.offered (label.trans of)
        generalize told : m.submit (floor.addSlice (.ofPiece piece)).1 floor.slices.size
          descriptor = result at offered answers
        obtain ⟨next, m', answer⟩ := result
        have shows : Group.Shows descriptor.job.id (Sight.offerAt descriptor record) [m.home]
            ⟨floor, front ++ m :: rest⟩ ⟨next, (front ++ [m']) ++ rest⟩ := by
          refine ⟨offered.toAround, fun home listed => ?_, offered.elsewhere⟩
          rw [offered.here home listed, List.mem_singleton.mp listed, Sight.offerAt, if_pos holds,
            slot]
        have later := ih _ (sound.reach shows.run)
        have goOn : ∀ standing : Standing, answer = .ok standing →
            ((⟨floor, front ++ m :: rest⟩ : Group).sight? m.home.id descriptor.job.id).bind
              Sight.fatal = none →
            Offered descriptor.job.id (Sight.offerAt descriptor record)
              ((m :: rest).map Manager.home) (fun home => home.Holds record.replicas)
              ⟨floor, front ++ m :: rest⟩
              ⟨(submitRecord descriptor record floor (m :: rest)).1,
                front ++ (submitRecord descriptor record floor (m :: rest)).2.1⟩
              (submitRecord descriptor record floor (m :: rest)).2.2 := by
          intro standing ok fine
          subst ok
          have joined := Offered.cons (if standing = .created then 1 else 0) shows (fun _ => fine)
            later apart
          rw [submitRecord_next holds made told]
          simp only [List.append_assoc, List.cons_append, List.nil_append] at joined
          exact joined
        cases answers with
        | failed fatal =>
            rw [submitRecord_stop holds made told]
            simp only [List.append_assoc, List.cons_append, List.nil_append] at shows
            exact .stopped shows.toAround m.home List.mem_cons_self holds fatal
        | known here fine inside old => exact goOn _ rfl (by rw [here, Option.bind_some, fine])
        | new fine absent => exact goOn _ rfl fine
      · have skip : Group.Shows descriptor.job.id (Sight.offerAt descriptor record) [m.home]
            ⟨floor, front ++ m :: rest⟩ ⟨floor, (front ++ [m]) ++ rest⟩ := by
          rw [List.append_assoc]
          exact .skip fun seen => if_neg holds
        have later := ih (front ++ [m]) (sound.reach skip.run)
        have joined := Offered.cons 0 skip (fun holds' => absurd holds' holds) later apart
        rw [submitRecord_skip holds]
        simp only [List.append_assoc, List.cons_append, List.nil_append] at joined
        exact joined

/-! ## All records -/

theorem Group.Shows.same {asked : List Instance} :
    Group.Shows job (fun _ seen => seen) asked group group where
  toAround := .refl
  here := fun _ _ => rfl
  elsewhere := fun _ _ => rfl

theorem Discovery.submitRecords_offered (descriptor : Descriptor) (records : List SliceRecord)
    (sound : group.Sound)
    (of : ∀ record ∈ records, record.job = descriptor.job.id) :
    Offered descriptor.job.id (Sight.offerAll descriptor records) group.homes
      (fun home => ∃ record ∈ records, home.Holds record.replicas) group
      ⟨(submitRecords descriptor group.floor group.managers records).1,
        (submitRecords descriptor group.floor group.managers records).2.1⟩
      (submitRecords descriptor group.floor group.managers records).2.2 := by
  induction records generalizing group with
  | nil =>
      refine .taken .same fun home listed wants => ?_
      obtain ⟨record, inside, -⟩ := wants
      cases inside
  | cons record rest ih =>
      have first := submitRecord_offered [] (of record List.mem_cons_self) sound
      rw [submitRecords]
      generalize submitRecord descriptor record group.floor group.managers = result at first
      obtain ⟨next, managers, answer⟩ := result
      simp only [List.nil_append] at first
      cases first with
      | stopped around home listed wants fatal =>
          exact .stopped around home listed ⟨record, List.mem_cons_self, wants⟩ fatal
      | taken shows fine =>
          have later := ih (sound.reach shows.run) fun other inside =>
            of other (List.mem_cons_of_mem _ inside)
          rw [shows.homes] at later
          have same : ∀ home ∈ group.homes, ((⟨next, managers⟩ : Group).sight? home.id
              descriptor.job.id).bind Sight.fatal =
              (group.sight? home.id descriptor.job.id).bind Sight.fatal := by
            intro home listed
            rw [shows.here home listed, Sight.offerAt_fatal]
          simp only
          generalize submitRecords descriptor next managers rest = result at later
          obtain ⟨last, managers', answer'⟩ := result
          cases later with
          | stopped around home listed wants fatal =>
              obtain ⟨other, inside, holds⟩ := wants
              rw [same home listed] at fatal
              exact .stopped (shows.toAround.trans around) home listed
                ⟨other, List.mem_cons_of_mem _ inside, holds⟩ fatal
          | taken shows' fine' =>
              refine .taken (shows.trans shows') fun home listed wants => ?_
              obtain ⟨other, inside, holds⟩ := wants
              rcases List.mem_cons.mp inside with rfl | inside
              · exact fine home listed holds
              · rw [← same home listed]
                exact fine' home listed ⟨other, inside, holds⟩

/-! ## What the managers answer -/

/-- What the managers answer to a record's slice, in the order in which they are asked. -/
def Discovery.answers (descriptor : Descriptor) (record : SliceRecord) (floor : Floor) :
    List Manager → List (Except JobFault Standing)
  | [] => []
  | m :: rest =>
      if m.home.Holds record.replicas then
        match pieceAt m.home record with
        | .error _ => answers descriptor record floor rest
        | .ok piece =>
            match m.submit (floor.addSlice (.ofPiece piece)).1 floor.slices.size descriptor with
            | (_, _, .error (.fatal failure)) => [.error (.fatal failure)]
            | (floor, _, answer) => answer :: answers descriptor record floor rest
      else answers descriptor record floor rest

/-- What the managers answer to the slices of some records. -/
def Discovery.allAnswers (descriptor : Descriptor) (floor : Floor) (managers : List Manager) :
    List SliceRecord → List (Except JobFault Standing)
  | [] => []
  | record :: rest =>
      answers descriptor record floor managers ++
        match submitRecord descriptor record floor managers with
        | (_, _, .error _) => []
        | (floor, managers, .ok _) => allAnswers descriptor floor managers rest

/-- Whether an answer is that a slice is new. -/
def Discovery.isNew : Except JobFault Standing → Bool
  | .ok .created => true
  | _ => false

/-- What answers come to: a fatal failure among them, or else the number of new slices. -/
inductive Discovery.Tells (told : List (Except JobFault Standing)) :
    Except FatalFailure Nat → Prop
  | stopped {failure : FatalFailure} (last : .error (.fatal failure) ∈ told) :
    Tells told (.error failure)
  | taken (fine : ∀ failure, .error (.fatal failure) ∉ told) :
    Tells told (.ok (told.countP isNew))

theorem Discovery.Tells.append {told more : List (Except JobFault Standing)}
    {answer : Except FatalFailure Nat} {fresh : Nat} (first : Tells told (.ok fresh))
    (later : Tells more answer) : Tells (told ++ more) (answer.map (fresh + ·)) := by
  cases first with
  | taken fine =>
      cases later with
      | stopped last => exact .stopped (List.mem_append_right _ last)
      | taken fine' =>
          have counted : Except.map (told.countP isNew + ·)
              (.ok (more.countP isNew) : Except FatalFailure Nat) =
              .ok ((told ++ more).countP isNew) := by
            rw [List.countP_append]
            rfl
          rw [counted]
          refine .taken fun failure listed => ?_
          exact (List.mem_append.mp listed).elim (fine failure) (fine' failure)

theorem Discovery.submitRecord_tells (descriptor : Descriptor) (record : SliceRecord)
    (floor : Floor) (rest : List Manager) :
    Tells (answers descriptor record floor rest)
      (submitRecord descriptor record floor rest).2.2 := by
  induction rest generalizing floor with
  | nil => exact .taken fun failure listed => by cases listed
  | cons m rest ih =>
      have single : ∀ answer : Except JobFault Standing, (∀ f, answer ≠ .error (.fatal f)) →
          Tells [answer] (.ok (List.countP isNew [answer])) := by
        intro answer fine
        exact .taken fun f listed => fine f (List.mem_singleton.mp listed).symm
      have none : Tells [] (.ok (List.countP isNew [])) := .taken fun f listed => by cases listed
      unfold answers
      by_cases holds : m.home.Holds record.replicas
      · obtain ⟨piece, made, -⟩ := pieceAt_ok m.home record
        simp only [if_pos holds, made]
        generalize told : m.submit (floor.addSlice (.ofPiece piece)).1 floor.slices.size
          descriptor = result
        obtain ⟨next, m', answer⟩ := result
        have told' : m.submit (floor.addSlice (.ofPiece piece)).1
            (floor.addSlice (.ofPiece piece)).2 descriptor = (next, m', answer) := told
        rcases answer with (failure | detail) | standing
        · rw [submitRecord_stop holds made told]
          exact .stopped (List.mem_singleton.mpr rfl)
        · rw [submitRecord, if_pos holds, made]
          simp only [told']
          exact (single (.error (.retriable detail)) fun f => nofun).append (ih next)
        · rw [submitRecord_next holds made told]
          have counted : List.countP isNew [(.ok standing : Except JobFault Standing)] =
              if standing = .created then 1 else 0 := by
            cases standing <;> rfl
          rw [← counted]
          exact (single (.ok standing) fun f => nofun).append (ih next)
      · rw [submitRecord_skip holds, if_neg holds]
        exact none.append (ih floor)

theorem Discovery.submitRecords_tells (descriptor : Descriptor) (floor : Floor)
    (managers : List Manager) (records : List SliceRecord) :
    Tells (allAnswers descriptor floor managers records)
      (submitRecords descriptor floor managers records).2.2 := by
  induction records generalizing floor managers with
  | nil => exact .taken fun failure listed => by cases listed
  | cons record rest ih =>
      have first := submitRecord_tells descriptor record floor managers
      unfold allAnswers submitRecords
      generalize submitRecord descriptor record floor managers = result at first
      obtain ⟨next, managers', answer⟩ := result
      cases answer with
      | error failure =>
          simp only [List.append_nil]
          exact first
      | ok fresh => exact first.append (ih next managers')

end Restage
