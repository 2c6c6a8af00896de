import Restage.Discovery.Cycle
import Restage.Proofs.Discovery.Classes
import Restage.Proofs.Group.Portraits

/-!
# A job's turn

A `Discovery.Turn` is what a cycle makes of a job when it comes to it: what the instances show of the
job from then on, what has come to their queues, the status that the store has recorded, and what is
reported. `Discovery.Turn.of` works it out from the panorama of that job alone, and
`Discovery.Pass.visit_turn` says that a visit does the same to the group and the store.
-/

namespace Restage

open Manager Discovery

/-! ## Giving out pieces -/

/-- The pieces that are made of a record, each for an instance that holds it. -/
def Discovery.offersOf (homes : List Instance) (record : SliceRecord) : List (UInt32 × Piece) :=
  homes.filterMap fun home =>
    if home.Holds record.replicas then (pieceAt home record).toOption.map fun piece =>
      (home.id, piece)
    else none

/-- The pieces that are made of some records, in the order in which they are given out. -/
def Discovery.offers (homes : List Instance) (records : List SliceRecord) :
    List (UInt32 × Piece) :=
  records.flatMap (offersOf homes)

namespace Panorama

/-- What an instance replies to a piece of the job. -/
def reply (job : Job) (view : Panorama) (id : UInt32) (piece : Piece) : Portrait.Reply :=
  Portrait.offer job piece (view.seen id)

/-- What is shown after that. -/
def offered (job : Job) (view : Panorama) (id : UInt32) (piece : Piece) : Panorama :=
  view.paint id (some (view.reply job id piece).shown) (view.reply job id piece).queued

/-- Gives out pieces of a job, until an instance answers with the job's failure. The answer is how
many of them are new. -/
def give (job : Job) (view : Panorama) :
    List (UInt32 × Piece) → Panorama × Except FatalFailure Nat
  | [] => (view, .ok 0)
  | (id, piece) :: rest =>
      match (view.reply job id piece).answer with
      | .error failure => (view.offered job id piece, .error failure)
      | .ok standing =>
          (((view.offered job id piece).give job rest).1,
            ((view.offered job id piece).give job rest).2.map
              ((if standing = .created then 1 else 0) + ·))

variable {job : Job} {view view' : Panorama} {id : UInt32} {piece : Piece}
  {pieces more : List (UInt32 × Piece)}

theorem give_stop {failure : FatalFailure}
    (answer : (view.reply job id piece).answer = .error failure) :
    view.give job ((id, piece) :: more) = (view.offered job id piece, .error failure) := by
  rw [give, answer]

theorem give_next {standing : Standing} (answer : (view.reply job id piece).answer = .ok standing) :
    view.give job ((id, piece) :: more) =
      (((view.offered job id piece).give job more).1,
        ((view.offered job id piece).give job more).2.map
          ((if standing = .created then 1 else 0) + ·)) := by
  rw [give, answer]

/-- If the pieces were given out to the last, so were the first one and the others. -/
theorem give_taken {fresh : Nat}
    (taken : view.give job ((id, piece) :: more) = (view', .ok fresh)) :
    ∃ standing count, (view.reply job id piece).answer = .ok standing ∧
      (view.offered job id piece).give job more = (view', .ok count) ∧
      fresh = (if standing = .created then 1 else 0) + count := by
  cases answer : (view.reply job id piece).answer with
  | error failure =>
      rw [give_stop answer] at taken
      cases taken
  | ok standing =>
      rw [give_next answer] at taken
      obtain ⟨rfl, told⟩ := Prod.mk.inj taken
      cases later : ((view.offered job id piece).give job more).2 with
      | error failure =>
          rw [later] at told
          cases told
      | ok count =>
          rw [later] at told
          cases told
          exact ⟨standing, count, rfl, Prod.ext rfl later, rfl⟩

theorem map_zero_add (answer : Except FatalFailure Nat) : answer.map (0 + ·) = answer := by
  cases answer with
  | error failure => rfl
  | ok fresh => exact congrArg Except.ok (Nat.zero_add fresh)

theorem map_add_add (answer : Except FatalFailure Nat) (fresh count : Nat) :
    (answer.map (fresh + ·)).map (count + ·) = answer.map (count + fresh + ·) := by
  cases answer with
  | error failure => rfl
  | ok number => exact congrArg Except.ok (Nat.add_assoc count fresh number).symm

theorem give_append_error {failure : FatalFailure}
    (stopped : view.give job pieces = (view', .error failure)) :
    view.give job (pieces ++ more) = (view', .error failure) := by
  induction pieces generalizing view view' with
  | nil => cases stopped
  | cons offer rest ih =>
      obtain ⟨id, piece⟩ := offer
      cases answer : (view.reply job id piece).answer with
      | error failure' =>
          rw [give_stop answer] at stopped
          rw [List.cons_append, give_stop answer, stopped]
      | ok standing =>
          rw [give_next answer] at stopped
          obtain ⟨same, told⟩ := Prod.mk.inj stopped
          cases later : (view.offered job id piece).give job rest with
          | mk last told' =>
              rw [later] at same told
              cases told' with
              | ok fresh => cases told
              | error failure' =>
                  cases told
                  rw [List.cons_append, give_next answer, ih later, ← same]
                  rfl

theorem give_append_ok {fresh : Nat} (taken : view.give job pieces = (view', .ok fresh)) :
    view.give job (pieces ++ more) =
      ((view'.give job more).1, (view'.give job more).2.map (fresh + ·)) := by
  induction pieces generalizing view view' fresh with
  | nil =>
      cases taken
      rw [List.nil_append, map_zero_add]
  | cons offer rest ih =>
      obtain ⟨standing, count, answer, later, rfl⟩ := give_taken taken
      rw [List.cons_append, give_next answer, ih later, map_add_add]

end Panorama

/-! ## The managers one by one -/

variable {base : Nat} {first : Group} {floor : Floor} {rest : List Manager}
  {descriptor : Descriptor} {view : Panorama} {record : SliceRecord}

theorem Discovery.submitRecord_depicts (front : List Manager)
    (depicts : Group.Depicts base descriptor.job.id first ⟨floor, front ++ rest⟩ view)
    (sound : first.Sound) (old : base ≤ first.floor.slices.size)
    (of : record.job = descriptor.job.id) :
    let given := view.give descriptor.job (offersOf (rest.map Manager.home) record)
    Group.Depicts base descriptor.job.id first
        ⟨(submitRecord descriptor record floor rest).1,
          front ++ (submitRecord descriptor record floor rest).2.1⟩ given.1 ∧
      (submitRecord descriptor record floor rest).2.2 = given.2 := by
  induction rest generalizing floor front view with
  | nil => exact ⟨depicts, rfl⟩
  | cons m rest ih =>
      by_cases holds : m.home.Holds record.replicas
      · obtain ⟨piece, made, -, label⟩ := pieceAt_ok m.home record
        have listed : offersOf ((m :: rest).map Manager.home) record =
            (m.home.id, piece) :: offersOf (rest.map Manager.home) record := by
          rw [List.map_cons, offersOf, List.filterMap_cons, if_pos holds, made]
          rfl
        obtain ⟨offered, told⟩ := depicts.offered sound old (label.trans of)
        generalize result : m.submit (floor.addSlice (.ofPiece piece)).1 floor.slices.size
          descriptor = outcome at offered told
        obtain ⟨next, m', answer⟩ := outcome
        rw [listed]
        cases reply : (view.reply descriptor.job m.home.id piece).answer with
        | error failure =>
            have fatal : answer = .error (.fatal failure) :=
              told.trans (congrArg (Except.mapError _) reply)
            rw [fatal] at result
            rw [submitRecord_stop holds made result, Panorama.give_stop reply]
            rw [List.append_assoc] at offered
            exact ⟨offered, rfl⟩
        | ok standing =>
            have taken : answer = .ok standing := told.trans (congrArg (Except.mapError _) reply)
            rw [taken] at result
            obtain ⟨later, answers⟩ := ih _ offered
            rw [submitRecord_next holds made result, Panorama.give_next reply]
            rw [List.append_assoc] at later
            exact ⟨later, congrArg (Except.map _) answers⟩
      · have listed : offersOf ((m :: rest).map Manager.home) record =
            offersOf (rest.map Manager.home) record := by
          rw [List.map_cons, offersOf, List.filterMap_cons, if_neg holds]
          rfl
        have depicts' : Group.Depicts base descriptor.job.id first
            ⟨floor, (front ++ [m]) ++ rest⟩ view := by
          rw [List.append_assoc]
          exact depicts
        obtain ⟨later, answers⟩ := ih _ depicts'
        rw [submitRecord_skip holds, listed]
        rw [List.append_assoc] at later
        exact ⟨later, (Panorama.map_zero_add _).trans answers⟩

theorem Discovery.submitRecords_depicts {group : Group} (records : List SliceRecord)
    (depicts : Group.Depicts base descriptor.job.id first group view)
    (sound : first.Sound) (old : base ≤ first.floor.slices.size)
    (of : ∀ record ∈ records, record.job = descriptor.job.id) :
    let given := view.give descriptor.job (offers first.homes records)
    Group.Depicts base descriptor.job.id first
        ⟨(submitRecords descriptor group.floor group.managers records).1,
          (submitRecords descriptor group.floor group.managers records).2.1⟩ given.1 ∧
      (submitRecords descriptor group.floor group.managers records).2.2 = given.2 := by
  induction records generalizing group view with
  | nil => exact ⟨depicts, rfl⟩
  | cons record rest ih =>
      obtain ⟨offered, told⟩ := submitRecord_depicts [] depicts sound old
        (of record List.mem_cons_self)
      have homes : group.managers.map Manager.home = first.homes := depicts.homes
      rw [homes] at offered told
      have listed : offers first.homes (record :: rest) =
        offersOf first.homes record ++ offers first.homes rest := List.flatMap_cons
      rw [submitRecords, listed]
      generalize submitRecord descriptor record group.floor group.managers = result at offered told
      obtain ⟨next, managers, answer⟩ := result
      cases given : view.give descriptor.job (offersOf first.homes record) with
      | mk view' answer' =>
          rw [given] at offered told
          simp only at told
          subst told
          cases answer with
          | error failure =>
              rw [Panorama.give_append_error given]
              exact ⟨offered, rfl⟩
          | ok fresh =>
              obtain ⟨later, answers⟩ := ih offered fun other inside =>
                of other (List.mem_cons_of_mem _ inside)
              rw [Panorama.give_append_ok given]
              exact ⟨later, congrArg (Except.map _) answers⟩

/-! ## Turns -/

namespace Discovery

/-- What a cycle makes of a job. -/
structure Turn where
  view : Panorama
  /-- The status that the store has recorded. -/
  mark : Option JobStatus
  report : CycleReport

/-- What a cycle makes of a job, of which the instances show `view` before. -/
def Turn.of (outage : Outage) (now : Instant) (homes : List Instance) (records : List SliceRecord)
    (job : Job) (view : Panorama) : Turn :=
  if job.IsTerminal then
    { view := view.map fun _ => none
      mark := none
      report := {
        removedJobs := if ∃ home ∈ homes, (view.seen home.id).isSome = true then 1 else 0 } }
  else if job.IsExpired now then
    { view := view.map fun _ => none
      mark := outage.recorded .aborted
      report := { abortedJobs := 1 } }
  else if outage.records then
    { view := view.map (Portrait.described job)
      mark := none
      report := { activeJobs := 1, lookupFailures := 1 } }
  else
    match (view.map (Portrait.described job)).give job (offers homes records) with
    | (view, .ok fresh) =>
        { view := view
          mark := none
          report := { activeJobs := 1, submittedSlices := fresh } }
    | (view, .error _) =>
        { view := view.map (Portrait.described (job.withStatus .failed))
          mark := outage.recorded .failed
          report := { activeJobs := 1, failedJobs := 1 } }

end Discovery

/-! ## Visits -/

theorem Group.Depicts.presented {group : Group} {job : Job}
    (depicts : Group.Depicts base job.id first group view) (sound : first.Sound) :
    Group.Depicts base job.id first (group.present job) (view.map (Portrait.described job)) := by
  have described : Group.Depicts base job.id first
      ⟨(group.floor.describe job).1, group.managers⟩ view :=
    depicts.added sound ⟨.describe job, rfl⟩ rfl (fun _ _ here => here) rfl
  have label : (group.floor.describe job).2.job = job := rfl
  have updated := @Group.Depicts.updated base first _ (group.floor.describe job).2 view described
    sound
  rw [label] at updated
  exact updated

namespace Discovery

variable {pass : Pass} {outage : Outage} {now : Instant} {job : Job} {id : TimeId}
  {status : JobStatus}

/-- The turn of a job that a cycle comes to. -/
def Pass.turn (base : Nat) (outage : Outage) (now : Instant) (pass : Pass) (job : Job) : Turn :=
  .of outage now pass.group.homes (pass.store.recordsOf job.id) job
    (.ofGroup base pass.group job.id)

/-- A visit has made of a job what its turn says. -/
structure Pass.Takes (base : Nat) (id : TimeId) (turn : Turn) (pass pass' : Pass) : Prop where
  depicts : Group.Depicts base id pass.group pass'.group turn.view
  store : pass'.store = pass.store.noted id turn.mark
  report : pass'.report = pass.report.plus turn.report

theorem Pass.dropFinished_turn (sound : pass.group.Sound) (terminal : job.IsTerminal) :
    Pass.Takes base job.id (pass.turn base outage now job) pass (pass.dropFinished job) := by
  have start : Group.Depicts base job.id pass.group pass.group _ := .refl
  obtain ⟨removed, known⟩ := start.removed sound
  rw [Pass.turn, Turn.of, if_pos terminal]
  refine ⟨removed, rfl, ?_⟩
  simp only [Pass.dropFinished, CycleReport.plus, known, Nat.add_zero]

theorem Pass.abort_turn (sound : pass.group.Sound) (unfinished : ¬ job.IsTerminal)
    (late : job.IsExpired now) :
    Pass.Takes base job.id (pass.turn base outage now job) pass (pass.abort outage job) := by
  have start : Group.Depicts base job.id pass.group pass.group _ := .refl
  obtain ⟨removed, -⟩ := start.removed sound
  have group : (pass.abort outage job).group = (pass.group.removeJob job.id).1 := by
    simp only [Pass.abort, Pass.mark_group]
  have report : (pass.abort outage job).report =
      { pass.report with abortedJobs := pass.report.abortedJobs + 1 } := by
    simp only [Pass.abort, Pass.mark_report]
  rw [Pass.turn, Turn.of, if_neg unfinished, if_pos late]
  exact ⟨group ▸ removed, Pass.mark_noted, report⟩

theorem Pass.workOn_turn (sound : pass.group.Sound)
    (old : base ≤ pass.group.floor.slices.size) (unfinished : ¬ job.IsTerminal)
    (early : ¬ job.IsExpired now) :
    Pass.Takes base job.id (pass.turn base outage now job) pass (pass.workOn outage job) := by
  have start : Group.Depicts base job.id pass.group pass.group _ := .refl
  have presented := start.presented sound
  rw [Pass.turn, Turn.of, if_neg unfinished, if_neg early]
  by_cases unread : outage.records = true
  · rw [if_pos unread]
    simp only [Pass.workOn, Pass.ask, unread, if_true]
    exact ⟨presented, rfl, rfl⟩
  · have mine : ∀ record ∈ pass.store.recordsOf job.id,
        record.job = (pass.group.floor.describe job).2.job.id := fun _ => Store.job_of_mem_recordsOf
    have label : (pass.group.floor.describe job).2.job = job := rfl
    obtain ⟨offered, told⟩ := submitRecords_depicts _ presented sound old mine
    rw [if_neg unread]
    rw [label] at offered told
    generalize done : submitRecords (pass.group.floor.describe job).2
      (pass.group.present job).floor (pass.group.present job).managers
      (pass.store.recordsOf job.id) = result at offered told
    obtain ⟨floor, managers, answer⟩ := result
    generalize Panorama.give job _ _ = given at offered told ⊢
    obtain ⟨view, answer'⟩ := given
    simp only at told
    subst told
    cases answer with
    | ok fresh =>
        obtain ⟨group, store, report⟩ := Pass.workOn_given unread done
        exact ⟨group ▸ offered, store, report⟩
    | error failure =>
        obtain ⟨group, store, report⟩ := Pass.workOn_stopped unread done
        have failed : Group.Depicts base (job.withStatus .failed).id pass.group _ _ :=
          Group.Depicts.presented offered sound
        exact ⟨group ▸ failed, store, report⟩

/-- A visit gives a job its turn. -/
theorem Pass.visit_turn (outage : Outage) (now : Instant) (job : Job) (sound : pass.group.Sound)
    (old : base ≤ pass.group.floor.slices.size) :
    Pass.Takes base job.id (pass.turn base outage now job) pass (pass.visit outage now job) := by
  unfold Pass.visit
  split
  · next terminal => exact Pass.dropFinished_turn sound terminal
  · next unfinished =>
      split
      · next late => exact Pass.abort_turn sound unfinished late
      · next early => exact Pass.workOn_turn sound old unfinished early

end Discovery

end Restage
