import Restage.Proofs.Discovery.Settled

/-!
# New slices

Of the pieces that a cycle gives out of a job, `Panorama.admitted` are those that their instances
take as new. They are found on their instances under slots that were free before, each of them once,
and nothing else has come to be there (`Panorama.Takes`). What is new in the queues are just these
pieces, in the order in which they were given out.

If the pieces of a job are given out to the last, the answer is the number of the new ones. If an
instance answers with the job's failure, there may be new ones all the same, and no number is
answered (`Discovery.Turn.Admits`).
-/

namespace Restage

open Discovery

/-! ## Slots -/

namespace Portrait

variable {seen : Option Portrait} {slot : Slot} {job : Job} {piece : Piece}

/-- What is shown under a slot of a job, tracked or not. -/
def face? (seen : Option Portrait) (slot : Slot) : Option Face :=
  seen.bind fun portrait => portrait.faces slot

/-- What a submission comes to, by what was under the slot of the piece before. -/
inductive Admits (seen : Option Portrait) (piece : Piece) : Reply → Prop
  | kept {shown : Portrait} {answer : Except FatalFailure Standing} (old : answer ≠ .ok .created)
    (same : ∀ slot, shown.faces slot = face? seen slot) : Admits seen piece ⟨shown, [], answer⟩
  | created {shown : Portrait} (free : face? seen piece.slot = none)
    (put : ∀ slot, shown.faces slot =
      if slot = piece.slot then some ⟨⟨none, piece⟩, .pending, none⟩ else face? seen slot) :
    Admits seen piece ⟨shown, [⟨none, piece⟩], .ok .created⟩
  | again {shown : Portrait} {old : Tag} {failure : Option JobFault}
    (failed : face? seen piece.slot = some ⟨old, .failed, failure⟩)
    (put : ∀ slot, shown.faces slot =
      if slot = piece.slot then some ⟨old, .pending, none⟩ else face? seen slot) :
    Admits seen piece ⟨shown, [old], .ok .pending⟩

theorem offer_admits (job : Job) (piece : Piece) (seen : Option Portrait) :
    Admits seen piece (offer job piece seen) := by
  have same : ∀ slot, (seen.getD (.blank job)).faces slot = face? seen slot := by
    intro slot
    cases seen <;> rfl
  unfold offer
  generalize seen.getD (.blank job) = portrait at same
  cases fatal : portrait.fatal with
  | some failure =>
      rw [receive_fatal fatal]
      exact .kept nofun same
  | none =>
      cases known : portrait.faces piece.slot with
      | none =>
          rw [receive_new fatal known]
          refine .created ((same _).symm.trans known) fun slot => ?_
          rw [← same]
          rfl
      | some face =>
          obtain ⟨old, state, failure⟩ := face
          by_cases finished : state = .completed
          · subst finished
            rw [receive_completed fatal known]
            exact .kept nofun same
          · by_cases bad : state = .failed
            · subst bad
              rw [receive_failed fatal known]
              refine .again ((same _).symm.trans known) fun slot => ?_
              rw [← same]
              rfl
            · rw [receive_underway fatal known finished bad]
              exact .kept nofun same

theorem face?_described : face? (described job seen) slot = face? seen slot := by
  cases seen <;> rfl

end Portrait

/-! ## Pieces -/

/-- Where a piece is given to: the instance and the slot. -/
def Discovery.place (offer : UInt32 × Piece) : UInt32 × Slot := (offer.1, offer.2.slot)

namespace Panorama

variable {job : Job} {view middle view' : Panorama} {id : UInt32} {piece : Piece} {slot : Slot}
  {pieces new more : List (UInt32 × Piece)} {fresh : Nat}

def face? (view : Panorama) (id : UInt32) (slot : Slot) : Option Face :=
  Portrait.face? (view.seen id) slot

/-- What has failed is older than the base. -/
def Aged (view : Panorama) : Prop :=
  ∀ id slot, ∀ face ∈ view.face? id slot, face.state = .failed → face.tag.origin ≠ none

/-- The pieces that are new where they are given to. -/
def admitted (job : Job) (view : Panorama) : List (UInt32 × Piece) → List (UInt32 × Piece)
  | [] => []
  | (id, piece) :: rest =>
      match (view.reply job id piece).answer with
      | .error _ => []
      | .ok standing =>
          (if standing = .created then [(id, piece)] else []) ++
            (view.offered job id piece).admitted job rest

/-- The number that is answered is that of the new pieces. -/
theorem length_admitted (taken : view.give job pieces = (view', .ok fresh)) :
    (view.admitted job pieces).length = fresh := by
  induction pieces generalizing view fresh with
  | nil =>
      cases taken
      rfl
  | cons offer rest ih =>
      obtain ⟨standing, count, answer, later, rfl⟩ := give_taken taken
      rw [admitted, answer, List.length_append, ih later]
      split <;> rfl

theorem mem_of_admitted {offer : UInt32 × Piece} (listed : offer ∈ view.admitted job pieces) :
    offer ∈ pieces := by
  induction pieces generalizing view with
  | nil => exact listed
  | cons head rest ih =>
      obtain ⟨id, piece⟩ := head
      rw [admitted] at listed
      split at listed
      · cases listed
      · rcases List.mem_append.mp listed with here | later
        · split at here
          · rw [List.mem_singleton.mp here]
            exact List.mem_cons_self
          · cases here
        · exact List.mem_cons_of_mem _ (ih later)

/-- Between two panoramas some pieces have been taken as new. -/
structure Takes (view view' : Panorama) (new : List (UInt32 × Piece)) : Prop where
  once : (new.map place).Nodup
  free : ∀ offer ∈ new, view.face? offer.1 offer.2.slot = none
  shown : ∀ id slot, (view'.face? id slot).isSome = true ↔
    (view.face? id slot).isSome = true ∨ (id, slot) ∈ new.map place
  aged : view.Aged → view'.Aged
  queued : view.Aged → ∀ id, ∃ tags, view'.queued id = view.queued id ++ tags ∧
    (tags.filter fun tag => tag.origin = none) =
      (new.filter fun offer => offer.1 = id).map fun offer => ⟨none, offer.2⟩

/-- What shows the same under every slot, and has nothing more queued. -/
theorem Takes.nothing (same : ∀ id slot, view'.face? id slot = view.face? id slot)
    (queued : ∀ id, view'.queued id = view.queued id) : Takes view view' [] where
  once := List.nodup_nil
  free := nofun
  shown := fun id slot => by
    rw [same, List.map_nil]
    exact (or_iff_left List.not_mem_nil).symm
  aged := fun aged id slot face shown failed => aged id slot face (same id slot ▸ shown) failed
  queued := fun _ id => ⟨[], by rw [queued, List.append_nil], rfl⟩

theorem Takes.trans (first : Takes view middle new) (second : Takes middle view' more) :
    Takes view view' (new ++ more) where
  once := by
    rw [List.map_append]
    refine first.once.append second.once fun place inside inside' => ?_
    obtain ⟨offer, listed, rfl⟩ := List.mem_map.mp inside'
    have taken := (first.shown offer.1 offer.2.slot).mpr (.inr inside)
    rw [second.free offer listed] at taken
    cases taken
  free := fun offer listed => by
    rcases List.mem_append.mp listed with listed | listed
    · exact first.free offer listed
    · have absent := second.free offer listed
      rw [← Option.not_isSome_iff_eq_none, first.shown, not_or] at absent
      exact Option.not_isSome_iff_eq_none.mp absent.1
  shown := fun id slot => by
    rw [second.shown, first.shown, List.map_append, List.mem_append, or_assoc]
  aged := fun aged => second.aged (first.aged aged)
  queued := fun aged id => by
    obtain ⟨tags, queued, young⟩ := first.queued aged id
    obtain ⟨tags', queued', young'⟩ := second.queued (first.aged aged) id
    refine ⟨tags ++ tags', ?_, ?_⟩
    · rw [queued', queued, List.append_assoc]
    · rw [List.filter_append, young, young', List.filter_append, List.map_append]

/-- What is new is under slots that have come to be taken. -/
theorem Takes.mem_iff (takes : Takes view view' new) (id : UInt32) (slot : Slot) :
    (id, slot) ∈ new.map place ↔
      ¬ (view.face? id slot).isSome = true ∧ (view'.face? id slot).isSome = true := by
  constructor
  · intro inside
    obtain ⟨offer, listed, same⟩ := List.mem_map.mp inside
    obtain ⟨rfl, rfl⟩ := Prod.mk.inj same
    refine ⟨?_, (takes.shown _ _).mpr (.inr inside)⟩
    rw [takes.free offer listed]
    exact Bool.noConfusion
  · exact fun ⟨free, taken⟩ => ((takes.shown _ _).mp taken).resolve_left free

/-- Another face has come to be under one slot. -/
def Puts (view view' : Panorama) (id : UInt32) (slot : Slot) (face : Face) : Prop :=
  ∀ other slot', view'.face? other slot' =
    if other = id ∧ slot' = slot then some face else view.face? other slot'

theorem Puts.isSome_iff {face : Face} (puts : Puts view view' id slot face) (other : UInt32)
    (slot' : Slot) : (view'.face? other slot').isSome = true ↔
      (view.face? other slot').isSome = true ∨ (other, slot') = (id, slot) := by
  rw [puts, Prod.mk.injEq]
  split
  · next here => simp [here]
  · next away => simp [away]

theorem Puts.aged {face : Face} (puts : Puts view view' id slot face)
    (well : face.state ≠ .failed) (aged : view.Aged) : view'.Aged := by
  intro other slot' face' shown failed
  rw [puts] at shown
  split at shown
  · cases shown
    exact absurd failed well
  · exact aged other slot' face' shown failed

theorem queued_offered (other : UInt32) : (view.offered job id piece).queued other =
    view.queued other ++ if other = id then (view.reply job id piece).queued else [] := by
  rw [offered, paint]
  simp only
  split
  · next same => rw [same]
  · rw [List.append_nil]

theorem face?_offered (other : UInt32) (slot : Slot) : (view.offered job id piece).face? other slot =
    if other = id then (view.reply job id piece).shown.faces slot else view.face? other slot := by
  rw [face?, seen_offered]
  split <;> rfl

/-- A piece is offered to an instance, which takes it as new if it answers so. -/
theorem takes_offered (view : Panorama) (job : Job) (id : UInt32) (piece : Piece) :
    Takes view (view.offered job id piece)
      (if (view.reply job id piece).answer = .ok .created then [(id, piece)] else []) := by
  have admits := Portrait.offer_admits job piece (view.seen id)
  have faces := @face?_offered job view id piece
  have queued := @queued_offered job view id piece
  have reply : view.reply job id piece = Portrait.offer job piece (view.seen id) := rfl
  rw [reply] at faces queued ⊢
  generalize view.offered job id piece = view' at faces queued ⊢
  generalize Portrait.offer job piece (view.seen id) = told at admits faces queued ⊢
  have puts : ∀ face : Face, (∀ slot, told.shown.faces slot =
      if slot = piece.slot then some face else Portrait.face? (view.seen id) slot) →
      Puts view view' id piece.slot face := by
    intro face put other slot
    rw [faces, put]
    by_cases here : other = id
    · rw [here, if_pos rfl]
      simp only [true_and]
      rfl
    · rw [if_neg here, if_neg fun both => here both.1]
  cases admits with
  | kept old same =>
      rw [if_neg old]
      refine .nothing (fun other slot => ?_) fun other => ?_
      · rw [faces]
        split
        · next here => rw [same, here, face?]
        · rfl
      · rw [queued, ite_self, List.append_nil]
  | @again shown old failure failed put =>
      have put := puts _ put
      have tried : view.face? id piece.slot = some ⟨old, .failed, failure⟩ := failed
      rw [if_neg nofun]
      refine ⟨List.nodup_nil, nofun, fun other slot => ?_, put.aged nofun,
        fun aged other => ⟨_, queued other, ?_⟩⟩
      · -- what is tried once more was under its slot before
        rw [put.isSome_iff, List.map_nil, or_iff_left List.not_mem_nil, or_iff_left_iff_imp]
        rintro ⟨⟩
        rw [tried]
        rfl
      · -- and comes to the queue under its own number
        have older := aged id piece.slot _ tried rfl
        split
        · rw [List.filter_cons_of_neg (by simpa using older)]
          rfl
        · rfl
  | @created shown free put =>
      have put := puts _ put
      rw [if_pos rfl]
      refine ⟨List.nodup_singleton _, fun offer listed => ?_, fun other slot => ?_, put.aged nofun,
        fun aged other => ⟨_, queued other, ?_⟩⟩
      · rw [List.mem_singleton.mp listed]
        exact free
      · rw [put.isSome_iff, List.map_singleton, List.mem_singleton]
        rfl
      · by_cases here : other = id
        · simp [here]
        · simp [here, Ne.symm here]

/-- Pieces are given out. -/
theorem takes_give (view : Panorama) (job : Job) (pieces : List (UInt32 × Piece)) :
    Takes view (view.give job pieces).1 (view.admitted job pieces) := by
  induction pieces generalizing view with
  | nil => exact .nothing (fun _ _ => rfl) fun _ => rfl
  | cons offer rest ih =>
      obtain ⟨id, piece⟩ := offer
      have first := view.takes_offered job id piece
      cases answer : (view.reply job id piece).answer with
      | error failure =>
          rw [answer, if_neg nofun] at first
          rw [give_stop answer, admitted, answer]
          exact first
      | ok standing =>
          rw [answer] at first
          simp only [Except.ok.injEq] at first
          rw [give_next answer, admitted, answer]
          exact first.trans (ih _)

theorem takes_described (view : Panorama) (job : Job) :
    Takes view (view.map (Portrait.described job)) [] :=
  .nothing (fun _ _ => Portrait.face?_described) fun _ => rfl

end Panorama

/-! ## Turns -/

namespace Discovery

variable {job : Job} {view : Panorama} {turn : Turn} {new : List (UInt32 × Piece)}

theorem job_of_mem_offers {homes : List Instance} {records : List SliceRecord} {id : TimeId}
    (of : ∀ record ∈ records, record.job = id) {offer : UInt32 × Piece}
    (listed : offer ∈ offers homes records) : offer.2.slot.job = id := by
  obtain ⟨record, inside, listed⟩ := List.mem_flatMap.mp listed
  obtain ⟨home, -, made⟩ := List.mem_filterMap.mp listed
  split at made
  · obtain ⟨piece, built, label, of'⟩ := pieceAt_ok home record
    rw [built] at made
    cases made
    exact of'.trans (of record inside)
  · cases made

/-- The pieces that are new in the turn of a job. -/
def Turn.admitted (outage : Outage) (now : Instant) (homes : List Instance)
    (records : List SliceRecord) (job : Job) (view : Panorama) : List (UInt32 × Piece) :=
  if job.IsTerminal ∨ job.IsExpired now ∨ outage.records = true then []
  else (view.map (Portrait.described job)).admitted job (offers homes records)

/-- What the turn of a job has to show for the pieces that are new in it. -/
inductive Turn.Admits (job : Job) (view : Panorama) : List (UInt32 × Piece) → Turn → Prop
  | gone {turn : Turn} (unseen : ∀ id, turn.view.seen id = none)
    (quiet : turn.view.queued = view.queued) (silent : turn.report.submittedSlices = 0) :
    Admits job view [] turn
  | given {turn : Turn} {new : List (UInt32 × Piece)} (takes : view.Takes turn.view new)
    (labelled : ∀ id, ∀ portrait ∈ turn.view.seen id, portrait.job = job)
    (well : job.status ≠ .failed) (counted : turn.report.submittedSlices = new.length) :
    Admits job view new turn
  /-- The job was given up. What is new stays, and is not counted. -/
  | stopped {turn : Turn} {new : List (UInt32 × Piece)} (takes : view.Takes turn.view new)
    (labelled : ∀ id, ∀ portrait ∈ turn.view.seen id, portrait.job = job.withStatus .failed)
    (failed : turn.report.failedJobs = 1) (silent : turn.report.submittedSlices = 0) :
    Admits job view new turn

theorem labelled_described (view : Panorama) (job : Job) :
    ∀ id, ∀ portrait ∈ (view.map (Portrait.described job)).seen id, portrait.job = job := by
  intro id portrait shown
  obtain ⟨old, -, rfl⟩ := Option.map_eq_some_iff.mp shown
  rfl

theorem Turn.admits (outage : Outage) (now : Instant) (homes : List Instance)
    (records : List SliceRecord) (job : Job) (view : Panorama) :
    Admits job view (admitted outage now homes records job view)
      (of outage now homes records job view) := by
  unfold admitted of
  by_cases terminal : job.IsTerminal
  · rw [if_pos (.inl terminal), if_pos terminal]
    exact .gone (fun _ => rfl) rfl rfl
  by_cases late : job.IsExpired now
  · rw [if_pos (.inr (.inl late)), if_neg terminal, if_pos late]
    exact .gone (fun _ => rfl) rfl rfl
  have well : job.status ≠ .failed := fun failed => terminal (.inr (.inl failed))
  have described := view.takes_described job
  have labelled := labelled_described view job
  rw [if_neg terminal, if_neg late]
  by_cases unread : outage.records = true
  · rw [if_pos (.inr (.inr unread)), if_pos unread]
    exact .given described labelled well rfl
  rw [if_neg unread, if_neg fun either => either.elim terminal fun either => either.elim late unread]
  have takes := described.trans ((view.map (Portrait.described job)).takes_give job
    (offers homes records))
  rw [List.nil_append] at takes
  split
  · next view' fresh taken =>
      rw [taken] at takes
      exact .given takes (Panorama.give_settles labelled taken).labelled well
        (Panorama.length_admitted taken).symm
  · next view' failure stopped =>
      rw [stopped] at takes
      have shown := takes.trans (view'.takes_described (job.withStatus .failed))
      rw [List.append_nil] at shown
      exact .stopped shown (labelled_described view' _) rfl rfl

namespace Turn.Admits

theorem mem_iff (admits : Turn.Admits job view new turn) (id : UInt32) (slot : Slot) :
    (id, slot) ∈ new.map place ↔
      ¬ (view.face? id slot).isSome = true ∧ (turn.view.face? id slot).isSome = true := by
  cases admits with
  | gone unseen quiet silent =>
      rw [Panorama.face?, Panorama.face?, unseen]
      exact iff_of_false List.not_mem_nil fun ⟨_, taken⟩ => nomatch taken
  | given takes => exact takes.mem_iff id slot
  | stopped takes => exact takes.mem_iff id slot

theorem once (admits : Turn.Admits job view new turn) : (new.map place).Nodup := by
  cases admits with
  | gone => exact List.nodup_nil
  | given takes => exact takes.once
  | stopped takes => exact takes.once

theorem queued (admits : Turn.Admits job view new turn) (aged : view.Aged) (id : UInt32)
    (nothing : view.queued id = []) :
    ((turn.view.queued id).filter fun tag => tag.origin = none) =
      (new.filter fun offer => offer.1 = id).map fun offer => ⟨none, offer.2⟩ := by
  have brought : view.Takes turn.view new → ((turn.view.queued id).filter fun tag =>
      tag.origin = none) = (new.filter fun offer => offer.1 = id).map fun offer =>
        ⟨none, offer.2⟩ := by
    intro takes
    obtain ⟨tags, queued, young⟩ := takes.queued aged id
    rw [queued, nothing, List.nil_append, young]
  cases admits with
  | gone unseen quiet silent =>
      rw [quiet, nothing]
      rfl
  | given takes => exact brought takes
  | stopped takes => exact brought takes

/-- The new pieces of a job are counted unless the job is shown as one that has failed. -/
theorem counted (admits : Turn.Admits job view new turn) (failed : UInt32 × Slot → Bool)
    (shown : ∀ pair ∈ new.map place, failed pair =
      (turn.view.seen pair.1).any fun portrait => portrait.job.status = .failed) :
    turn.report.submittedSlices = (new.map place).countP fun pair => !failed pair := by
  -- wherever there is a new piece its job is shown
  have label : ∀ job', (∀ id, ∀ portrait ∈ turn.view.seen id, portrait.job = job') →
      ∀ pair ∈ new.map place, failed pair = decide (job'.status = .failed) := by
    intro job' labelled pair inside
    obtain ⟨face, found⟩ := Option.isSome_iff_exists.mp ((admits.mem_iff _ _).mp inside).2
    obtain ⟨portrait, seen, -⟩ := Option.bind_eq_some_iff.mp found
    rw [shown pair inside, seen, Option.any_some, labelled pair.1 portrait seen]
  cases admits with
  | gone unseen quiet silent => exact silent
  | given takes labelled well counted =>
      rw [counted, ← List.length_map place, eq_comm, List.countP_eq_length]
      intro pair inside
      rw [label job labelled pair inside, decide_eq_false well]
      rfl
  | stopped takes labelled failed' silent =>
      rw [silent, eq_comm, List.countP_eq_zero]
      intro pair inside
      rw [label _ labelled pair inside]
      exact Bool.noConfusion

/-- If the job was not given up, its new pieces are counted. -/
theorem counted_of_fine (admits : Turn.Admits job view new turn)
    (fine : turn.report.failedJobs = 0) : turn.report.submittedSlices = (new.map place).length := by
  rw [List.length_map]
  cases admits with
  | gone unseen quiet silent => exact silent
  | given takes labelled well counted => exact counted
  | stopped takes labelled failed silent => omega

end Turn.Admits

end Discovery

end Restage
