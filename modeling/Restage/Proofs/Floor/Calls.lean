import Mathlib.Data.List.Chain
import Restage.Proofs.Floor.Concerns

/-!
# Calls on a slice

The state of a slice, its failure and its token are three things, and five calls look at some of
them and write others: a slice may be told to submit, to try again, to complete, to fail or to
cancel, in any order and however often. `Slice.Takes` lists what a call may come to, with its
answer, and `Floor.called` says that each call comes to one of these, wherever the slice stands.

From it `Floor.lived` follows for any sequence of calls: the three things never disagree,
no call does what the state does not allow, every answer is true, and the slice was put into its
queue as often as a submission or a retry was answered with yes. The slice may be registered all
along, never, or somewhere between the calls, and its tracker may be let go; both stand among the
calls here.
-/

namespace Restage

/-! ## Calls and answers -/

/-- What a slice may be asked, and what may happen to its tracker. -/
inductive Slice.Call where
  | submit
  | retry
  | complete
  | fail (cause : JobFault)
  | cancel
  /-- It is registered with a tracker, which stays its own when it is the first. -/
  | register (t : TrackerRef)
  /-- Nobody holds a tracker any more. -/
  | letGo (t : TrackerRef)
  deriving DecidableEq

/-- The failure that a call brings. -/
def Slice.Call.cause? : Slice.Call → Option JobFault
  | fail cause => some cause
  | _ => none

/-- A submission or a retry that was answered with yes. -/
def Slice.Call.Enqueues (call : Slice.Call) (answer : Bool) : Prop :=
  (call = submit ∨ call = retry) ∧ answer = true

instance (call : Slice.Call) (answer : Bool) : Decidable (call.Enqueues answer) :=
  inferInstanceAs (Decidable (_ ∧ _))

/-- One call on a slice, with its answer. -/
def Floor.call (floor : Floor) (i : SliceRef) : Slice.Call → Floor × Bool
  | .submit => floor.submit i
  | .retry => floor.retry i
  | .complete => floor.complete i
  | .fail cause => floor.fail i cause
  | .cancel => floor.cancel i
  | .register t => floor.register i t
  | .letGo t => (floor.modifyTracker t fun found => { found with held := false }, true)

/-- A call and its answer, and the slice before and after it. -/
structure Slice.Exchange where
  call : Slice.Call
  answer : Bool
  before : Option Slice
  after : Option Slice

namespace Slice.Exchange

/-- The call changed the state of the slice. -/
def Moved (e : Exchange) : Prop := e.after.map Slice.state ≠ e.before.map Slice.state

instance (e : Exchange) : Decidable e.Moved := inferInstanceAs (Decidable (_ ≠ _))

/-- What holds of every exchange with a slice, which is `s` before it and `s'` after it. -/
structure Lawful (e : Exchange) (s s' : Slice) : Prop where
  before : e.before = some s
  after : e.after = some s'
  sound : s'.Sound
  completed : s.state = .completed → s'.state = .completed
  cancelled : s.state = .cancelled → s'.state = .cancelled
  failed : s.state = .failed → s'.state ≠ .failed →
    e.call = .retry ∧ s'.state = .pending ∧ ∃ detail, s.failure = some (.retriable detail)
  created : s'.state = .created → s.state = .created
  /-- Whoever submits, retries, fails or cancels is told whether that moved the slice. -/
  moves : e.call ∈ [.submit, .retry, .cancel] ∨ (∃ cause, e.call = .fail cause) →
    (e.answer = true ↔ s'.state ≠ s.state)
  /-- Whoever completes is told whether the slice is completed now. -/
  completes : e.call = .complete → (e.answer = true ↔ s'.state = .completed)

end Slice.Exchange

/-- Calls on a slice, one after the other, with what was exchanged. -/
def Floor.callAll (floor : Floor) (i : SliceRef) :
    List Slice.Call → Floor × List Slice.Exchange
  | [] => (floor, [])
  | call :: rest =>
      let (next, answer) := floor.call i call
      let (last, log) := next.callAll i rest
      (last, ⟨call, answer, floor.slices[i]?, next.slices[i]?⟩ :: log)

/-- The last exchange that changed the state. -/
def Slice.lastMove? (log : List Slice.Exchange) : Option Slice.Exchange :=
  (log.filter fun e => e.Moved).getLast?

/-- The queue of the tracker that a slice is bound to. -/
def Floor.queueOf? (floor : Floor) (i : SliceRef) : Option QueueRef :=
  (floor.post? i).map Prod.fst

variable {floor next last : Floor} {t : TrackerRef} {k : Tracker} {i : SliceRef} {s s' : Slice}
  {q : QueueRef} {call : Slice.Call} {answer : Bool} {log : List Slice.Exchange}

/-! ## What a call comes to -/

/-- What a call may make of slice `s`, with its answer. -/
inductive Slice.Takes (s : Slice) : Slice.Call → Bool → Slice → Prop
  | begun (created : s.state = .created) : s.Takes .submit true { s with state := .pending }
  | reopened {detail : String} (failed : s.state = .failed)
    (cause : s.failure = some (.retriable detail)) :
    s.Takes .retry true { s with state := .pending, failure := none }
  | completed (running : ¬ s.state.IsTerminal) :
    s.Takes .complete true { s with state := .completed }
  | again (completed : s.state = .completed) : s.Takes .complete true s
  | past (other : s.state ≠ .completed) : s.Takes .complete false s
  | failed (cause : JobFault) (running : ¬ s.state.IsTerminal) :
    s.Takes (.fail cause) true { s with state := .failed, failure := some cause }
  | cancelled (running : ¬ s.state.IsTerminal) :
    s.Takes .cancel true { s with state := .cancelled, tokenCancelled := true }
  | registered (t : TrackerRef) (owner : Option TrackerRef) (answer : Bool)
    (kept : ∀ u, s.owner = some u → owner = some u) :
    s.Takes (.register t) answer { s with owner := owner }
  | letGo (t : TrackerRef) : s.Takes (.letGo t) true s
  | refused {call : Slice.Call} (other : call ≠ .complete) : s.Takes call false s

theorem Slice.takes_bind (s : Slice) (t : TrackerRef) (answer : Bool) :
    s.Takes (.register t) answer (s.bind t).1 := by
  unfold Slice.bind
  split
  · next free => exact .registered t (some t) answer fun u owner => nomatch free.symm.trans owner
  · next u owner => exact .registered t s.owner answer fun _ same => same

theorem Slice.Takes.owner (takes : s.Takes call answer s') (owner : s.owner = some t) :
    s'.owner = some t := by
  cases takes with
  | registered u _ _ kept => exact kept t owner
  | begun | reopened | completed | again | past | failed | cancelled | letGo | refused =>
      exact owner

/-- A slice that has not ended has no failure, and its token is not cancelled. -/
theorem Slice.Sound.blank (sound : s.Sound) (running : ¬ s.state.IsTerminal) :
    s.failure = none ∧ s.tokenCancelled = false := by
  have fine : s.state ≠ .failed := fun failed => running (.inr (.inl failed))
  have alive : s.state ≠ .cancelled := fun cancelled => running (.inr (.inr cancelled))
  exact ⟨sound.failure_of_ne fine, Bool.eq_false_iff.mpr (sound.token_of_ne alive)⟩

theorem Slice.Takes.sound (takes : s.Takes call answer s') (sound : s.Sound) : s'.Sound := by
  cases takes with
  | begun created =>
      obtain ⟨fine, token⟩ := sound.blank (by rw [created]; decide)
      exact ⟨by simp [fine], by simp [token]⟩
  | reopened failed =>
      have token := sound.token_of_ne (by rw [failed]; exact SliceState.noConfusion)
      exact ⟨by simp, by simp [token]⟩
  | completed running =>
      obtain ⟨fine, token⟩ := sound.blank running
      exact ⟨by simp [fine], by simp [token]⟩
  | failed cause running =>
      obtain ⟨-, token⟩ := sound.blank running
      exact ⟨by simp, by simp [token]⟩
  | cancelled running =>
      obtain ⟨fine, -⟩ := sound.blank running
      exact ⟨by simp [fine], by simp⟩
  | registered => exact ⟨sound.cause, sound.token⟩
  | again | past | letGo | refused => exact sound

theorem SliceState.ne_of_running {state other : SliceState} (running : ¬ state.IsTerminal)
    (ended : other.IsTerminal) : other ≠ state := fun same => running (same ▸ ended)

/-- A call leaves the state as it is, or it moves a slice that has not ended, or it reopens one that
has failed retriably. -/
theorem Slice.Takes.move (takes : s.Takes call answer s') :
    s'.state = s.state ∨
      (¬ s.state.IsTerminal ∧ s'.state ≠ .created ∧ s'.state ≠ s.state) ∨
      (s.state = .failed ∧ s'.state = .pending ∧ call = .retry ∧
        ∃ detail, s.failure = some (.retriable detail)) := by
  cases takes with
  | begun created =>
      rw [created]
      exact .inr (.inl ⟨by decide, nofun, nofun⟩)
  | reopened failed cause => exact .inr (.inr ⟨failed, rfl, rfl, _, cause⟩)
  | completed running =>
      exact .inr (.inl ⟨running, nofun, SliceState.ne_of_running running (.inl rfl)⟩)
  | failed _ running =>
      exact .inr (.inl ⟨running, nofun, SliceState.ne_of_running running (.inr (.inl rfl))⟩)
  | cancelled running =>
      exact .inr (.inl ⟨running, nofun, SliceState.ne_of_running running (.inr (.inr rfl))⟩)
  | again | past | registered | letGo | refused => exact .inl rfl

/-- Whoever asks a slice to move is told whether it did. -/
theorem Slice.Takes.answered (takes : s.Takes call answer s')
    (asked : call ∈ [.submit, .retry, .cancel] ∨ ∃ cause, call = .fail cause) :
    answer = true ↔ s'.state ≠ s.state := by
  have moved : ∀ state : SliceState, state ≠ s.state → (true = true ↔ state ≠ s.state) :=
    fun _ other => iff_of_true rfl other
  cases takes with
  | begun created => exact moved _ (by rw [created]; exact nofun)
  | reopened failed => exact moved _ (by rw [failed]; exact nofun)
  | failed _ running => exact moved _ (SliceState.ne_of_running running (.inr (.inl rfl)))
  | cancelled running => exact moved _ (SliceState.ne_of_running running (.inr (.inr rfl)))
  | refused => exact iff_of_false nofun (not_not.mpr rfl)
  | completed | again | past | registered | letGo => simp at asked

theorem Slice.Takes.completes (takes : s.Takes .complete answer s') :
    answer = true ↔ s'.state = .completed := by
  cases takes with
  | completed => exact iff_of_true rfl rfl
  | again completed => exact iff_of_true rfl completed
  | past other => exact iff_of_false nofun other
  | refused other => exact absurd rfl other

theorem Slice.Takes.lawful (takes : s.Takes call answer s') (sound : s.Sound) :
    Slice.Exchange.Lawful ⟨call, answer, some s, some s'⟩ s s' where
  before := rfl
  after := rfl
  sound := takes.sound sound
  completed := by
    intro completed
    rcases takes.move with same | ⟨running, -⟩ | ⟨failed, -⟩
    · exact same.trans completed
    · exact absurd (.inl completed) running
    · exact absurd (completed.symm.trans failed) nofun
  cancelled := by
    intro cancelled
    rcases takes.move with same | ⟨running, -⟩ | ⟨failed, -⟩
    · exact same.trans cancelled
    · exact absurd (.inr (.inr cancelled)) running
    · exact absurd (cancelled.symm.trans failed) nofun
  failed := by
    intro failed left
    rcases takes.move with same | ⟨running, -⟩ | ⟨-, pending, retry, cause⟩
    · exact absurd (same.trans failed) left
    · exact absurd (.inr (.inl failed)) running
    · exact ⟨retry, pending, cause⟩
  created := by
    intro created
    rcases takes.move with same | ⟨-, begun, -⟩ | ⟨-, pending, -⟩
    · exact same.symm.trans created
    · exact absurd created begun
    · exact absurd (pending.symm.trans created) nofun
  moves := takes.answered
  completes := by
    rintro rfl
    exact takes.completes

/-- The failure of a slice is the one of the call that moved it last. -/
theorem Slice.Takes.cause (takes : s.Takes call answer s') (sound : s.Sound) :
    s'.failure = if s'.state = s.state then s.failure else call.cause? := by
  cases takes with
  | begun created =>
      rw [if_neg (by rw [created]; exact nofun)]
      exact sound.failure_of_created created
  | reopened failed =>
      rw [if_neg (by rw [failed]; exact nofun)]
      rfl
  | completed running =>
      rw [if_neg (SliceState.ne_of_running running (.inl rfl))]
      exact (sound.blank running).1
  | failed cause running =>
      rw [if_neg (SliceState.ne_of_running running (.inr (.inl rfl)))]
      rfl
  | cancelled running =>
      rw [if_neg (SliceState.ne_of_running running (.inr (.inr rfl)))]
      exact (sound.blank running).1
  | again | past | registered | letGo | refused => exact (if_pos rfl).symm

/-! ## Calls on the floor -/

theorem Floor.keeper?_eq_some : floor.keeper? s = some t ↔
    s.owner = some t ∧ ∃ k, floor.trackers[t]? = some k ∧ k.held = true := by
  rw [Floor.keeper?, Option.filter_eq_some_iff, Option.any_eq_true]

theorem Floor.queueOf?_eq_some : floor.queueOf? i = some q ↔
    ∃ s t k, floor.slices[i]? = some s ∧ s.owner = some t ∧ floor.trackers[t]? = some k ∧
      k.queue = q := by
  rw [Floor.queueOf?, Option.map_eq_some_iff]
  constructor
  · rintro ⟨⟨_, state⟩, posted, rfl⟩
    obtain ⟨s, t, k, here, owner, found, queue, -⟩ := Floor.post?_eq_some.mp posted
    exact ⟨s, t, k, here, owner, found, queue⟩
  · rintro ⟨s, t, k, here, owner, found, rfl⟩
    exact ⟨_, Floor.post?_of here owner found, rfl⟩

/-- A report leaves the slices alone that have ended, and all queues; no tracker gets another
queue by it. -/
structure Floor.Reported (floor next : Floor) : Prop where
  slice : ∀ {i : SliceRef} {s : Slice}, floor.slices[i]? = some s → s.state.IsTerminal →
    next.slices[i]? = some s
  queues : next.queues = floor.queues
  trackers : ∀ t : TrackerRef,
    (next.trackers[t]?).map Tracker.queue = (floor.trackers[t]?).map Tracker.queue

theorem Floor.Reported.refl (floor : Floor) : Floor.Reported floor floor :=
  ⟨fun here _ => here, rfl, fun _ => rfl⟩

theorem Floor.Reported.cancelAll (floor : Floor) (t : TrackerRef) :
    Floor.Reported floor (floor.cancelAll t).1 where
  slice := by
    intro i s here ended
    rw [Floor.slices_cancelAll, here, Option.map_some, s.cancelled_of_terminal ended, ite_self]
  queues := Floor.queues_cancelAll
  trackers := fun u => by rw [Floor.trackers_cancelAll]

theorem Floor.Reported.recordFatal (floor : Floor) (t : TrackerRef) (f : FatalFailure) :
    Floor.Reported floor (floor.recordFatal t f) := by
  rw [Floor.recordFatal]
  split
  · exact .refl floor
  · split
    · obtain ⟨slice, queues, trackers⟩ := Floor.Reported.cancelAll
        (floor.modifyTracker t fun found => { found with fatal := some f }) t
      refine ⟨slice, queues, fun u => (trackers u).trans ?_⟩
      rw [Floor.trackers_modifyTracker]
      split
      · exact Option.map_map ..
      · rfl
    · split
      · exact .cancelAll floor t
      · exact .refl floor

theorem Floor.Reported.report (floor : Floor) (i : SliceRef) (cause : JobFault) :
    Floor.Reported floor (floor.report i cause) := by
  unfold Floor.report
  split
  · exact .recordFatal floor _ _
  · exact .refl floor

/-- What a call on slice `i` does to the floor. -/
structure Floor.Called (i : SliceRef) (s s' : Slice) (call : Slice.Call) (answer : Bool)
    (floor next : Floor) : Prop where
  takes : s.Takes call answer s'
  slice : next.slices[i]? = some s'
  trackers : ∀ t : TrackerRef,
    (next.trackers[t]?).map Tracker.queue = (floor.trackers[t]?).map Tracker.queue
  posted : call.Enqueues answer → ∃ q, floor.queueOf? i = some q
  queues : ∀ q : QueueRef, next.queues[q]? = (floor.queues[q]?).map fun queue =>
    queue.pushAll (if call.Enqueues answer ∧ floor.queueOf? i = some q then [i] else [])

/-- A call that does not queue the slice leaves the queues alone. -/
theorem Floor.Called.of_quiet (takes : s.Takes call answer s')
    (slice : next.slices[i]? = some s') (quiet : ¬ call.Enqueues answer)
    (queues : next.queues = floor.queues)
    (trackers : ∀ t : TrackerRef,
      (next.trackers[t]?).map Tracker.queue = (floor.trackers[t]?).map Tracker.queue) :
    Floor.Called i s s' call answer floor next where
  takes := takes
  slice := slice
  trackers := trackers
  posted := fun enqueues => absurd enqueues quiet
  queues := fun q => by
    rw [queues, if_neg fun both => quiet both.1]
    simp only [Queue.pushAll_nil, Option.map_id']

/-- A call that is refused changes nothing. -/
theorem Floor.Called.refused (here : floor.slices[i]? = some s) (other : call ≠ .complete) :
    Floor.Called i s s call false floor floor :=
  .of_quiet (.refused other) here (fun enqueues => nomatch enqueues.2) rfl fun _ => rfl

/-- A slice with a held tracker that the change moves is put into the queue of that tracker. -/
theorem Floor.Called.queueBy {change : Slice → Option Slice} (here : floor.slices[i]? = some s)
    (queues : call = .submit ∨ call = .retry)
    (takes : ∀ s', change s = some s' → s.Takes call true s') :
    ∃ s', Floor.Called i s s' call (floor.queueBy i change).2 floor (floor.queueBy i change).1 := by
  have other : call ≠ .complete := by
    rcases queues with rfl | rfl <;> exact nofun
  unfold Floor.queueBy
  rw [here]
  simp only
  split
  · next t s' keeper moved =>
      obtain ⟨owner, k, found, held⟩ := Floor.keeper?_eq_some.mp keeper
      have queue : floor.queueOf? i = some k.queue :=
        Floor.queueOf?_eq_some.mpr ⟨s, t, k, here, owner, found, rfl⟩
      have begun : floor.queueBegun i s' t =
          (floor.modifySlice i fun _ => s').enqueue k.queue i := by
        rw [Floor.queueBegun, Floor.trackers_modifySlice, found]
      rw [begun]
      refine ⟨s', takes s' moved, ?_, fun u => rfl, fun _ => ⟨_, queue⟩, fun q => ?_⟩
      · rw [Floor.slices_enqueue, Floor.slices_modifySlice_of here, if_pos rfl]
      · rw [Floor.queues_enqueue, Floor.queues_modifySlice, queue]
        by_cases own : k.queue = q
        · rw [if_pos own, if_pos ⟨⟨queues, rfl⟩, congrArg some own⟩]
          rfl
        · rw [if_neg own, if_neg fun both => own (Option.some.inj both.2)]
          simp only [Queue.pushAll_nil, Option.map_id']
  · exact ⟨s, .refused here other⟩

/-- What is reported of a slice that has ended leaves it alone. -/
theorem Floor.Called.report {cause : JobFault}
    (called : Floor.Called i s s' (.fail cause) answer floor next) (ended : s'.state.IsTerminal) :
    Floor.Called i s s' (.fail cause) answer floor (next.report i cause) := by
  have reported := Floor.Reported.report next i cause
  refine ⟨called.takes, reported.slice called.slice ended, fun t => ?_, called.posted, ?_⟩
  · exact (reported.trackers t).trans (called.trackers t)
  · rw [reported.queues]
    exact called.queues

/-- A change that is only to the slice itself does not queue it. -/
theorem Floor.Called.moveBy {change : Slice → Option Slice} (here : floor.slices[i]? = some s)
    (quiet : call ≠ .submit ∧ call ≠ .retry)
    (takes : ∀ s', change s = some s' → s.Takes call true s')
    (stays : change s = none → s.Takes call false s) :
    ∃ s', Floor.Called i s s' call (floor.moveBy i change).2 floor (floor.moveBy i change).1 := by
  have quiet : ¬ call.Enqueues (floor.moveBy i change).2 := fun enqueues =>
    enqueues.1.elim quiet.1 quiet.2
  cases moved : change s with
  | none =>
      rw [Floor.moveBy_none here moved] at quiet ⊢
      exact ⟨s, .of_quiet (stays moved) here quiet rfl fun _ => rfl⟩
  | some s' =>
      rw [Floor.moveBy_some here moved] at quiet ⊢
      refine ⟨s', .of_quiet (takes s' moved) ?_ quiet (Floor.queues_modifySlice ..) fun u => ?_⟩
      · rw [Floor.slices_modifySlice_of here, if_pos rfl]
      · rw [Floor.trackers_modifySlice]

/-- Each call comes to one of the things it may come to. -/
theorem Floor.called (here : floor.slices[i]? = some s) (call : Slice.Call) :
    ∃ s', Floor.Called i s s' call (floor.call i call).2 floor (floor.call i call).1 := by
  cases call with
  | submit =>
      refine Floor.Called.queueBy here (.inl rfl) fun s' moved => ?_
      obtain ⟨created, begun⟩ := Option.ite_none_right_eq_some.mp moved
      cases begun
      exact .begun created
  | retry =>
      refine Floor.Called.queueBy here (.inr rfl) fun s' moved => ?_
      unfold Slice.reopen? at moved
      split at moved
      · next detail cause =>
          obtain ⟨failed, reopened⟩ := Option.ite_none_right_eq_some.mp moved
          cases reopened
          exact .reopened failed cause
      · cases moved
  | complete =>
      refine Floor.Called.moveBy here (by decide) (fun s' moved => ?_) fun stays => ?_
      · unfold Slice.complete? at moved
        split at moved
        · next completed =>
            cases moved
            exact .again completed
        · obtain ⟨running, ended⟩ := Option.ite_none_left_eq_some.mp moved
          cases ended
          exact .completed running
      · unfold Slice.complete? at stays
        split at stays
        · cases stays
        · next other => exact .past other
  | fail cause =>
      by_cases ended : s.state.IsTerminal
      · have stays : s.fail? cause = none := if_pos ended
        rw [Floor.call, Floor.fail, Floor.moveBy_none here stays]
        exact ⟨s, Floor.Called.report (.refused here (by simp)) ended⟩
      · have moved : s.fail? cause = some { s with state := .failed, failure := some cause } :=
          if_neg ended
        have there : (floor.modifySlice i fun _ =>
            { s with state := .failed, failure := some cause }).slices[i]? =
              some { s with state := .failed, failure := some cause } := by
          rw [Floor.slices_modifySlice_of here, if_pos rfl]
        rw [Floor.call, Floor.fail, Floor.moveBy_some here moved]
        have called : Floor.Called i s _ (.fail cause) true floor _ :=
          .of_quiet (.failed cause ended) there (by simp [Slice.Call.Enqueues]) rfl fun _ => rfl
        exact ⟨_, called.report (.inr (.inl rfl))⟩
  | cancel =>
      refine Floor.Called.moveBy here (by decide) (fun s' moved => ?_) fun _ =>
        .refused (by decide)
      obtain ⟨running, ended⟩ := Option.ite_none_left_eq_some.mp moved
      cases ended
      exact .cancelled running
  | register t =>
      have bound : floor.register i t =
          (floor.modifySlice i fun _ => (s.bind t).1, (s.bind t).2) := by
        rw [Floor.register, here]
      rw [Floor.call, bound]
      refine ⟨_, .of_quiet (s.takes_bind t _) ?_ (by simp [Slice.Call.Enqueues]) rfl fun _ => rfl⟩
      rw [Floor.slices_modifySlice_of here, if_pos rfl]
  | letGo t =>
      refine ⟨s, .of_quiet (.letGo t) here (by simp [Slice.Call.Enqueues]) rfl fun u => ?_⟩
      rw [Floor.call, Floor.trackers_modifyTracker]
      split
      · exact Option.map_map ..
      · rfl

/-! ## Sequences of calls -/

/-- How often a slice was handed to its queue. -/
def Slice.handed (log : List Slice.Exchange) : Nat :=
  log.countP fun e => e.call.Enqueues e.answer

theorem Slice.Exchange.moved_iff :
    Slice.Exchange.Moved ⟨call, answer, some s, some s'⟩ ↔ s'.state ≠ s.state :=
  not_congr Option.some_inj

theorem Slice.lastMove?_cons (e : Slice.Exchange) (log : List Slice.Exchange) :
    Slice.lastMove? (e :: log) = (Slice.lastMove? log).or (if e.Moved then some e else none) := by
  unfold Slice.lastMove?
  by_cases moved : e.Moved
  · rw [List.filter_cons_of_pos (by simpa using moved), List.getLast?_cons, if_pos moved]
    cases (log.filter fun e => e.Moved).getLast? <;> rfl
  · rw [List.filter_cons_of_neg (by simpa using moved), if_neg moved, Option.or_none]

theorem Slice.handed_cons (e : Slice.Exchange) (log : List Slice.Exchange) :
    Slice.handed (e :: log) =
      Slice.handed log + if e.call.Enqueues e.answer then 1 else 0 := by
  simp only [Slice.handed, List.countP_cons, decide_eq_true_eq]

/-- What comes of a sequence of calls on slice `i`, which is `s` before them and `s'` after. -/
structure Floor.Lived (i : SliceRef) (s s' : Slice) (log : List Slice.Exchange)
    (floor last : Floor) : Prop where
  slice : last.slices[i]? = some s'
  sound : s'.Sound
  lawful : ∀ e ∈ log, ∃ before after, e.Lawful before after
  begins : ∀ e ∈ log.head?, e.before = some s
  chained : log.IsChain fun e later => later.before = e.after
  failure : s'.failure = ((Slice.lastMove? log).map fun e => e.call.cause?).getD s.failure
  queue : ∀ q, floor.queueOf? i = some q → last.queueOf? i = some q
  posted : 0 < Slice.handed log → ∃ q, last.queueOf? i = some q
  queues : ∀ q : QueueRef, last.queues[q]? = (floor.queues[q]?).map fun queue => queue.pushAll
    (List.replicate (if last.queueOf? i = some q then Slice.handed log else 0) i)

theorem Floor.Lived.refl (here : floor.slices[i]? = some s) (sound : s.Sound) :
    Floor.Lived i s s [] floor floor where
  slice := here
  sound := sound
  lawful := fun e listed => absurd listed List.not_mem_nil
  begins := fun e first => nomatch first
  chained := .nil
  failure := rfl
  queue := fun _ queue => queue
  posted := fun often => absurd often (Nat.lt_irrefl 0)
  queues := fun q => by
    rw [Slice.handed, List.countP_nil, ite_self, List.replicate_zero]
    simp only [Queue.pushAll_nil, Option.map_id']

/-- A slice keeps its queue. -/
theorem Floor.Called.queueOf? (called : Floor.Called i s s' call answer floor next)
    (here : floor.slices[i]? = some s) (queue : floor.queueOf? i = some q) :
    next.queueOf? i = some q := by
  obtain ⟨s₁, t, k, here₁, owner, found, rfl⟩ := Floor.queueOf?_eq_some.mp queue
  cases here.symm.trans here₁
  have kept := called.trackers t
  rw [found, Option.map_some, Option.map_eq_some_iff] at kept
  obtain ⟨k', found', same⟩ := kept
  exact Floor.queueOf?_eq_some.mpr
    ⟨s', t, k', called.slice, called.takes.owner owner, found', same⟩

/-- One call more at the front. -/
theorem Floor.Called.cons {s₁ : Slice} (called : Floor.Called i s s₁ call answer floor next)
    (here : floor.slices[i]? = some s) (sound : s.Sound)
    (lived : Floor.Lived i s₁ s' log next last) :
    Floor.Lived i s s' (⟨call, answer, some s, some s₁⟩ :: log) floor last where
  slice := lived.slice
  sound := lived.sound
  lawful := by
    intro e listed
    rcases List.mem_cons.mp listed with rfl | later
    · exact ⟨s, s₁, called.takes.lawful sound⟩
    · exact lived.lawful e later
  begins := fun e first => Option.some.inj first ▸ rfl
  chained := List.isChain_cons.mpr ⟨lived.begins, lived.chained⟩
  failure := by
    rw [lived.failure, called.takes.cause sound, Slice.lastMove?_cons]
    cases Slice.lastMove? log with
    | some e => rfl
    | none =>
        rw [Option.none_or, Option.map_none, Option.getD_none]
        by_cases stays : s₁.state = s.state
        · rw [if_pos stays, if_neg fun moved => Slice.Exchange.moved_iff.mp moved stays]
          rfl
        · rw [if_neg stays, if_pos (Slice.Exchange.moved_iff.mpr stays)]
          rfl
  queue := fun q queue => lived.queue q (called.queueOf? here queue)
  posted := by
    rw [Slice.handed_cons]
    intro often
    rcases Nat.eq_zero_or_pos (Slice.handed log) with never | later
    · have enqueues : call.Enqueues answer := by
        by_contra quiet
        rw [never, if_neg quiet] at often
        exact absurd often (Nat.lt_irrefl 0)
      obtain ⟨q, queue⟩ := called.posted enqueues
      exact ⟨q, lived.queue q (called.queueOf? here queue)⟩
    · exact lived.posted later
  queues := by
    intro q
    rw [lived.queues, called.queues, Option.map_map]
    congr 1
    funext queue
    rw [Function.comp, Queue.pushAll_pushAll, Slice.handed_cons]
    congr 1
    by_cases enqueues : call.Enqueues answer
    · obtain ⟨own, queue⟩ := called.posted enqueues
      rw [queue, lived.queue own (called.queueOf? here queue), if_pos enqueues]
      by_cases same : some own = some q
      · rw [if_pos ⟨enqueues, same⟩, if_pos same, if_pos same, List.replicate_succ]
        rfl
      · rw [if_neg fun both => same both.2, if_neg same, if_neg same]
        rfl
    · rw [if_neg fun both => enqueues both.1, if_neg enqueues]
      rfl

/-- Any calls on a slice that is sound come to something. -/
theorem Floor.lived (here : floor.slices[i]? = some s) (sound : s.Sound)
    (calls : List Slice.Call) :
    ∃ s', Floor.Lived i s s' (floor.callAll i calls).2 floor (floor.callAll i calls).1 := by
  induction calls generalizing floor s with
  | nil => exact ⟨s, .refl here sound⟩
  | cons call rest ih =>
      obtain ⟨s₁, called⟩ := Floor.called here call
      obtain ⟨s', lived⟩ := ih called.slice (called.takes.sound sound)
      have all := called.cons here sound lived
      rw [← here, ← called.slice] at all
      exact ⟨s', all⟩

theorem Floor.callAll_calls (calls : List Slice.Call) :
    (floor.callAll i calls).2.map Slice.Exchange.call = calls := by
  induction calls generalizing floor with
  | nil => rfl
  | cons call rest ih => exact congrArg (call :: ·) ih

/-- For every slice as it is built, bound to a tracker or not, and all calls on it: no call does
what the state does not allow, and every answer is true; the slice has a failure just when it is
FAILED, which is the one of the call that moved it last, and its token is cancelled just when it is
CANCELLED; and it was put into its queue once for every submission and every retry that was
answered with yes. -/
theorem Floor.calls_are_lawful {piece : Piece} {owner : Option TrackerRef}
    (here : floor.slices[i]? = some { Slice.ofPiece piece with owner := owner })
    (calls : List Slice.Call) :
    ∃ last log s, floor.callAll i calls = (last, log) ∧ log.map Slice.Exchange.call = calls ∧
      last.slices[i]? = some s ∧ s.Sound ∧
      (∀ e ∈ log, ∃ before after, e.Lawful before after) ∧
      (log.IsChain fun e later => later.before = e.after) ∧
      s.failure = (Slice.lastMove? log).bind (fun e => e.call.cause?) ∧
      (0 < Slice.handed log → ∃ q, last.queueOf? i = some q) ∧
      ∀ q : QueueRef, last.queues[q]? = (floor.queues[q]?).map fun queue => queue.pushAll
        (List.replicate (if last.queueOf? i = some q then Slice.handed log else 0) i) := by
  obtain ⟨s, lived⟩ := Floor.lived here ⟨by simp [Slice.ofPiece], by simp [Slice.ofPiece]⟩ calls
  refine ⟨_, _, s, rfl, Floor.callAll_calls calls, lived.slice, lived.sound, lived.lawful,
    lived.chained, ?_, lived.posted, lived.queues⟩
  rw [lived.failure]
  cases Slice.lastMove? (floor.callAll i calls).2 <;> rfl

/-- One new slice, and a tracker for it with its queue. -/
def Floor.unbound : Floor where
  slices := #[.ofPiece ⟨"", .ofNat 1, 0, "k", "t", "b", "x", 0, ⟨"/s"⟩, []⟩]
  trackers := #[⟨⟨0, ⟨.ofNat 1, "k", "t", none, .created, ⟨0⟩⟩⟩, [], none, 0, true⟩]
  queues := #[⟨[], 0, false⟩]
  minted := 1

/-- A slice that is submitted too early, registered, submitted, tried again too early and then after
a failure that allows it, completed, and cancelled too late. -/
def Slice.busyCalls : List Slice.Call :=
  [.submit, .register 0, .submit, .retry, .fail (.retriable "late"), .retry, .complete, .cancel]

/-- That slice was put into its queue twice. -/
theorem Floor.unbound_called :
    ∃ last log s, Floor.unbound.callAll 0 Slice.busyCalls = (last, log) ∧
      last.slices[0]? = some s ∧ s.Sound ∧
      log.map (fun e => (e.answer, e.after.map Slice.state)) =
        [(false, some .created), (true, some .created), (true, some .pending),
          (false, some .pending), (true, some .failed), (true, some .pending),
          (true, some .completed), (false, some .completed)] ∧
      Slice.handed log = 2 ∧ last.queues[0]? = some ⟨[0, 0], 2, false⟩ := by
  have fresh : Floor.unbound.slices[0]? =
      some { Slice.ofPiece ⟨"", .ofNat 1, 0, "k", "t", "b", "x", 0, ⟨"/s"⟩, []⟩ with owner := none } :=
    rfl
  obtain ⟨last, log, s, done, -, here, sound, -⟩ :=
    Floor.calls_are_lawful fresh Slice.busyCalls
  refine ⟨last, log, s, done, here, sound, ?_⟩
  have logged : log = (Floor.unbound.callAll 0 Slice.busyCalls).2 := by rw [done]
  have left : last = (Floor.unbound.callAll 0 Slice.busyCalls).1 := by rw [done]
  rw [logged, left]
  decide

end Restage
