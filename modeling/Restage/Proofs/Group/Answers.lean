import Restage.Proofs.Group.Placement
import Restage.Proofs.Manager.Pages

/-!
# Submissions are answered truthfully

A `Ledger` has a page for every manager; what was bound to a tracker is common to all. It is kept
from what is told of each act (`Group.book`), beginning with nothing. `Group.Sound.ledger_act` says
that the ledger that is kept is the one that can be read off the group.

`Group.Answered` lists what each verdict of the ledger promises, and
`Group.answers_are_truthful` that every submission after every run keeps that promise. That no
account of a job has a slice that is CREATED or CANCELLED while a submission can still reach it is
part of it, since nothing is promised for one.
-/

namespace Restage

open Manager

@[ext] structure Ledger where
  accounts : UInt32 → TimeId → Option Account
  bound : SliceRef → Bool

namespace Ledger

/-- The ledger before anything has happened. -/
def empty : Ledger := ⟨fun _ _ => none, fun _ => false⟩

def page (ledger : Ledger) (id : UInt32) : Page := ⟨ledger.accounts id, ledger.bound⟩

/-- Records what is told of the manager of an instance. -/
def record (ledger : Ledger) (id : UInt32) (event : Page.Event) : Ledger where
  accounts := fun other =>
    if other = id then ((ledger.page id).record event).accounts else ledger.accounts other
  bound := ((ledger.page id).record event).bound

end Ledger

/-- The ledger after one more act. -/
def Group.book (group : Group) (ledger : Ledger) : Group.Act → Ledger
  | .on id act =>
      match group.manager? id with
      | some m => ledger.record id (Site.event (group.floor, m) act)
      | none => ledger
  | _ => ledger

/-- A run with its ledger, when each of its acts is possible. -/
def Group.booked? (group : Group) (ledger : Ledger) : List Group.Act → Option (Group × Ledger)
  | [] => some (group, ledger)
  | act :: rest => (group.act? act).bind fun next => next.booked? (group.book ledger act) rest

/-- The accounts of the manager of an instance. -/
def Group.accounts (group : Group) (id : UInt32) : TimeId → Option Account :=
  match group.manager? id with
  | some m => (Site.page (group.floor, m)).accounts
  | none => fun _ => none

/-- The ledger that can be read off a group. -/
def Group.ledger (group : Group) : Ledger := ⟨group.accounts, group.floor.isBound⟩

variable {group group' : Group} {ledger : Ledger} {floor next : Floor} {m m' : Manager}
  {t : TrackerRef} {k : Tracker} {i : SliceRef} {s : Slice} {id : UInt32}

/-! ## Keeping the ledger -/

theorem Group.accounts_of_managed (managed : group.manager? id = some m) :
    group.accounts id = (Site.page (group.floor, m)).accounts := by
  rw [Group.accounts, managed]

theorem Group.accounts_of_unmanaged (absent : group.manager? id = none) :
    group.accounts id = fun _ => none := by
  rw [Group.accounts, absent]

theorem Group.ledger_page (managed : group.manager? id = some m) :
    group.ledger.page id = Site.page (group.floor, m) := by
  simp only [Ledger.page, Group.ledger]
  rw [Group.accounts_of_managed managed]
  rfl

/-- What another manager does leaves the accounts of a manager alone. -/
theorem Floor.Within.accounts {q : QueueRef} (within : Floor.Within q floor next)
    (sound : Site.Sound (floor, m)) (other : m.queue ≠ q) :
    (Site.page (next, m)).accounts = (Site.page (floor, m)).accounts := by
  funext job
  simp only [Site.page]
  cases tracked : m.tracker? job with
  | none => rfl
  | some t =>
      obtain ⟨k, found, -, queue, -⟩ := sound.tracks.of_tracked tracked
      have away : k.queue ≠ q := by rwa [queue]
      have found' := (within.trackers t k away).mpr found
      exact sound.floor.account?_congr found found' rfl rfl fun j s here owner => by
        rw [Floor.stateOf?, (within.slices t k j s found away owner).mpr here, Option.map_some]

/-- Building a slice does not show in the ledger. -/
theorem Group.Sound.ledger_build (sound : group.Sound) (piece : Piece) :
    ({ group with floor := (group.floor.addSlice (.ofPiece piece)).1 } : Group).ledger =
      group.ledger := by
  have accounts : (group.floor.addSlice (.ofPiece piece)).1.account? = group.floor.account? := by
    funext t
    cases found : group.floor.trackers[t]? with
    | none => rw [Floor.account?, Floor.account?, Floor.trackers_addSlice, found, Option.map_none,
        Option.map_none]
    | some k =>
        refine sound.floor.account?_congr found found rfl rfl fun j s here _ => ?_
        rw [Floor.stateOf?, Floor.slices_addSlice, if_neg (Floor.slice_ne_size here), here,
          Option.map_some]
  have bound : (group.floor.addSlice (.ofPiece piece)).1.isBound = group.floor.isBound := by
    funext j
    rw [Floor.isBound, Floor.isBound, Floor.slices_addSlice]
    split
    · next new =>
        rw [new, Array.getElem?_size]
        rfl
    · rfl
  refine Ledger.ext (funext fun id => ?_) bound
  simp only [Group.ledger, Group.accounts, Group.manager?, Site.page, accounts]

/-- What is read off a group after an act is what was read before, with the act recorded. -/
theorem Group.Sound.ledger_act (sound : group.Sound) {act : Group.Act}
    (done : group.act? act = some group') : group'.ledger = group.book group.ledger act := by
  cases act with
  | build piece =>
      cases done
      exact sound.ledger_build piece
  | describe job =>
      cases done
      rfl
  | on id act =>
      obtain ⟨m, next, m', managed, acted, rfl⟩ := Group.act?_on done
      obtain ⟨member, rfl⟩ := Group.mem_of_manager? managed
      have site := sound.manager member
      have moves := site.act acted
      have sound' := sound.moves member moves
      have home := (Moves.same moves).1
      have page := site.page_act acted
      have before := Group.ledger_page managed
      simp only [Group.book, managed]
      refine Ledger.ext (funext fun other => ?_) ?_
      · simp only [Group.ledger, Ledger.record]
        have after : (group.put next m').manager? other =
            if other = m.home.id then some m' else group.manager? other :=
          sound.manager?_put member home sound'
        by_cases same : other = m.home.id
        · rw [if_pos same] at after ⊢
          rw [Group.accounts_of_managed after, ← Group.ledger, before, ← page]
          rfl
        · rw [if_neg same] at after ⊢
          cases known : group.manager? other with
          | none =>
              rw [Group.accounts_of_unmanaged known,
                Group.accounts_of_unmanaged (after.trans known)]
          | some neighbour =>
              obtain ⟨inside, at_home⟩ := Group.mem_of_manager? known
              have away : neighbour.queue ≠ m.queue := by
                intro shared
                rw [sound.eq_of_queue inside member shared] at at_home
                exact same at_home.symm
              rw [Group.accounts_of_managed known, Group.accounts_of_managed (after.trans known)]
              exact (Moves.within moves site).accounts (sound.manager inside) away
      · rw [Ledger.record, before, ← page]
        rfl

theorem Group.Untouched.ledger_eq {recency : Span} {limit : Nat}
    (untouched : group.Untouched recency limit) : group.ledger = .empty := by
  refine Ledger.ext (funext fun id => ?_) (funext fun i => ?_)
  · cases managed : group.manager? id with
    | none => exact Group.accounts_of_unmanaged managed
    | some m =>
        obtain ⟨member, -⟩ := Group.mem_of_manager? managed
        have jobs : m.jobs = [] := by rw [(untouched.manager member).1]; rfl
        have none_tracked : ∀ job, m.tracker? job = none := fun job => by
          rw [Manager.tracker?, jobs]
          rfl
        refine (Group.accounts_of_managed managed).trans (funext fun job => ?_)
        rw [Site.page]
        simp only [none_tracked, Option.bind_none]
        rfl
  · simp only [Group.ledger, Ledger.empty, Floor.isBound, untouched.slices]
    rfl

theorem Group.Sound.ledger_booked {acts : List Group.Act} (sound : group.Sound)
    (kept : ledger = group.ledger) {last : Group} {final : Ledger}
    (run : group.booked? ledger acts = some (last, final)) :
    group.Reach last ∧ final = last.ledger := by
  induction acts generalizing group ledger with
  | nil =>
      cases run
      exact ⟨.refl, kept⟩
  | cons act rest ih =>
      obtain ⟨next, done, others⟩ := Option.bind_eq_some_iff.mp run
      have step : group.Step next := ⟨act, done⟩
      have kept' : group.book ledger act = next.ledger := by
        rw [kept, sound.ledger_act done]
      obtain ⟨reach, same⟩ := ih (sound.step step) kept' others
      exact ⟨.head step reach, same⟩

/-! ## Answers -/

/-- What a verdict promises of a submission of slice `i`, which is `s`, to manager `m`: the group
after it and the answer. -/
def Group.Answered (group : Group) (m : Manager) (i : SliceRef) (s : Slice) (job : TimeId)
    (group' : Group) (answer : Except JobFault Standing) : Verdict → Prop
  | .foreign => answer = .error (foreignSlice s.key job) ∧ group' = group
  | .failed f => answer = .error (.fatal f) ∧ group' = group
  | .completed => answer = .ok .completed ∧ group' = group
  | .known j state =>
      answer = .ok .pending ∧ group'.floor.stateOf? j = some .pending ∧
        group'.placed.count j = 1 ∧
        (state = .pending ∧ group' = group ∨
          state = .failed ∧
            group'.floor.waiting m.queue = group.floor.waiting m.queue ++ [j])
  | .elsewhere =>
      answer = .error (Floor.boundElsewhere s.key) ∧ group'.floor.slices = group.floor.slices ∧
        group'.floor.queues = group.floor.queues ∧
        ∀ t, group'.floor.membersOf t = group.floor.membersOf t
  | .created =>
      answer = .ok .created ∧ group'.floor.stateOf? i = some .pending ∧
        group'.placed.count i = 1 ∧
        group'.floor.waiting m.queue = group.floor.waiting m.queue ++ [i]

/-- A slice that is posted to a manager that was not told to stop has exactly one place. -/
theorem Group.Sound.count_placed (sound : group.Sound) (member : m ∈ group.managers)
    (going : m.stopping = false) (post : group.floor.post? i = some (m.queue, .pending)) :
    group.placed.count i = 1 := by
  have inside := (sound.manager member).places.kept going post
  exact List.count_eq_one_of_mem sound.placed_nodup (List.mem_flatMap.mpr ⟨m, member, inside⟩)

/-- A queue that is in use takes a slice at its end. -/
theorem Manager.Places.waiting_push (places : m.Places floor) (going : m.stopping = false)
    (queues : next.queues[m.queue]? = (floor.queues[m.queue]?).map fun found => found.push i) :
    next.waiting m.queue = floor.waiting m.queue ++ [i] := by
  obtain ⟨found, here, closed⟩ := places.usable
  rw [here, Option.map_some] at queues
  have in_use : ¬ found.closed = true := by
    intro shut
    rw [closed shut] at going
    cases going
  rw [Floor.waiting_of here, Floor.waiting_of queues, Queue.push, if_neg in_use]

theorem Group.Sound.answered_reopened (sound : group.Sound) (member : m ∈ group.managers)
    (going : m.stopping = false) (found : group.floor.trackers[t]? = some k)
    (held : k.held = true) (queue : k.queue = m.queue) (fine : k.fatal = none)
    (here : group.floor.slices[i]? = some s) (owner : s.owner = some t)
    (failed : s.state = .failed) :
    (group.put (group.floor.reopened k i s) m).floor.stateOf? i = some .pending ∧
      (group.put (group.floor.reopened k i s) m).placed.count i = 1 ∧
      (group.floor.reopened k i s).waiting m.queue = group.floor.waiting m.queue ++ [i] := by
  have after := sound.move member (.reopen found queue held fine here owner failed)
  have inside : m ∈ (group.put (group.floor.reopened k i s) m).managers :=
    (sound.mem_put member rfl).mpr (Or.inl rfl)
  refine ⟨?_, after.count_placed inside going ?_, ?_⟩
  · rw [Floor.stateOf?]
    exact congrArg (Option.map Slice.state) ((Floor.slices_reopened here).trans (if_pos rfl))
  · rw [← queue]
    exact (Floor.post?_reopened found here owner).trans (if_pos rfl)
  · refine (sound.manager member).places.waiting_push going ?_
    rw [Floor.reopened, Floor.queues_enqueue, if_pos queue, Floor.queues_modifySlice]

theorem Group.Sound.answered_admitted (sound : group.Sound) (member : m ∈ group.managers)
    (going : m.stopping = false) (found : group.floor.trackers[t]? = some k)
    (held : k.held = true) (queue : k.queue = m.queue) (fine : k.fatal = none)
    (here : group.floor.slices[i]? = some s) (free : s.owner = none)
    (of : s.piece.job = k.descriptor.job.id) (new : k.members.lookup s.slot = none) :
    (group.put (group.floor.admitted t k i s) m).floor.stateOf? i = some .pending ∧
      (group.put (group.floor.admitted t k i s) m).placed.count i = 1 ∧
      (group.floor.admitted t k i s).waiting m.queue = group.floor.waiting m.queue ++ [i] := by
  have after := sound.move member (.accept found queue held fine here free of new)
  have inside : m ∈ (group.put (group.floor.admitted t k i s) m).managers :=
    (sound.mem_put member rfl).mpr (Or.inl rfl)
  refine ⟨?_, after.count_placed inside going ?_, ?_⟩
  · rw [Floor.stateOf?]
    exact congrArg (Option.map Slice.state) ((Floor.slices_admitted here).trans (if_pos rfl))
  · rw [← queue]
    exact (Floor.post?_admitted found here).trans (if_pos rfl)
  · refine (sound.manager member).places.waiting_push going ?_
    rw [Floor.admitted, Floor.queues_enqueue, if_pos queue, Floor.queues_addMember,
      Floor.queues_modifySlice]

/-- A submission to a tracker keeps what the verdict on it promises. -/
theorem Group.Sound.answered {answer : Except JobFault Standing} (sound : group.Sound)
    (job : TimeId) (member : m ∈ group.managers) (going : m.stopping = false)
    (found : group.floor.trackers[t]? = some k) (held : k.held = true) (queue : k.queue = m.queue)
    (here : group.floor.slices[i]? = some s) (of : s.piece.job = k.descriptor.job.id)
    (enrolled : Floor.Enrolled group.floor t k i s next answer) :
    Group.Answered group m i s job (group.put next m) answer
      ((group.floor.accountOf k).verdict s.slot (group.floor.isBound i)) := by
  have same := sound.put_self member
  cases enrolled with
  | barred fatal =>
      rw [Floor.verdict_barred fatal]
      exact ⟨rfl, same⟩
  | finished fine known there state =>
      rw [Floor.verdict_finished fine known there state]
      exact ⟨rfl, same⟩
  | @underway j s' fine known there state =>
      obtain ⟨owner, -⟩ := sound.floor.owner_of_member found (Table.mem_of_lookup known) there
      have post := Floor.post?_of there owner found
      rw [queue, state] at post
      rw [Floor.verdict_known _ fine known there (by rw [state]; exact SliceState.noConfusion),
        state]
      refine ⟨rfl, ?_, ?_, Or.inl ⟨rfl, same⟩⟩
      · rw [same, Floor.stateOf?, there, Option.map_some, state]
      · rw [same]
        exact sound.count_placed member going post
  | @again j s' fine known there state =>
      obtain ⟨owner, -⟩ := sound.floor.owner_of_member found (Table.mem_of_lookup known) there
      obtain ⟨pending, once, waiting⟩ :=
        sound.answered_reopened member going found held queue fine there owner state
      rw [Floor.verdict_known _ fine known there (by rw [state]; exact SliceState.noConfusion),
        state]
      exact ⟨rfl, pending, once, Or.inr ⟨rfl, waiting⟩⟩
  | elsewhere fine new owner other =>
      rw [Floor.verdict_elsewhere fine new here owner, same]
      exact ⟨rfl, rfl, rfl, fun _ => rfl⟩
  | admitted fine new free =>
      obtain ⟨pending, once, waiting⟩ :=
        sound.answered_admitted member going found held queue fine here free of new
      rw [Floor.verdict_created fine new here free]
      exact ⟨rfl, pending, once, waiting⟩

theorem Floor.membersOf_addTracker {descriptor : Descriptor} {q : QueueRef} :
    (floor.addTracker (.fresh descriptor q)).1.membersOf t = floor.membersOf t := by
  rw [Floor.membersOf, Floor.membersOf, Floor.trackers_addTracker]
  by_cases same : t = floor.trackers.size
  · subst same
    rw [if_pos rfl, Array.getElem?_size]
    rfl
  · rw [if_neg same]

/-- The first submission of a job makes a tracker, which has no members and answers for none. -/
theorem Group.Sound.answered_first {descriptor : Descriptor} {job : TimeId}
    {answer : Except JobFault Standing} (sound : group.Sound) (member : m ∈ group.managers)
    (going : m.stopping = false) (new : m.tracker? descriptor.job.id = none)
    (here : group.floor.slices[i]? = some s) (of : s.piece.job = descriptor.job.id)
    (enrolled : Floor.Enrolled (group.floor.addTracker (.fresh descriptor m.queue)).1
      group.floor.trackers.size (.fresh descriptor m.queue) i s next answer) :
    Group.Answered group m i s job
      (group.put next (m.tracking descriptor.job.id group.floor.trackers.size)) answer
      (Account.empty.verdict s.slot (group.floor.isBound i)) := by
  have move : Move (group.floor, m) _ := .track new
  have opened := sound.move member move
  have inside : m.tracking descriptor.job.id group.floor.trackers.size ∈
      (group.put (group.floor.addTracker (.fresh descriptor m.queue)).1
        (m.tracking descriptor.job.id group.floor.trackers.size)).managers :=
    (sound.mem_put member move.same.1).mpr (Or.inl rfl)
  have found : (group.floor.addTracker (.fresh descriptor m.queue)).1.trackers[
      group.floor.trackers.size]? = some (.fresh descriptor m.queue) := by
    rw [Floor.trackers_addTracker, if_pos rfl]
  have after := opened.answered job inside going found rfl rfl here of enrolled
  rw [Group.put_put rfl] at after
  -- the account of the new tracker is empty, and nothing else was bound meanwhile
  change Group.Answered _ _ _ _ _ _ _
    (Account.empty.verdict s.slot (group.floor.isBound i)) at after
  cases free : group.floor.isBound i with
  | true =>
      have elsewhere : Account.empty.verdict s.slot true = .elsewhere := rfl
      rw [free, elsewhere] at after
      rw [elsewhere]
      obtain ⟨told, slices, queues, members⟩ := after
      exact ⟨told, slices, queues, fun t => (members t).trans Floor.membersOf_addTracker⟩
  | false =>
      have created : Account.empty.verdict s.slot false = .created := rfl
      rw [free, created] at after
      rw [created]
      exact after

/-- Every submission after a run keeps what the ledger of the run promises. -/
theorem Group.answers_are_truthful {recency : Span} {limit : Nat} {homes : List Instance}
    {acts : List Group.Act}
    (run : (Group.ofInstances recency limit homes).booked? .empty acts = some (group, ledger))
    (managed : group.manager? id = some m) (going : m.stopping = false)
    (here : group.floor.slices[i]? = some s) (descriptor : Descriptor) :
    Group.Answered group m i s descriptor.job.id (group.submit id i descriptor).1
      (group.submit id i descriptor).2
      ((ledger.page id).verdict i s.piece descriptor.job.id) := by
  have untouched := Group.untouched_ofInstances recency limit homes
  obtain ⟨reach, kept⟩ := untouched.sound.ledger_booked untouched.ledger_eq.symm run
  have sound := untouched.sound.reach reach
  obtain ⟨member, rfl⟩ := Group.mem_of_manager? managed
  have site := sound.manager member
  rw [kept, Group.ledger_page managed, Group.submit, managed]
  simp only
  have submitted := site.submitted i descriptor
  generalize m.submit group.floor i descriptor = result at submitted ⊢
  cases submitted with
  | absent absent =>
      rw [here] at absent
      cases absent
  | foreign there foreign =>
      rw [here] at there
      cases there
      rw [Page.verdict, if_neg foreign]
      exact ⟨rfl, sound.put_self member⟩
  | @tracked next t k s' answer there of tracked found held queue label enrolled =>
      rw [here] at there
      cases there
      have account : (Site.page (group.floor, m)).account descriptor.job.id =
          group.floor.accountOf k := by
        rw [Page.account, Site.page_tracked tracked found, Option.getD_some]
      rw [Page.verdict, if_pos of, account]
      exact sound.answered _ member going found held queue here (of.trans label.symm) enrolled
  | first there of new found enrolled =>
      rw [here] at there
      cases there
      have account : (Site.page (group.floor, m)).account descriptor.job.id = .empty := by
        simp only [Page.account, Site.page, new, Option.bind_none, Option.getD_none]
      rw [Page.verdict, if_pos of, account]
      exact sound.answered_first member going new here of enrolled

/-- Two slices of one slot were built, and the first has failed and may be tried again. -/
def Group.answersRun : List Group.Act :=
  [.build (.small 0), .build (.small 0), .on 1 .start, .on 1 (.submit 0 .small), .on 1 .take,
    .on 1 .grant, .on 1 .proceed, .on 1 (.land 0 (.answers (.retriable "busy")))]

/-- The small group after that, with its ledger. -/
def Group.answersEnd : Group × Ledger :=
  (Group.small.booked? .empty answersRun).getD (.small, .empty)

theorem Group.answers_are_truthful_small :
    (Group.answersEnd.2.page 1).verdict 1 (.small 0) Descriptor.small.job.id = .known 0 .failed ∧
      (answersEnd.1.submit 1 1 .small).1.floor.stateOf? 0 = some .pending ∧
      (answersEnd.1.submit 1 1 .small).1.placed.count 0 = 1 := by
  have possible : (Group.small.booked? .empty answersRun).isSome = true := by decide
  obtain ⟨last, done⟩ := Option.isSome_iff_exists.mp possible
  have run : Group.small.booked? .empty answersRun = some (answersEnd.1, answersEnd.2) := by
    rw [answersEnd, done, Option.getD_some]
  have manager : (answersEnd.1.manager? 1).map Manager.stopping = some false := by decide
  have built : (answersEnd.1.floor.slices[1]?).map Slice.piece = some (.small 0) := by decide
  obtain ⟨m, managed, going⟩ := Option.map_eq_some_iff.mp manager
  obtain ⟨s, here, piece⟩ := Option.map_eq_some_iff.mp built
  have verdict : (Group.answersEnd.2.page 1).verdict 1 (.small 0) Descriptor.small.job.id =
      .known 0 .failed := by
    decide
  have answered := Group.answers_are_truthful run managed going here .small
  rw [piece, verdict] at answered
  exact ⟨verdict, answered.2.1, answered.2.2.1⟩

end Restage
