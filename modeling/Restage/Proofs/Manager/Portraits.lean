import Restage.Proofs.Manager.Concerns

/-!
# The portrait of a job

A `Portrait` is what a manager shows of a job and of its slices: the value of the descriptor, the
failure that was recorded, and under every slot how far the slice has come. The numbers of slices
and of descriptors depend on the order in which those were made, so a portrait does without them.
Only a slice that is older than `base` shows its number (`Tag`). Two portraits after a common past
of `base` slices therefore mean the same slice, if it is one of that past.

`Portrait.receive` is what becomes of a portrait when a slice that was just built is submitted, with
what comes to the queue and the answer. `Manager.Site.Sound.received` says that a manager does just
that.
-/

namespace Restage

open Manager

/-- What tells a slice from others. A slice that is no older than the base has no number. -/
structure Tag where
  origin : Option SliceRef
  piece : Piece
  deriving DecidableEq

/-- What is shown of a slice. -/
structure Face where
  tag : Tag
  state : SliceState
  failure : Option JobFault

@[ext] structure Portrait where
  job : Job
  fatal : Option FatalFailure
  /-- The slice under a slot. -/
  faces : Slot → Option Face

namespace Portrait

/-- The portrait of a job that nothing was submitted to. -/
def blank (job : Job) : Portrait := ⟨job, none, fun _ => none⟩

/-- The portrait with another face under a slot. -/
def put (portrait : Portrait) (slot : Slot) (face : Face) : Portrait :=
  { portrait with faces := fun other => if other = slot then some face else portrait.faces other }

/-- What a submission comes to. -/
structure Reply where
  shown : Portrait
  /-- What comes to the queue. -/
  queued : List Tag
  answer : Except FatalFailure Standing

/-- What becomes of a new slice under a slot: it is admitted unless there is one already, which is
tried once more if it has failed. -/
def receive (portrait : Portrait) (slot : Slot) (tag : Tag) : Reply :=
  match portrait.fatal with
  | some failure => ⟨portrait, [], .error failure⟩
  | none =>
      match portrait.faces slot with
      | none => ⟨portrait.put slot ⟨tag, .pending, none⟩, [tag], .ok .created⟩
      | some ⟨_, .completed, _⟩ => ⟨portrait, [], .ok .completed⟩
      | some ⟨old, .failed, _⟩ => ⟨portrait.put slot ⟨old, .pending, none⟩, [old], .ok .pending⟩
      | some _ => ⟨portrait, [], .ok .pending⟩

/-- What becomes of a piece that is submitted to a job, tracked or not. -/
def offer (job : Job) (piece : Piece) (seen : Option Portrait) : Reply :=
  (seen.getD (.blank job)).receive piece.slot ⟨none, piece⟩

end Portrait

/-! ## Reading portraits -/

def Slice.tag (base : Nat) (i : SliceRef) (s : Slice) : Tag :=
  ⟨if i < base then some i else none, s.piece⟩

def Slice.face (base : Nat) (i : SliceRef) (s : Slice) : Face := ⟨s.tag base i, s.state, s.failure⟩

namespace Floor

def tag? (base : Nat) (floor : Floor) (i : SliceRef) : Option Tag :=
  (floor.slices[i]?).map (Slice.tag base i)

/-- What a tracker shows under a slot. -/
def face? (base : Nat) (floor : Floor) (k : Tracker) (slot : Slot) : Option Face :=
  (k.members.lookup slot).bind fun i => (floor.slices[i]?).map (Slice.face base i)

def portrait (base : Nat) (floor : Floor) (k : Tracker) : Portrait :=
  ⟨k.descriptor.job, k.fatal, floor.face? base k⟩

end Floor

/-- What a manager shows of a job and its slices, if it tracks it. -/
def Manager.Site.portrait? (base : Nat) (site : Site) (job : TimeId) : Option Portrait :=
  (site.2.tracker? job).bind fun t => (site.1.trackers[t]?).map (site.1.portrait base)

variable {base : Nat} {floor next last : Floor} {m m' : Manager} {t : TrackerRef} {k k' : Tracker}
  {i : SliceRef} {s : Slice} {job : TimeId} {slot : Slot} {q : QueueRef} {tags more : List Tag}

theorem Manager.Site.portrait?_tracked (tracked : m.tracker? job = some t)
    (found : floor.trackers[t]? = some k) :
    Site.portrait? base (floor, m) job = some (floor.portrait base k) := by
  rw [Site.portrait?, tracked, Option.bind_some, found, Option.map_some]

theorem Manager.Site.portrait?_untracked (new : m.tracker? job = none) :
    Site.portrait? base (floor, m) job = none := by
  rw [Site.portrait?, new, Option.bind_none]

/-- A manager tracks exactly the jobs that it shows. -/
theorem Manager.Tracks.portrait?_isSome (tracks : m.Tracks floor) :
    (Site.portrait? base (floor, m) job).isSome = (m.tracker? job).isSome := by
  cases tracked : m.tracker? job with
  | none =>
      rw [Site.portrait?_untracked tracked]
      rfl
  | some t =>
      obtain ⟨k, found, -⟩ := tracks.of_tracked tracked
      rw [Site.portrait?_tracked tracked found]
      rfl

theorem Slice.tag_of_young (young : base ≤ i) (s : Slice) : s.tag base i = ⟨none, s.piece⟩ := by
  rw [Slice.tag, if_neg (Nat.not_lt.mpr young)]

/-- A slice keeps its tag for good. -/
theorem Floor.Ages.tag? (ages : Floor.Ages floor next) {tag : Tag}
    (known : floor.tag? base i = some tag) : next.tag? base i = some tag := by
  obtain ⟨s, here, rfl⟩ := Option.map_eq_some_iff.mp known
  obtain ⟨s', there, older⟩ := ages.slice i s here
  rw [Floor.tag?, there, Option.map_some, Slice.tag, Slice.tag, older.piece]

theorem Floor.face?_of_lookup (member : k.members.lookup slot = some i)
    (here : floor.slices[i]? = some s) : floor.face? base k slot = some (s.face base i) := by
  rw [Floor.face?, member, Option.bind_some, here, Option.map_some]

theorem Floor.face?_of_absent (new : k.members.lookup slot = none) :
    floor.face? base k slot = none := by
  rw [Floor.face?, new, Option.bind_none]

/-- A tracker shows the same where its slices are the same. -/
theorem Floor.Sound.face?_congr (sound : floor.Sound) (found : floor.trackers[t]? = some k)
    (member : k'.members.lookup slot = k.members.lookup slot)
    (slices : ∀ (j : SliceRef) (s : Slice), k.members.lookup slot = some j →
      floor.slices[j]? = some s → s.owner = some t → next.slices[j]? = some s) :
    next.face? base k' slot = floor.face? base k slot := by
  rw [Floor.face?, Floor.face?, member]
  cases known : k.members.lookup slot with
  | none => rfl
  | some j =>
      obtain ⟨s, here, owner, -⟩ := sound.member found (Table.mem_of_lookup known)
      rw [Option.bind_some, Option.bind_some, here, slices j s known here owner]

/-! ## What is not about a job -/

/-- A manager shows the same of a job where its tracker and its slices are the same. -/
theorem Manager.Site.Sound.portrait?_congr (sound : Site.Sound (floor, m))
    (same : m'.tracker? job = m.tracker? job)
    (trackers : ∀ t k, m.tracker? job = some t → floor.trackers[t]? = some k →
      next.trackers[t]? = some k)
    (slices : ∀ (t : TrackerRef) (i : SliceRef) (s : Slice), m.tracker? job = some t →
      floor.slices[i]? = some s → s.owner = some t → next.slices[i]? = some s) :
    Site.portrait? base (next, m') job = Site.portrait? base (floor, m) job := by
  cases tracked : m.tracker? job with
  | none =>
      rw [Site.portrait?_untracked tracked, Site.portrait?_untracked (same.trans tracked)]
  | some t =>
      obtain ⟨k, found, -⟩ := sound.tracks.of_tracked tracked
      rw [Site.portrait?_tracked tracked found,
        Site.portrait?_tracked (same.trans tracked) (trackers t k tracked found)]
      have faces : next.face? base k = floor.face? base k := funext fun slot =>
        sound.floor.face?_congr found rfl fun j s _ here owner => slices t j s tracked here owner
      rw [Floor.portrait, Floor.portrait, faces]

/-- What concerns one job does not show in the portrait of another one. -/
theorem Manager.Site.Sound.portrait?_other {site' : Site} {other : TimeId}
    (sound : Site.Sound (floor, m)) (concerns : Site.Concerns job (floor, m) site')
    (apart : other ≠ job) : site'.portrait? base other = Site.portrait? base (floor, m) other := by
  refine sound.portrait?_congr (concerns.tracked other apart) (fun t k tracked found => ?_)
    fun t i s tracked here owner => ?_
  · obtain ⟨k', found', -, -, label⟩ := sound.tracks.of_tracked tracked
    rw [found] at found'
    cases found'
    exact (concerns.floor.trackers t k (by rwa [label])).mpr found
  · obtain ⟨k, found, -, -, label⟩ := sound.tracks.of_tracked tracked
    obtain ⟨-, of, -⟩ := sound.floor.owned here owner found
    exact (concerns.floor.slices i s (by rwa [of, label])).mpr here

/-! ## Queues -/

/-- Slices with these tags have come to a queue. -/
def Floor.Pushed (base : Nat) (q : QueueRef) (tags : List Tag) (floor next : Floor) : Prop :=
  ∃ new : List SliceRef, new.map (next.tag? base) = tags.map some ∧
    next.queues[q]? = (floor.queues[q]?).map fun queue => queue.pushAll new

theorem Floor.Pushed.nil (same : next.queues[q]? = floor.queues[q]?) :
    Floor.Pushed base q [] floor next := by
  refine ⟨[], rfl, ?_⟩
  simp only [Queue.pushAll_nil, Option.map_id']
  exact same

theorem Floor.Pushed.trans (first : Floor.Pushed base q tags floor next)
    (second : Floor.Pushed base q more next last) (ages : Floor.Ages next last) :
    Floor.Pushed base q (tags ++ more) floor last := by
  obtain ⟨new, known, queue⟩ := first
  obtain ⟨new', known', queue'⟩ := second
  have kept : new.map (last.tag? base) = tags.map some := by
    rw [← known]
    refine List.map_congr_left fun i inside => ?_
    have listed : next.tag? base i ∈ tags.map some := known ▸ List.mem_map_of_mem inside
    obtain ⟨tag, -, is⟩ := List.mem_map.mp listed
    rw [← is]
    exact ages.tag? is.symm
  refine ⟨new ++ new', by rw [List.map_append, List.map_append, kept, known'], ?_⟩
  rw [queue', queue, Option.map_map]
  congr 1
  funext found
  exact found.pushAll_pushAll new new'

/-- A slice comes to the end of a queue. -/
theorem Floor.Pushed.single {tag : Tag} (known : next.tag? base i = some tag)
    (queue : next.queues[q]? = (floor.queues[q]?).map fun found => found.push i) :
    Floor.Pushed base q [tag] floor next :=
  ⟨[i], by rw [List.map_singleton, known, List.map_singleton], queue⟩

/-! ## Submissions -/

namespace Portrait

variable {portrait : Portrait} {tag old : Tag} {state : SliceState} {failure : Option JobFault}

theorem receive_fatal {f : FatalFailure} (fatal : portrait.fatal = some f) :
    portrait.receive slot tag = ⟨portrait, [], .error f⟩ := by
  rw [receive, fatal]

theorem receive_new (fine : portrait.fatal = none) (new : portrait.faces slot = none) :
    portrait.receive slot tag =
      ⟨portrait.put slot ⟨tag, .pending, none⟩, [tag], .ok .created⟩ := by
  rw [receive, fine, new]

theorem receive_completed (fine : portrait.fatal = none)
    (known : portrait.faces slot = some ⟨old, .completed, failure⟩) :
    portrait.receive slot tag = ⟨portrait, [], .ok .completed⟩ := by
  rw [receive, fine, known]

theorem receive_failed (fine : portrait.fatal = none)
    (known : portrait.faces slot = some ⟨old, .failed, failure⟩) :
    portrait.receive slot tag =
      ⟨portrait.put slot ⟨old, .pending, none⟩, [old], .ok .pending⟩ := by
  rw [receive, fine, known]

theorem receive_underway (fine : portrait.fatal = none)
    (known : portrait.faces slot = some ⟨old, state, failure⟩) (running : state ≠ .completed)
    (well : state ≠ .failed) : portrait.receive slot tag = ⟨portrait, [], .ok .pending⟩ := by
  rw [receive, fine, known]
  cases state with
  | completed => exact absurd rfl running
  | failed => exact absurd rfl well
  | created | pending | cancelled => rfl

end Portrait

/-- What the members of a tracker show when one of them is open again. -/
theorem Floor.Sound.face?_reopened (sound : floor.Sound) (found : floor.trackers[t]? = some k)
    (member : k.members.lookup slot = some i) (here : floor.slices[i]? = some s) :
    (floor.reopened k i s).face? base k = fun other =>
      if other = slot then some ⟨s.tag base i, .pending, none⟩ else floor.face? base k other := by
  funext other
  split
  · next same =>
      subst same
      refine Floor.face?_of_lookup member (s := { s with state := .pending, failure := none }) ?_
      rw [Floor.slices_reopened here, if_pos rfl]
  · next apart =>
      refine sound.face?_congr found rfl fun j s' known there _ => ?_
      -- a slice is a member under its own slot alone
      have away : i ≠ j := by
        rintro rfl
        obtain ⟨-, own⟩ := sound.owner_of_member found (Table.mem_of_lookup member) here
        obtain ⟨-, own'⟩ := sound.owner_of_member found (Table.mem_of_lookup known) here
        exact apart (own'.symm.trans own)
      rw [Floor.slices_reopened here, if_neg away]
      exact there

/-- What the members of a tracker show when there is one more. -/
theorem Floor.Sound.face?_admitted (sound : floor.Sound) (found : floor.trackers[t]? = some k)
    (here : floor.slices[i]? = some s) (free : s.owner = none)
    (new : k.members.lookup s.slot = none) :
    (floor.admitted t k i s).face? base { k with members := k.members ++ [(s.slot, i)] } =
      fun other => if other = s.slot then some ⟨s.tag base i, .pending, none⟩
        else floor.face? base k other := by
  have listed : ∀ other, (k.members ++ [(s.slot, i)]).lookup other =
      if other = s.slot then some i else k.members.lookup other := fun other =>
    Table.lookup_concat new
  funext other
  split
  · next same =>
      have unharmed := (sound.slice here).failure_of_created (sound.unbound here free)
      have member : (k.members ++ [(s.slot, i)]).lookup other = some i := by
        rw [listed, if_pos same]
      have shown := @Floor.face?_of_lookup base (floor.admitted t k i s)
        { k with members := k.members ++ [(s.slot, i)] } i
        { s with owner := some t, state := .pending } other member
        (by rw [Floor.slices_admitted here, if_pos rfl])
      rw [shown, ← unharmed]
      rfl
  · next apart =>
      exact sound.face?_congr found ((listed other).trans (if_neg apart)) fun j s' _ there owner =>
        Floor.slices_admitted_of_bound here free there owner

/-- What a tracker makes of a slice that was just built. -/
theorem Floor.Enrolled.received {answer : Except JobFault Standing}
    (enrolled : Floor.Enrolled floor t k i s next answer) (sound : floor.Sound)
    (found : floor.trackers[t]? = some k) (here : floor.slices[i]? = some s) (free : s.owner = none)
    (young : base ≤ i) :
    let reply := (floor.portrait base k).receive s.slot ⟨none, s.piece⟩
    (next.trackers[t]?).map (next.portrait base) = some reply.shown ∧
      answer = reply.answer.mapError .fatal ∧
      Floor.Pushed base k.queue reply.queued floor next ∧
      (reply.queued = [] → next = floor) := by
  have shown : (floor.trackers[t]?).map (floor.portrait base) = some (floor.portrait base k) := by
    rw [found, Option.map_some]
  have drawn : (floor.portrait base k).fatal = k.fatal := rfl
  have still : Floor.Pushed base k.queue [] floor floor := .nil rfl
  -- what a member shows tells its state
  have face : ∀ {known : SliceRef} {s' : Slice}, k.members.lookup s.slot = some known →
      floor.slices[known]? = some s' → (floor.portrait base k).faces s.slot =
        some ⟨s'.tag base known, s'.state, s'.failure⟩ := fun member there =>
    Floor.face?_of_lookup member there
  cases enrolled with
  | barred fatal =>
      rw [Portrait.receive_fatal (drawn.trans fatal)]
      exact ⟨shown, rfl, still, fun _ => rfl⟩
  | finished fine member there state =>
      have known := face member there
      rw [state] at known
      rw [Portrait.receive_completed (drawn.trans fine) known]
      exact ⟨shown, rfl, still, fun _ => rfl⟩
  | underway fine member there state =>
      rw [Portrait.receive_underway (drawn.trans fine) (face member there)
        (by rw [state]; exact SliceState.noConfusion) (by rw [state]; exact SliceState.noConfusion)]
      exact ⟨shown, rfl, still, fun _ => rfl⟩
  | @again known s' fine member there state =>
      have failed := face member there
      rw [state] at failed
      rw [Portrait.receive_failed (drawn.trans fine) failed]
      obtain ⟨owner, -⟩ := sound.owner_of_member found (Table.mem_of_lookup member) there
      refine ⟨?_, rfl, ?_, fun none => absurd none (List.cons_ne_nil _ _)⟩
      · rw [(Floor.Reworks.reopened found there owner).after, Option.map_some, Floor.portrait,
          sound.face?_reopened found member there]
        rfl
      · refine .single (i := known) ?_ ?_
        · rw [Floor.tag?, Floor.slices_reopened there, if_pos rfl]
          rfl
        · rw [Floor.reopened, Floor.queues_enqueue, if_pos rfl]
          rfl
  | elsewhere fine new owner other =>
      rw [free] at owner
      cases owner
  | admitted fine new free =>
      rw [Portrait.receive_new (drawn.trans fine) (Floor.face?_of_absent new)]
      refine ⟨?_, rfl, ?_, fun none => absurd none (List.cons_ne_nil _ _)⟩
      · rw [Floor.trackers_admitted found, if_pos rfl, Option.map_some, Floor.portrait,
          sound.face?_admitted found here free new, s.tag_of_young young]
        rfl
      · refine .single (i := i) ?_ ?_
        · rw [Floor.tag?, Floor.slices_admitted here, if_pos rfl, ← s.tag_of_young young]
          rfl
        · rw [Floor.admitted, Floor.queues_enqueue, if_pos rfl]
          rfl

/-- What a manager that showed `seen` of a job has made of a piece that was offered. -/
structure Manager.Site.Received (base : Nat) (job : Job) (piece : Piece) (site site' : Site)
    (answer : Except JobFault Standing) : Prop where
  shown : site'.portrait? base job.id =
    some (Portrait.offer job piece (site.portrait? base job.id)).shown
  answer : answer = (Portrait.offer job piece (site.portrait? base job.id)).answer.mapError .fatal
  pushed : Floor.Pushed base site.2.queue
    (Portrait.offer job piece (site.portrait? base job.id)).queued site.1 site'.1
  idle : (Portrait.offer job piece (site.portrait? base job.id)).queued = [] → site' = site

/-- What a manager makes of a slice that was just built for a job. -/
theorem Manager.Site.Sound.received {descriptor : Descriptor} (sound : Site.Sound (floor, m))
    (here : floor.slices[i]? = some s) (free : s.owner = none)
    (of : s.piece.job = descriptor.job.id) (young : base ≤ i) :
    Site.Received base descriptor.job s.piece (floor, m)
      ((m.submit floor i descriptor).1, (m.submit floor i descriptor).2.1)
      (m.submit floor i descriptor).2.2 := by
  have submitted := sound.submitted i descriptor
  generalize m.submit floor i descriptor = result at submitted
  cases submitted with
  | absent absent =>
      rw [here] at absent
      cases absent
  | foreign there foreign =>
      rw [here] at there
      cases there
      exact absurd of foreign
  | tracked there of tracked found held queue label enrolled =>
      rw [here] at there
      cases there
      obtain ⟨shown, answer, pushed, idle⟩ := enrolled.received sound.floor found here free young
      have before := @Site.portrait?_tracked base _ _ _ _ _ tracked found
      rw [queue] at pushed
      constructor
      · rw [before, Site.portrait?, tracked, Option.bind_some]
        exact shown
      · rw [before]
        exact answer
      · rw [before]
        exact pushed
      · rw [before]
        exact fun none => by rw [idle none]
  | first there of new found enrolled =>
      rw [here] at there
      cases there
      have clean := sound.floor.addTracker descriptor m.queue
      obtain ⟨shown, answer, pushed, idle⟩ := enrolled.received clean found here free young
      have before := @Site.portrait?_untracked base floor _ _ new
      have tracked : (m.tracking descriptor.job.id floor.trackers.size).tracker?
          descriptor.job.id = some floor.trackers.size := by
        rw [Manager.tracker?_tracking new, if_pos rfl]
      constructor
      · rw [before, Site.portrait?, tracked, Option.bind_some]
        exact shown
      · rw [before]
        exact answer
      · rw [before]
        exact pushed
      · rw [before]
        exact nofun

/-! ## New descriptors and removals -/

/-- What is shown of a job with another descriptor. -/
def Portrait.described (job : Job) (seen : Option Portrait) : Option Portrait :=
  seen.map fun portrait => { portrait with job := job }

theorem Manager.Site.Sound.portrait?_updateJob (sound : Site.Sound (floor, m))
    (descriptor : Descriptor) :
    Site.portrait? base (m.updateJob floor descriptor, m) descriptor.job.id =
      Portrait.described descriptor.job (Site.portrait? base (floor, m) descriptor.job.id) := by
  cases tracked : m.tracker? descriptor.job.id with
  | none =>
      rw [Site.portrait?_untracked tracked, Site.portrait?_untracked tracked]
      rfl
  | some t =>
      obtain ⟨k, found, -, -, label⟩ := sound.tracks.of_tracked tracked
      rw [Manager.updateJob, tracked, Site.portrait?_tracked tracked found,
        Site.portrait?_tracked tracked (Floor.Reworks.described found label).after]
      rfl

theorem Manager.Site.Sound.portrait?_removeJob (sound : Site.Sound (floor, m)) (job : TimeId) :
    Site.portrait? base ((m.removeJob floor job).1, (m.removeJob floor job).2.1) job = none := by
  refine Site.portrait?_untracked ?_
  rw [Manager.tracker?_removeJob sound.tracks.keys, if_pos rfl]

end Restage
