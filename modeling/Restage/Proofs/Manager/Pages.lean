import Restage.Proofs.Floor.Accounts
import Restage.Proofs.Manager.Acts

/-!
# The page of a manager

A `Page` has the account of every job that a manager was given, from its first submission to its
removal, and which slices were ever bound to a tracker. `Page.record` keeps it from what is told of
the manager's acts alone: which slice was submitted to which job, which jobs were removed, and what
the processor said about which slice. `Page.verdict` is what a submission has to answer by it.

`Manager.Site.Sound.page_act` says that the page read off a manager and its floor is the page that
is kept so.
-/

namespace Restage

open Manager

/-- What a submission has to come to. -/
inductive Verdict where
  /-- The slice is of another job. -/
  | foreign
  | failed (f : FatalFailure)
  | completed
  /-- Another slice has the slot, or the same one, and has not completed. -/
  | known (i : SliceRef) (state : SliceState)
  /-- The slot is free, but the slice was bound to another tracker. -/
  | elsewhere
  | created
  deriving DecidableEq

/-- What is to become of a slice that is submitted under a slot. -/
def Account.verdict (account : Account) (slot : Slot) (bound : Bool) : Verdict :=
  match account.fatal with
  | some f => .failed f
  | none =>
      match account.entries slot with
      | some (_, .completed) => .completed
      | some (known, state) => .known known state
      | none => if bound then .elsewhere else .created

/-- The account after a submission: a failed slice is PENDING again, and a new one is. -/
def Account.submitted (account : Account) (slot : Slot) (i : SliceRef) (bound : Bool) : Account :=
  match account.verdict slot bound with
  | .known known .failed => account.enter slot known .pending
  | .created => account.enter slot i .pending
  | _ => account

@[ext] structure Page where
  accounts : TimeId → Option Account
  bound : SliceRef → Bool

namespace Page

/-- The account of a job, which is empty when the job is not known. -/
def account (page : Page) (job : TimeId) : Account := (page.accounts job).getD .empty

def put (page : Page) (job : TimeId) (account : Account) : Page :=
  { page with accounts := fun other => if other = job then some account else page.accounts other }

/-- What submitting slice `i`, built from `piece`, to a job has to answer. -/
def verdict (page : Page) (i : SliceRef) (piece : Piece) (job : TimeId) : Verdict :=
  if piece.job = job then (page.account job).verdict piece.slot (page.bound i) else .foreign

def submitted (page : Page) (i : SliceRef) (piece : Piece) (job : TimeId) : Page :=
  if piece.job = job then
    { page.put job ((page.account job).submitted piece.slot i (page.bound i)) with
      bound := fun j => decide (j = i ∧ page.verdict i piece job = .created) || page.bound j }
  else page

def removed (page : Page) (job : TimeId) : Page :=
  { page with accounts := fun other => if other = job then none else page.accounts other }

def ended (page : Page) (i : SliceRef) (piece : Piece) (outcome : Outcome) (serial : Nat) : Page :=
  match page.accounts piece.job with
  | some account => page.put piece.job (account.ended piece.slot i outcome serial)
  | none => page

/-- What is told of an act. -/
inductive Event where
  | submitted (i : SliceRef) (piece : Piece) (job : TimeId)
  | removed (jobs : List TimeId)
  /-- The processor said something about a slice. The serial number is that of the failure it
  makes, if it makes one. -/
  | ended (i : SliceRef) (piece : Piece) (outcome : Outcome) (serial : Nat)
  | nothing

def record (page : Page) : Event → Page
  | .submitted i piece job => page.submitted i piece job
  | .removed jobs => jobs.foldl removed page
  | .ended i piece outcome serial => page.ended i piece outcome serial
  | .nothing => page

theorem put_eq_self {page : Page} {job : TimeId} {account : Account}
    (known : page.accounts job = some account) : page.put job account = page := by
  refine Page.ext (funext fun other => ?_) rfl
  rw [Page.put]
  simp only
  split
  · next same => rw [same, known]
  · rfl

end Page

/-- What is told of an act of a manager. -/
def Manager.Site.event (site : Site) : Act → Page.Event
  | .submit i descriptor =>
      match site.1.slices[i]? with
      | some s => .submitted i s.piece descriptor.job.id
      | none => .nothing
  | .remove job => .removed [job]
  | .sweep trouble now disk => .removed (site.2.cleared trouble now disk)
  | .land number ending =>
      match site.2.flights.find? fun flight => flight.number = number with
      | some flight =>
          match site.1.slices[flight.slice]? with
          | some s => .ended flight.slice s.piece ending.outcome site.1.minted
          | none => .nothing
      | none => .nothing
  | _ => .nothing

/-- The page of a manager, read off its trackers. -/
def Manager.Site.page (site : Site) : Page where
  accounts := fun job => (site.2.tracker? job).bind site.1.account?
  bound := site.1.isBound

variable {floor next : Floor} {m : Manager} {t u : TrackerRef} {k k' : Tracker} {i : SliceRef}
  {s : Slice} {job : TimeId}

/-! ## Reading the page -/

theorem Manager.Site.page_tracked (tracked : m.tracker? job = some t)
    (found : floor.trackers[t]? = some k) :
    (Site.page (floor, m)).accounts job = some (floor.accountOf k) := by
  rw [Site.page]
  simp only
  rw [tracked, Option.bind_some, Floor.account?_of found]

theorem Manager.Site.page_congr {site site' : Site} (trackers : site'.1.trackers = site.1.trackers)
    (slices : site'.1.slices = site.1.slices) (jobs : site'.2.jobs = site.2.jobs) :
    site'.page = site.page := by
  have accounts : site'.1.account? = site.1.account? := by
    funext t
    rw [Floor.account?, Floor.account?, trackers]
    have same : site'.1.accountOf = site.1.accountOf := by
      funext k
      simp only [Floor.accountOf, Account.mk.injEq, true_and]
      funext slot
      simp only [Floor.noted?, Floor.stateOf?, slices]
    rw [same]
  refine Page.ext (funext fun job => ?_) (funext fun i => ?_)
  · simp only [Site.page, Manager.tracker?, jobs, accounts]
  · simp only [Site.page, Floor.isBound, slices]

/-- The account of one job changes. -/
theorem Manager.Site.page_put {account : Account} (tracks : m.Tracks floor)
    (tracked : m.tracker? job = some t) (own : next.account? t = some account)
    (others : ∀ u, u ≠ t → next.account? u = floor.account? u) :
    (Site.page (next, m)).accounts = ((Site.page (floor, m)).put job account).accounts := by
  funext other
  simp only [Site.page, Page.put]
  split
  · next same => rw [same, tracked, Option.bind_some, own]
  · next apart =>
      cases found : m.tracker? other with
      | none => rfl
      | some u =>
          have away : u ≠ t := by
            rintro rfl
            exact apart (tracks.job_unique found tracked)
          exact others u away

/-- A change of a tracker that does not show in its account does not show on the page. -/
theorem Floor.Reworks.page (rework : Floor.Reworks t k k' floor next) (sound : floor.Sound)
    (same : next.account? t = floor.account? t) :
    Site.page (next, m) = Site.page (floor, m) := by
  have accounts : next.account? = floor.account? := by
    funext u
    by_cases here : u = t
    · rw [here, same]
    · exact rework.account?_other sound here
  rw [Site.page, Site.page, rework.isBound]
  simp only [accounts]

/-! ## Verdicts -/

theorem Floor.verdict_barred {f : FatalFailure} {slot : Slot} {bound : Bool}
    (fatal : k.fatal = some f) : (floor.accountOf k).verdict slot bound = .failed f := by
  simp only [Account.verdict, Floor.accountOf, fatal]

theorem Floor.verdict_finished {slot : Slot} {bound : Bool} (fine : k.fatal = none)
    (member : k.members.lookup slot = some i) (here : floor.slices[i]? = some s)
    (state : s.state = .completed) : (floor.accountOf k).verdict slot bound = .completed := by
  simp only [Account.verdict, Floor.accountOf, fine, Floor.noted?_of_lookup member here, state]

theorem Floor.verdict_known {slot : Slot} (bound : Bool) (fine : k.fatal = none)
    (member : k.members.lookup slot = some i) (here : floor.slices[i]? = some s)
    (running : s.state ≠ .completed) :
    (floor.accountOf k).verdict slot bound = .known i s.state := by
  simp only [Account.verdict, Floor.accountOf, fine, Floor.noted?_of_lookup member here]

theorem Floor.verdict_new {slot : Slot} {bound : Bool} (fine : k.fatal = none)
    (new : k.members.lookup slot = none) :
    (floor.accountOf k).verdict slot bound = if bound then .elsewhere else .created := by
  simp only [Account.verdict, Floor.accountOf, fine, Floor.noted?_of_absent new]

theorem Floor.verdict_elsewhere (fine : k.fatal = none) (new : k.members.lookup s.slot = none)
    (here : floor.slices[i]? = some s) (owner : s.owner = some u) :
    (floor.accountOf k).verdict s.slot (floor.isBound i) = .elsewhere := by
  rw [Floor.verdict_new fine new, Floor.isBound_of here, owner]
  rfl

theorem Floor.verdict_created (fine : k.fatal = none) (new : k.members.lookup s.slot = none)
    (here : floor.slices[i]? = some s) (free : s.owner = none) :
    (floor.accountOf k).verdict s.slot (floor.isBound i) = .created := by
  rw [Floor.verdict_new fine new, Floor.isBound_of here, free]
  rfl

/-! ## Submissions -/

/-- What a submission does to the accounts, by the verdict on it. -/
theorem Floor.Enrolled.accounts {answer : Except JobFault Standing}
    (enrolled : Floor.Enrolled floor t k i s next answer) (sound : floor.Sound)
    (found : floor.trackers[t]? = some k) (here : floor.slices[i]? = some s) :
    next.account? t = some ((floor.accountOf k).submitted s.slot i (floor.isBound i)) ∧
      (∀ u, u ≠ t → next.account? u = floor.account? u) ∧
      next.isBound = fun j => decide (j = i ∧
        (floor.accountOf k).verdict s.slot (floor.isBound i) = .created) || floor.isBound j := by
  have unchanged : ∀ {verdict : Verdict},
      (floor.accountOf k).verdict s.slot (floor.isBound i) = verdict → verdict ≠ .created →
      (∀ known, verdict ≠ .known known .failed) →
      floor.account? t = some ((floor.accountOf k).submitted s.slot i (floor.isBound i)) ∧
        (∀ u, u ≠ t → floor.account? u = floor.account? u) ∧
        floor.isBound = fun j => decide (j = i ∧
          (floor.accountOf k).verdict s.slot (floor.isBound i) = .created) || floor.isBound j := by
    intro verdict is notCreated notFailed
    have same : (floor.accountOf k).submitted s.slot i (floor.isBound i) = floor.accountOf k := by
      rw [Account.submitted, is]
      split
      · exact absurd rfl (notFailed _)
      · exact absurd rfl notCreated
      · rfl
    refine ⟨by rw [Floor.account?_of found, same], fun _ _ => rfl, funext fun j => ?_⟩
    rw [is, decide_eq_false fun both => notCreated both.2, Bool.false_or]
  cases enrolled with
  | barred fatal => exact unchanged (Floor.verdict_barred fatal) nofun nofun
  | finished fine member there state =>
      exact unchanged (Floor.verdict_finished fine member there state) nofun nofun
  | @underway known s' fine member there state =>
      have is := Floor.verdict_known (floor.isBound i) fine member there
        (by rw [state]; exact SliceState.noConfusion)
      rw [state] at is
      exact unchanged is nofun nofun
  | @again known s' fine member there state =>
      have is := Floor.verdict_known (floor.isBound i) fine member there
        (by rw [state]; exact SliceState.noConfusion)
      rw [state] at is
      obtain ⟨owner, slot⟩ := sound.owner_of_member found (Table.mem_of_lookup member) there
      have rework := Floor.Reworks.reopened found there owner
      refine ⟨?_, fun u other => rework.account?_other sound other, ?_⟩
      · rw [Account.submitted, is, ← slot]
        exact sound.account?_enter { s' with state := .pending, failure := none } found there owner
          (fun _ => Floor.slices_reopened there) rfl
      · rw [rework.isBound, is]
        funext j
        rw [decide_eq_false fun both => (nomatch both.2), Bool.false_or]
  | elsewhere fine new owner other =>
      exact unchanged (Floor.verdict_elsewhere fine new here owner) nofun nofun
  | admitted fine new free =>
      have is := Floor.verdict_created fine new here free
      refine ⟨?_, fun u other => Floor.account?_admitted_other sound found here free other, ?_⟩
      · rw [Account.submitted, is]
        exact Floor.account?_admitted sound found here free new
      · rw [Floor.isBound_admitted here, is]
        simp only [and_true]

/-- A submission to a tracker of the manager is recorded on its page. -/
theorem Floor.Enrolled.page {answer : Except JobFault Standing}
    (enrolled : Floor.Enrolled floor t k i s next answer) (sound : floor.Sound)
    (tracks : m.Tracks floor) (tracked : m.tracker? job = some t)
    (found : floor.trackers[t]? = some k) (here : floor.slices[i]? = some s)
    (of : s.piece.job = job) :
    Site.page (next, m) = (Site.page (floor, m)).submitted i s.piece job := by
  obtain ⟨own, others, bound⟩ := enrolled.accounts sound found here
  have known : (Site.page (floor, m)).account job = floor.accountOf k := by
    rw [Page.account, Site.page_tracked tracked found, Option.getD_some]
  have slot : s.slot = s.piece.slot := rfl
  rw [Page.submitted, if_pos of, Page.verdict, if_pos of, known]
  refine Page.ext ?_ ?_
  · rw [Site.page_put tracks tracked own others]
    rfl
  · rw [Site.page]
    simp only
    rw [bound, slot]
    rfl

theorem Manager.Site.page_track {descriptor : Descriptor} (sound : Site.Sound (floor, m))
    (new : m.tracker? descriptor.job.id = none) :
    Site.page ((floor.addTracker (.fresh descriptor m.queue)).1,
        m.tracking descriptor.job.id floor.trackers.size) =
      (Site.page (floor, m)).put descriptor.job.id .empty := by
  refine Page.ext (funext fun other => ?_) rfl
  simp only [Site.page, Page.put, Manager.tracker?_tracking new]
  split
  · have fresh : (floor.addTracker (.fresh descriptor m.queue)).1.account? floor.trackers.size =
        some .empty := by
      rw [Floor.account?, Floor.trackers_addTracker, if_pos rfl]
      rfl
    rw [Option.bind_some, fresh]
  · cases tracked : m.tracker? other with
    | none => rfl
    | some u =>
        obtain ⟨k, found, -⟩ := sound.tracks.of_tracked tracked
        have kept : (floor.addTracker (.fresh descriptor m.queue)).1.trackers[u]? = some k := by
          rw [Floor.trackers_addTracker, if_neg (Floor.tracker_ne_size found)]
          exact found
        rw [Option.bind_some, Option.bind_some]
        exact sound.floor.account?_congr found kept rfl rfl fun j s here _ => by
          rw [Floor.stateOf?, Floor.slices_addTracker, here, Option.map_some]

/-- To open an empty account first makes no difference to a submission. -/
theorem Page.submitted_put_empty {page : Page} (new : page.accounts job = none)
    (of : s.piece.job = job) :
    (page.put job .empty).submitted i s.piece job = page.submitted i s.piece job := by
  rw [Page.submitted, Page.submitted, if_pos of, if_pos of, Page.verdict, Page.verdict, if_pos of,
    if_pos of, Page.account, Page.account, new]
  refine Page.ext (funext fun other => ?_) ?_
  · simp only [Page.put, if_true, Option.getD_some, Option.getD_none]
    split <;> rfl
  · simp only [Page.put, if_true, Option.getD_some, Option.getD_none]

theorem Manager.Site.Sound.page_submit (sound : Site.Sound (floor, m)) (i : SliceRef)
    (descriptor : Descriptor) :
    Site.page ((m.submit floor i descriptor).1, (m.submit floor i descriptor).2.1) =
      (Site.page (floor, m)).record (Site.event (floor, m) (.submit i descriptor)) := by
  have submitted := sound.submitted i descriptor
  generalize m.submit floor i descriptor = result at submitted
  rw [Site.event]
  cases submitted with
  | absent absent =>
      simp only [absent]
      rfl
  | foreign here foreign =>
      simp only [here]
      rw [Page.record, Page.submitted, if_neg foreign]
  | tracked here of tracked found held queue label enrolled =>
      simp only [here]
      exact enrolled.page sound.floor sound.tracks tracked found here of
  | first here of new found enrolled =>
      have move : Move (floor, m) _ := .track new
      have clean := move.sound sound
      have tracked : (m.tracking descriptor.job.id floor.trackers.size).tracker?
          descriptor.job.id = some floor.trackers.size :=
        Table.lookup_of_mem clean.tracks.keys (List.mem_append_right _ List.mem_cons_self)
      have empty : (Site.page (floor, m)).accounts descriptor.job.id = none := by
        simp only [Site.page, new, Option.bind_none]
      simp only [here]
      refine (enrolled.page clean.floor clean.tracks tracked found here of).trans ?_
      rw [Site.page_track sound new, Page.record]
      exact Page.submitted_put_empty empty of

/-! ## Removals -/

theorem Manager.Site.Sound.page_remove (sound : Site.Sound (floor, m)) (job : TimeId) :
    Site.page ((m.removeJob floor job).1, (m.removeJob floor job).2.1) =
      (Site.page (floor, m)).removed job := by
  cases tracked : m.tracker? job with
  | none =>
      rw [Manager.removeJob_of_unknown tracked]
      refine Page.ext (funext fun other => ?_) rfl
      simp only [Site.page, Page.removed]
      split
      · next same => rw [same, tracked, Option.bind_none]
      · rfl
  | some t =>
      obtain ⟨k, found, -, -, label⟩ := sound.tracks.of_tracked tracked
      have rework := Floor.Reworks.discarded sound.floor found
      rw [Manager.removeJob_of_tracked tracked]
      refine Page.ext (funext fun other => ?_) ?_
      · simp only [Site.page, Page.removed]
        split
        · next same => rw [same, Manager.tracker?_without_self, Option.bind_none]
        · next apart =>
            rw [Manager.tracker?_without sound.tracks.keys apart]
            cases before : m.tracker? other with
            | none => rfl
            | some u =>
                have away : u ≠ t := by
                  rintro rfl
                  exact apart (sound.tracks.job_unique before tracked)
                exact rework.account?_other sound.floor away
      · simp only [Site.page, rework.isBound, Page.removed]

theorem Manager.Site.Sound.page_removeAll {site : Site} (sound : site.Sound)
    (jobs : List TimeId) :
    Site.page (site.2.removeAll site.1 jobs) = jobs.foldl Page.removed site.page := by
  induction jobs generalizing site with
  | nil => rfl
  | cons job rest ih =>
      have first := (Moves.remove sound job).sound sound
      rw [List.foldl_cons, ← sound.page_remove job]
      exact ih first

/-! ## Ends of flights -/

/-- A tracker that nobody holds is of no job of the manager. -/
theorem Manager.Tracks.ne_of_let_go (tracks : m.Tracks floor) (found : floor.trackers[t]? = some k)
    (gone : k.held = false) (tracked : m.tracker? job = some u) : u ≠ t := by
  rintro rfl
  obtain ⟨k', found', held, -⟩ := tracks.of_tracked tracked
  rw [found] at found'
  cases found'
  rw [gone] at held
  cases held

/-- What is told of a slice whose tracker nobody holds does not count. -/
theorem Manager.Site.Sound.ended_let_go {outcome : Outcome} {serial : Nat}
    (sound : Site.Sound (floor, m)) (here : floor.slices[i]? = some s) (owner : s.owner = some t)
    (found : floor.trackers[t]? = some k) (gone : k.held = false) :
    (Site.page (floor, m)).ended i s.piece outcome serial = Site.page (floor, m) := by
  rw [Page.ended]
  cases tracked : m.tracker? s.piece.job with
  | none =>
      have unknown : (Site.page (floor, m)).accounts s.piece.job = none := by
        simp only [Site.page, tracked, Option.bind_none]
      rw [unknown]
  | some u =>
      obtain ⟨k', found', -⟩ := sound.tracks.of_tracked tracked
      have known := Site.page_tracked tracked found'
      have ignored : (floor.accountOf k').entries s.piece.slot ≠ some (i, .pending) := by
        intro entry
        obtain ⟨s', here', owner', -⟩ := sound.floor.of_noted? found' entry
        rw [here] at here'
        cases here'
        exact sound.tracks.ne_of_let_go found gone tracked
          (Option.some.inj (owner'.symm.trans owner))
      rw [known]
      simp only
      rw [Account.ended_of_ignored ignored, Page.put_eq_self known]

theorem Floor.Landed.page {replica : String} {outcome : Outcome}
    (landed : Floor.Landed floor t k i s replica outcome next) (sound : Site.Sound (floor, m))
    (here : floor.slices[i]? = some s) (owner : s.owner = some t)
    (found : floor.trackers[t]? = some k) (queue : k.queue = m.queue) :
    Site.page (next, m) = (Site.page (floor, m)).ended i s.piece outcome floor.minted := by
  obtain ⟨fatal, rework⟩ := landed.reworks sound.floor here owner found
  have others := fun u (other : u ≠ t) => rework.account?_other sound.floor other
  cases held : k.held with
  | true =>
      obtain ⟨-, label, -⟩ := sound.floor.owned here owner found
      have tracked : m.tracker? s.piece.job = some t := by
        rw [label]
        exact Table.lookup_of_mem sound.tracks.keys (sound.tracks.held found held queue)
      have own := landed.account? sound.floor found here owner
      rw [Page.ended, Site.page_tracked tracked found]
      refine Page.ext ?_ ?_
      · rw [Site.page_put sound.tracks tracked own others]
        rfl
      · simp only [Site.page, rework.isBound, Page.put]
  | false =>
      rw [sound.ended_let_go here owner found held]
      refine Page.ext (funext fun other => ?_) rework.isBound
      simp only [Site.page]
      cases tracked : m.tracker? other with
      | none => rfl
      | some u => exact others u (sound.tracks.ne_of_let_go found held tracked)

/-! ## Every act -/

/-- A new descriptor does not show on the page. -/
theorem Manager.Site.Sound.page_update (sound : Site.Sound (floor, m)) (descriptor : Descriptor) :
    Site.page (m.updateJob floor descriptor, m) = Site.page (floor, m) := by
  rw [Manager.updateJob]
  cases tracked : m.tracker? descriptor.job.id with
  | none => rfl
  | some t =>
      obtain ⟨k, found, -, -, label⟩ := sound.tracks.of_tracked tracked
      have rework := Floor.Reworks.described found label
      refine rework.page sound.floor ?_
      refine sound.floor.account?_congr found rework.after rfl rfl fun j s here _ => ?_
      rw [Floor.stateOf?, Floor.slices_modifyTracker, here, Option.map_some]

/-- The page of a manager is kept by what is told of its acts. -/
theorem Manager.Site.Sound.page_act {site site' : Site} (sound : site.Sound) {act : Act}
    (done : Manager.act? site act = some site') :
    site'.page = site.page.record (site.event act) := by
  cases act with
  | submit i descriptor =>
      cases done
      exact sound.page_submit i descriptor
  | update descriptor =>
      cases done
      exact sound.page_update descriptor
  | remove job =>
      cases done
      exact sound.page_remove job
  | sweep trouble now disk =>
      have sweep := site.2.sweep_eq site.1 trouble now disk
      rw [← Option.some.inj (done.symm.trans (congrArg some sweep)).symm]
      exact sound.page_removeAll _
  | start =>
      cases done
      rw [Manager.start]
      split <;> rfl
  | stop =>
      cases done
      rfl
  | take =>
      obtain ⟨trackers, slices, jobs⟩ := Manager.take?_tables done
      exact Site.page_congr trackers slices jobs
  | grant =>
      obtain ⟨trackers, slices, jobs⟩ := Manager.obtain?_tables done
      exact Site.page_congr trackers slices jobs
  | proceed =>
      obtain ⟨trackers, slices, jobs⟩ := Manager.proceed?_tables done
      exact Site.page_congr trackers slices jobs
  | quit =>
      obtain ⟨trackers, slices, jobs⟩ := Manager.quit?_tables done
      exact Site.page_congr trackers slices jobs
  | land number ending =>
      obtain ⟨flight, t, k, s, aloft, here, owner, found, queue, landed, after⟩ :=
        sound.landing done
      have told : site.event (.land number ending) =
          .ended flight.slice s.piece ending.outcome site.1.minted := by
        simp only [Site.event, aloft, here]
      rw [told, Page.record, ← landed.page sound here owner found queue]
      have jobs : site'.2.jobs = site.2.jobs := by rw [after]
      simp only [Site.page, Manager.tracker?, jobs]

end Restage
