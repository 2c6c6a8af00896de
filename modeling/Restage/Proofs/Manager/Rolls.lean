import Restage.Proofs.Manager.Concerns
import Restage.Proofs.Manager.Sights

/-!
# The roll of a manager

A `Roll` has the descriptor that the slices of every job read, from the job's first submission to
its removal. `Roll.record` keeps it from what is told of the manager's acts alone: with which
descriptor a slice was submitted to its own job, which descriptors replaced another, and which jobs
were removed. Only the first submission to a job counts for anything, since that one makes its
tracker.

`Manager.Site.Sound.roll_act` says that the roll read off a manager and its floor is the roll that is
kept so.
-/

namespace Restage

open Manager

/-- The descriptor of every job that is known. -/
abbrev Roll := TimeId → Option Descriptor

namespace Roll

/-- What is told of an act. -/
inductive Event where
  /-- A slice was submitted to its own job. -/
  | submitted (descriptor : Descriptor)
  | updated (descriptor : Descriptor)
  | removed (jobs : List TimeId)
  | nothing

def submitted (roll : Roll) (descriptor : Descriptor) : Roll := fun job =>
  if job = descriptor.job.id then some ((roll job).getD descriptor) else roll job

def updated (roll : Roll) (descriptor : Descriptor) : Roll := fun job =>
  if job = descriptor.job.id then (roll job).map fun _ => descriptor else roll job

def removed (roll : Roll) (jobs : List TimeId) : Roll := fun job =>
  if job ∈ jobs then none else roll job

def record (roll : Roll) : Event → Roll
  | .submitted descriptor => roll.submitted descriptor
  | .updated descriptor => roll.updated descriptor
  | .removed jobs => roll.removed jobs
  | .nothing => roll

end Roll

/-- What is told of an act of a manager. -/
def Manager.Site.notice (site : Site) : Act → Roll.Event
  | .submit i descriptor =>
      if site.1.jobOf? i = some descriptor.job.id then .submitted descriptor else .nothing
  | .update descriptor => .updated descriptor
  | .remove job => .removed [job]
  | .sweep trouble now disk => .removed (site.2.cleared trouble now disk)
  | _ => .nothing

/-- The roll of a manager, read off its trackers. -/
def Manager.Site.roll (site : Site) : Roll := fun job => (site.sight? job).map Sight.descriptor

variable {floor next : Floor} {m m' : Manager} {t : TrackerRef} {k k' : Tracker} {i : SliceRef}
  {s : Slice} {job : TimeId} {descriptor : Descriptor}

/-! ## Reading the roll -/

theorem Manager.Site.roll_tracked (tracked : m.tracker? job = some t) :
    Site.roll (floor, m) job = (floor.trackers[t]?).map Tracker.descriptor := by
  rw [Site.roll, Site.sight?, tracked, Option.bind_some, Option.map_map]
  rfl

theorem Manager.Site.roll_untracked (new : m.tracker? job = none) :
    Site.roll (floor, m) job = none := by
  rw [Site.roll, Site.sight?_untracked new, Option.map_none]

/-- Where the trackers keep their descriptors the roll stays. -/
theorem Manager.Site.roll_congr (same : m'.tracker? job = m.tracker? job)
    (descriptors : ∀ t, m.tracker? job = some t →
      (next.trackers[t]?).map Tracker.descriptor = (floor.trackers[t]?).map Tracker.descriptor) :
    Site.roll (next, m') job = Site.roll (floor, m) job := by
  cases tracked : m.tracker? job with
  | none => rw [Site.roll_untracked (same.trans tracked), Site.roll_untracked tracked]
  | some t =>
      rw [Site.roll_tracked (same.trans tracked), Site.roll_tracked tracked]
      exact descriptors t tracked

/-- What leaves trackers and jobs alone leaves the roll alone. -/
theorem Manager.Site.roll_of_tables {site site' : Site}
    (trackers : site'.1.trackers = site.1.trackers) (jobs : site'.2.jobs = site.2.jobs) :
    site'.roll = site.roll := by
  funext job
  refine Site.roll_congr (by rw [Manager.tracker?, jobs, Manager.tracker?]) fun t _ => ?_
  rw [trackers]

/-- A tracker that changes in anything but its descriptor is read as before. -/
theorem Floor.Reworks.roll (rework : Floor.Reworks t k k' floor next)
    (same : k'.descriptor = k.descriptor) : Site.roll (next, m) = Site.roll (floor, m) := by
  funext job
  refine Site.roll_congr rfl fun u _ => ?_
  by_cases here : u = t
  · rw [here, rework.after, rework.before, Option.map_some, Option.map_some, same]
  · rw [rework.others u here]

/-! ## Submissions -/

/-- A tracker keeps its descriptor, whatever it makes of a slice. -/
theorem Floor.Enrolled.descriptors {answer : Except JobFault Standing}
    (enrolled : Floor.Enrolled floor t k i s next answer) (found : floor.trackers[t]? = some k)
    (u : TrackerRef) :
    (next.trackers[u]?).map Tracker.descriptor = (floor.trackers[u]?).map Tracker.descriptor := by
  cases enrolled with
  | barred | finished | underway | elsewhere => rfl
  | again fine member there state => rfl
  | admitted fine new free =>
      rw [Floor.trackers_admitted found]
      split
      · next same =>
          rw [← same, found]
          rfl
      · rfl

theorem Manager.Site.Sound.roll_submit (sound : Site.Sound (floor, m)) (i : SliceRef)
    (descriptor : Descriptor) :
    Site.roll ((m.submit floor i descriptor).1, (m.submit floor i descriptor).2.1) =
      (Site.roll (floor, m)).record (Site.notice (floor, m) (.submit i descriptor)) := by
  have submitted := sound.submitted i descriptor
  generalize m.submit floor i descriptor = result at submitted
  rw [Site.notice]
  cases submitted with
  | absent absent =>
      rw [Floor.jobOf?, absent, Option.map_none, if_neg (Option.some_ne_none _).symm, Roll.record]
  | foreign here foreign =>
      rw [Floor.jobOf?_of here, if_neg fun same => foreign (Option.some.inj same), Roll.record]
  | tracked here of tracked found held queue label enrolled =>
      rw [Floor.jobOf?_of here, if_pos (congrArg some of)]
      funext job
      have kept : Site.roll (_, m) job = Site.roll (floor, m) job :=
        Site.roll_congr rfl fun u _ => enrolled.descriptors found u
      rw [kept, Roll.record, Roll.submitted]
      split
      · next same => rw [same, Site.roll_tracked tracked, found, Option.map_some, Option.getD_some]
      · rfl
  | first here of new found enrolled =>
      rw [Floor.jobOf?_of here, if_pos (congrArg some of)]
      funext job
      rw [Roll.record, Roll.submitted]
      have tracked : (m.tracking descriptor.job.id floor.trackers.size).tracker? job =
          if job = descriptor.job.id then some floor.trackers.size else m.tracker? job :=
        Manager.tracker?_tracking new
      split
      · next same =>
          rw [if_pos same] at tracked
          rw [Site.roll_tracked tracked, enrolled.descriptors found, found, same,
            Site.roll_untracked new]
          rfl
      · next apart =>
          rw [if_neg apart] at tracked
          refine Site.roll_congr tracked fun u known => ?_
          obtain ⟨k, found', -⟩ := sound.tracks.of_tracked known
          rw [enrolled.descriptors found, Floor.trackers_addTracker,
            if_neg (Floor.tracker_ne_size found')]

/-! ## New descriptors and removals -/

theorem Manager.Site.Sound.roll_update (sound : Site.Sound (floor, m)) (descriptor : Descriptor) :
    Site.roll (m.updateJob floor descriptor, m) = (Site.roll (floor, m)).updated descriptor := by
  funext job
  rw [Site.roll, sound.sight?_updateJob, Roll.updated]
  split
  · rw [Site.roll, Option.map_map, Option.map_map]
    rfl
  · rfl

theorem Manager.Site.Sound.roll_removeAll {site : Site} (sound : site.Sound)
    (jobs : List TimeId) : Site.roll (site.2.removeAll site.1 jobs) = site.roll.removed jobs := by
  induction jobs generalizing site with
  | nil => rfl
  | cons job rest ih =>
      have first := (Moves.remove sound job).sound sound
      rw [Manager.removeAll]
      refine (ih first).trans (funext fun other => ?_)
      simp only [Roll.removed, Site.roll, sound.sight?_removeJob, List.mem_cons]
      by_cases here : other = job
      · simp [here]
      · simp [here]

/-! ## Every act -/

/-- The roll of a manager is kept by what is told of its acts. -/
theorem Manager.Site.Sound.roll_act {site site' : Site} (sound : site.Sound) {act : Act}
    (done : Manager.act? site act = some site') :
    site'.roll = site.roll.record (site.notice act) := by
  cases act with
  | submit i descriptor =>
      cases done
      exact sound.roll_submit i descriptor
  | update descriptor =>
      cases done
      exact sound.roll_update descriptor
  | remove job =>
      cases done
      exact sound.roll_removeAll [job]
  | sweep trouble now disk =>
      have sweep := site.2.sweep_eq site.1 trouble now disk
      rw [← Option.some.inj (done.symm.trans (congrArg some sweep)).symm]
      exact sound.roll_removeAll _
  | start =>
      cases done
      refine Site.roll_of_tables rfl ?_
      rw [Manager.start]
      split <;> rfl
  | stop =>
      cases done
      rfl
  | take =>
      obtain ⟨trackers, -, jobs⟩ := Manager.take?_tables done
      exact Site.roll_of_tables trackers jobs
  | grant =>
      obtain ⟨trackers, -, jobs⟩ := Manager.obtain?_tables done
      exact Site.roll_of_tables trackers jobs
  | proceed =>
      obtain ⟨trackers, -, jobs⟩ := Manager.proceed?_tables done
      exact Site.roll_of_tables trackers jobs
  | quit =>
      obtain ⟨trackers, -, jobs⟩ := Manager.quit?_tables done
      exact Site.roll_of_tables trackers jobs
  | land number ending =>
      obtain ⟨flight, t, k, s, -, here, owner, found, -, landed, after⟩ := sound.landing done
      obtain ⟨fatal, rework⟩ := landed.reworks sound.floor here owner found
      have same := rework.roll (m := site'.2) rfl
      refine same.trans (Site.roll_of_tables rfl ?_)
      rw [after]

end Restage
