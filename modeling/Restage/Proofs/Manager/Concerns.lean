import Restage.Proofs.Floor.Concerns
import Restage.Proofs.Manager.Handing

/-!
# Acts that concern one job

An act is about a job when it submits a slice of it or for it, replaces its descriptor, removes it,
sweeps away no directory but its own, or brings the outcome of one of its slices
(`Manager.Act.IsAbout`). `Manager.Site.Sound.concerns` says that such an act leaves all that the
manager has of other jobs as it is: `Manager.Site.Concerns` adds to the frame of the floor what the
manager itself knows.
-/

namespace Restage

open Manager

variable {floor next : Floor} {m : Manager} {job : TimeId} {i : SliceRef}
  {descriptor : Descriptor} {site site' site'' : Site} {act : Manager.Act}

/-- The job of a slice. -/
def Floor.jobOf? (floor : Floor) (i : SliceRef) : Option TimeId :=
  (floor.slices[i]?).map fun s => s.piece.job

/-- Whether an act is about one job alone. -/
def Manager.Act.IsAbout (job : TimeId) (site : Site) : Manager.Act → Prop
  | submit i descriptor => descriptor.job.id = job ∨ site.1.jobOf? i = some job
  | update descriptor => descriptor.job.id = job
  | remove other => other = job
  | sweep trouble now disk => ∀ other ∈ site.2.cleared trouble now disk, other = job
  | land number _ => ∃ flight ∈ site.2.flights.find? (fun flight => flight.number = number),
      site.1.jobOf? flight.slice = some job
  | start | stop | take | grant | proceed | quit => False

instance (job : TimeId) (site : Site) : (act : Manager.Act) → Decidable (act.IsAbout job site)
  | .submit _ _ => inferInstanceAs (Decidable (_ ∨ _))
  | .update _ | .remove _ => inferInstanceAs (Decidable (_ = _))
  | .sweep trouble now disk =>
      inferInstanceAs (Decidable (∀ other ∈ site.2.cleared trouble now disk, other = job))
  | .land number _ => inferInstanceAs (Decidable
      (∃ flight ∈ site.2.flights.find? (fun flight => flight.number = number),
        site.1.jobOf? flight.slice = some job))
  | .start | .stop | .take | .grant | .proceed | .quit => .isFalse id

/-- All that differs between two states of a manager and its floor concerns one job. -/
structure Manager.Site.Concerns (job : TimeId) (site site' : Site) : Prop where
  floor : Floor.Concerns job site.1 site'.1
  tracked : ∀ other, other ≠ job → site'.2.tracker? other = site.2.tracker? other
  flights : ∀ (flight : Flight) (s : Slice), site.1.slices[flight.slice]? = some s →
    s.piece.job ≠ job → (flight ∈ site'.2.flights ↔ flight ∈ site.2.flights)
  active : ∀ slot : Slot, slot.job ≠ job → (slot ∈ site'.2.active ↔ slot ∈ site.2.active)
  /-- What is no list of jobs and slices stays, but for the permits. -/
  rest : site'.2 = { site.2 with
    jobs := site'.2.jobs
    free := site'.2.free
    flights := site'.2.flights
    active := site'.2.active }

/-! ## The frame -/

/-- The floor changes, and of the manager at most the tracker of the job. -/
theorem Manager.Site.Concerns.of_jobs {jobs : List (TimeId × TrackerRef)}
    (concerns : Floor.Concerns job floor next)
    (tracked : ∀ other, other ≠ job → jobs.lookup other = m.tracker? other) :
    Site.Concerns job (floor, m) (next, { m with jobs := jobs }) where
  floor := concerns
  tracked := tracked
  flights := fun _ _ _ _ => Iff.rfl
  active := fun _ _ => Iff.rfl
  rest := rfl

theorem Manager.Site.Concerns.of_floor (concerns : Floor.Concerns job floor next) :
    Site.Concerns job (floor, m) (next, m) :=
  .of_jobs concerns fun _ _ => rfl

theorem Manager.Site.Concerns.refl : Site.Concerns job site site := .of_floor .refl

theorem Manager.Site.Concerns.trans (first : Site.Concerns job site site')
    (second : Site.Concerns job site' site'') : Site.Concerns job site site'' where
  floor := first.floor.trans second.floor
  tracked := fun other apart => (second.tracked other apart).trans (first.tracked other apart)
  flights := fun flight s here apart => by
    have there := (first.floor.slices flight.slice s apart).mpr here
    exact (second.flights flight s there apart).trans (first.flights flight s here apart)
  active := fun slot apart => (second.active slot apart).trans (first.active slot apart)
  rest := by rw [second.rest, first.rest]

/-! ## Acts -/

theorem Floor.jobOf?_of {s : Slice} (here : floor.slices[i]? = some s) :
    floor.jobOf? i = some s.piece.job := by
  rw [Floor.jobOf?, here, Option.map_some]

theorem Manager.Site.Sound.submit_concerns (sound : Site.Sound (floor, m)) (i : SliceRef)
    (descriptor : Descriptor)
    (about : descriptor.job.id = job ∨ floor.jobOf? i = some job) :
    Site.Concerns job (floor, m)
      ((m.submit floor i descriptor).1, (m.submit floor i descriptor).2.1) := by
  -- a slice is only taken for its own job
  have both : ∀ {s : Slice}, floor.slices[i]? = some s → s.piece.job = descriptor.job.id →
      descriptor.job.id = job := by
    intro s here of
    rcases about with label | listed
    · exact label
    · rw [Floor.jobOf?_of here] at listed
      exact of.symm.trans (Option.some.inj listed)
  have submitted := sound.submitted i descriptor
  generalize m.submit floor i descriptor = result at submitted
  cases submitted with
  | absent absent => exact .refl
  | foreign here foreign => exact .refl
  | tracked here of tracked found held queue label enrolled =>
      have mine := both here of
      exact .of_floor (enrolled.concerns sound.floor found here (label.trans mine) (of.trans mine))
  | first here of new found enrolled =>
      have mine := both here of
      have clean := sound.floor.addTracker descriptor m.queue
      refine .of_jobs ((Floor.Concerns.addTracker mine).trans
        (enrolled.concerns clean found here mine (of.trans mine))) fun other apart => ?_
      have known : (m.tracking descriptor.job.id floor.trackers.size).tracker? other = _ :=
        Manager.tracker?_tracking new
      rw [mine, if_neg apart] at known
      rw [← known, mine]
      rfl

theorem Manager.Site.Sound.update_concerns (sound : Site.Sound (floor, m))
    (label : descriptor.job.id = job) :
    Site.Concerns job (floor, m) (m.updateJob floor descriptor, m) := by
  rw [Manager.updateJob]
  cases tracked : m.tracker? descriptor.job.id with
  | none => exact .refl
  | some t =>
      obtain ⟨k, found, -, -, known⟩ := sound.tracks.of_tracked tracked
      have rework := Floor.Reworks.described found known
      exact .of_floor (rework.concerns sound.floor (rework.ages id fun _ fatal => fatal)
        (known.trans label) rfl)

theorem Manager.Site.Sound.remove_concerns (sound : Site.Sound (floor, m)) (job : TimeId) :
    Site.Concerns job (floor, m)
      ((m.removeJob floor job).1, (m.removeJob floor job).2.1) := by
  cases tracked : m.tracker? job with
  | none =>
      rw [Manager.removeJob_of_unknown tracked]
      exact .refl
  | some t =>
      obtain ⟨k, found, -, -, known⟩ := sound.tracks.of_tracked tracked
      have rework := Floor.Reworks.discarded sound.floor found
      rw [Manager.removeJob_of_tracked tracked]
      refine .of_jobs (rework.concerns sound.floor (rework.ages (fun _ => rfl) fun _ fatal => fatal)
        known Floor.queues_discarded) fun other apart => ?_
      exact Manager.tracker?_without sound.tracks.keys apart

theorem Manager.Site.Sound.removeAll_concerns (sound : site.Sound) {jobs : List TimeId}
    (alone : ∀ other ∈ jobs, other = job) :
    Site.Concerns job site (site.2.removeAll site.1 jobs) := by
  induction jobs generalizing site with
  | nil => exact .refl
  | cons head rest ih =>
      have first := sound.remove_concerns head
      have clean := (Moves.remove sound head).sound sound
      rw [alone head List.mem_cons_self] at first clean
      rw [Manager.removeAll, alone head List.mem_cons_self]
      exact first.trans (ih clean fun other inside => alone other (List.mem_cons_of_mem _ inside))

theorem Manager.Site.Sound.land_concerns (sound : site.Sound) {number : Nat} {outcome : Outcome}
    (about : ∃ flight ∈ site.2.flights.find? (fun flight => flight.number = number),
      site.1.jobOf? flight.slice = some job)
    (landed : site.2.land? site.1 number outcome = some site') :
    Site.Concerns job site site' := by
  obtain ⟨flight, t, k, s, aloft, here, owner, found, -, landing, after⟩ := sound.landing landed
  obtain ⟨flight', aloft', listed⟩ := about
  rw [Option.mem_def, aloft] at aloft'
  cases aloft'
  rw [Floor.jobOf?_of here] at listed
  have of : s.piece.job = job := Option.some.inj listed
  obtain ⟨-, label, -⟩ := sound.floor.owned here owner found
  refine ⟨landing.concerns sound.floor here owner found (label.symm.trans of), fun other _ => ?_,
    fun other s' there apart => ?_, fun slot apart => ?_, ?_⟩
  · rw [after]
    rfl
  · rw [after]
    simp only [List.mem_filter, decide_eq_true_eq]
    refine ⟨And.left, fun up => ⟨up, fun same => ?_⟩⟩
    -- a flight of that number is the one that has ended
    have number' : flight.number = number := by simpa using List.find?_some aloft
    have equal := List.inj_on_of_nodup_map sound.numbers.own up
      (List.mem_of_find?_eq_some aloft) (same.trans number'.symm)
    rw [equal, here] at there
    cases there
    exact apart of
  · rw [after]
    simp only [List.mem_filter, decide_eq_true_eq]
    refine ⟨And.left, fun up => ⟨up, fun same => ?_⟩⟩
    rw [same] at apart
    exact apart of
  · rw [after]

/-- An act that is about one job leaves everything of the other jobs alone. -/
theorem Manager.Site.Sound.concerns (sound : site.Sound) (about : act.IsAbout job site)
    (done : Manager.act? site act = some site') : Site.Concerns job site site' := by
  cases act with
  | submit i descriptor =>
      cases done
      exact sound.submit_concerns i descriptor about
  | update descriptor =>
      cases done
      exact sound.update_concerns about
  | remove other =>
      cases done
      cases about
      exact sound.remove_concerns job
  | sweep trouble now disk =>
      have sweep := site.2.sweep_eq site.1 trouble now disk
      rw [← Option.some.inj (done.symm.trans (congrArg some sweep)).symm]
      exact sound.removeAll_concerns about
  | land number ending => exact sound.land_concerns about done
  | start | stop | take | grant | proceed | quit => cases about

end Restage
