import Restage.Proofs.Manager.Acts

/-!
# What a manager does of its own accord

Submitting, replacing descriptors and removing jobs is asked of a manager; everything else it does
of its own accord (`Manager.Act.IsOwn`). Of its own accord a manager begins with no job that it does
not track. And whoever asks for what, it hands to the processor only PENDING slices of jobs that it
tracks (`Manager.Site.Sound.handed`).
-/

namespace Restage

open Manager

variable {floor : Floor} {m : Manager} {job other : TimeId} {jobs : List TimeId}
  {site site' : Site} {act : Manager.Act}

def Manager.Act.IsOwn : Manager.Act → Prop
  | submit _ _ | update _ | remove _ => False
  | sweep _ _ _ | start | stop | take | grant | proceed | quit | land _ _ => True

instance (act : Manager.Act) : Decidable act.IsOwn := by
  cases act <;> unfold Manager.Act.IsOwn <;> infer_instance

/-! ## Removals -/

theorem Manager.tracker?_removeJob (keys : (m.jobs.map Prod.fst).Nodup) :
    (m.removeJob floor job).2.1.tracker? other =
      if other = job then none else m.tracker? other := by
  cases tracked : m.tracker? job with
  | none =>
      rw [Manager.removeJob_of_unknown tracked]
      split
      · next same => rw [same, tracked]
      · rfl
  | some t =>
      rw [Manager.removeJob_of_tracked tracked]
      split
      · next same =>
          rw [same]
          exact Manager.tracker?_without_self
      · next apart => exact Manager.tracker?_without keys apart

theorem Manager.Site.Sound.tracker?_removeAll (sound : site.Sound) (jobs : List TimeId) :
    (site.2.removeAll site.1 jobs).2.tracker? job =
      if job ∈ jobs then none else site.2.tracker? job := by
  induction jobs generalizing site with
  | nil => rfl
  | cons head rest ih =>
      have later := ih ((Moves.remove sound head).sound sound)
      rw [Manager.removeAll, later, Manager.tracker?_removeJob sound.tracks.keys]
      by_cases here : job = head
      · rw [if_pos here, if_pos (List.mem_cons.mpr (.inl here)), ite_self]
      · have either : job ∈ head :: rest ↔ job ∈ rest := by
          rw [List.mem_cons]
          exact or_iff_right here
        rw [if_neg here]
        simp only [either]

theorem Manager.flights_removeJob : (m.removeJob floor job).2.1.flights = m.flights := by
  cases tracked : m.tracker? job with
  | none => rw [Manager.removeJob_of_unknown tracked]
  | some t =>
      rw [Manager.removeJob_of_tracked tracked]
      rfl

theorem Manager.flights_removeAll : (m.removeAll floor jobs).2.flights = m.flights := by
  induction jobs generalizing m floor with
  | nil => rfl
  | cons head rest ih => rw [Manager.removeAll, ih, Manager.flights_removeJob]

theorem Manager.Site.Sound.tracker?_sweep (sound : site.Sound) {trouble : Trouble}
    {now : Instant} {disk : Disk}
    (swept : Manager.act? site (.sweep trouble now disk) = some site') :
    site'.2.tracker? job =
      if job ∈ site.2.cleared trouble now disk then none else site.2.tracker? job := by
  have sweep := site.2.sweep_eq site.1 trouble now disk
  rw [← Option.some.inj (swept.symm.trans (congrArg some sweep)).symm]
  exact sound.tracker?_removeAll _

theorem Disk.list_empty {path : Path} {names : List String}
    (listed : ({} : Disk).list path = .ok names) : names = [] := by
  unfold Disk.list at listed
  cases found : ({} : Disk).find true path with
  | error fault =>
      rw [found] at listed
      cases listed
  | ok here =>
      rw [found] at listed
      obtain ⟨place, file | folder | link⟩ := here <;> cases listed
      rfl

/-- A sweep that reads no name deletes nothing. -/
theorem Sweep.clears_unread {trouble : Trouble} {now : Instant} {home : Instance} {recency : Span}
    {disk : Disk} {entries : List (Option String)} (unread : entries.filterMap id = []) :
    Sweep.clears trouble now home recency disk entries = [] := by
  induction entries with
  | nil => rfl
  | cons entry rest ih =>
      cases entry with
      | none => exact ih unread
      | some name => cases unread

/-- There is nothing to delete on an empty disk. -/
theorem Manager.cleared_empty {trouble : Trouble} {now : Instant} :
    m.cleared trouble now {} = [] := by
  unfold Manager.cleared
  split
  · next names listed =>
      have genuine := trouble.genuine m.home.stagingDir names
      rw [Disk.list_empty listed] at genuine ⊢
      exact Sweep.clears_unread (List.sublist_nil.mp genuine)
  · rfl

/-! ## No new jobs -/

/-- A manager does not begin with a job of its own accord. -/
theorem Manager.Site.Sound.own_untracked (sound : site.Sound) (own : act.IsOwn)
    (done : Manager.act? site act = some site') (untracked : site.2.tracker? job = none) :
    site'.2.tracker? job = none := by
  have same : site'.2.jobs = site.2.jobs → site'.2.tracker? job = none := fun jobs => by
    rw [Manager.tracker?, jobs]
    exact untracked
  cases act with
  | submit | update | remove => cases own
  | sweep trouble now disk => rw [sound.tracker?_sweep done, untracked, ite_self]
  | start =>
      cases done
      apply same
      rw [Manager.start]
      split <;> rfl
  | stop =>
      cases done
      exact same rfl
  | take => exact same (Manager.take?_tables done).2.2
  | grant => exact same (Manager.obtain?_tables done).2.2
  | proceed => exact same (Manager.proceed?_tables done).2.2
  | quit => exact same (Manager.quit?_tables done).2.2
  | land number ending =>
      obtain ⟨flight, t, k, s, -, -, -, -, -, -, after⟩ := sound.landing done
      apply same
      rw [after]

/-! ## Handing slices to the processor -/

theorem Manager.flights_submit (sound : Site.Sound (floor, m)) (i : SliceRef)
    (descriptor : Descriptor) : (m.submit floor i descriptor).2.1.flights = m.flights := by
  have submitted := sound.submitted i descriptor
  generalize m.submit floor i descriptor = result at submitted
  cases submitted <;> rfl

/-- Only the step that passes a slice on begins a flight. -/
theorem Manager.Site.Sound.flights_of_act (sound : site.Sound)
    (done : Manager.act? site act = some site') (other : act ≠ .proceed) :
    ∀ flight ∈ site'.2.flights, flight ∈ site.2.flights := by
  have same : site'.2.flights = site.2.flights →
      ∀ flight ∈ site'.2.flights, flight ∈ site.2.flights := fun flights _ up => flights ▸ up
  cases act with
  | submit i descriptor =>
      cases done
      exact same (Manager.flights_submit sound i descriptor)
  | update | stop =>
      cases done
      exact same rfl
  | remove job =>
      cases done
      exact same Manager.flights_removeJob
  | sweep trouble now disk =>
      have sweep := site.2.sweep_eq site.1 trouble now disk
      rw [← Option.some.inj (done.symm.trans (congrArg some sweep)).symm]
      intro flight up
      rwa [Manager.flights_removeAll] at up
  | start =>
      cases done
      apply same
      rw [Manager.start]
      split <;> rfl
  | take | grant | quit =>
      apply same
      simp only [Manager.act?, Manager.take?, Manager.obtain?, Manager.quit?] at done
      split at done <;> cases done <;> rfl
  | proceed => exact absurd rfl other
  | land number ending =>
      obtain ⟨flight, t, k, s, -, -, -, -, -, -, after⟩ := sound.landing done
      rw [after]
      exact fun flight up => (List.mem_filter.mp up).1

/-- What is handed to the processor is a PENDING slice of a job that the manager tracks. -/
theorem Manager.Site.Sound.handed (sound : site.Sound) (done : Manager.act? site act = some site')
    {flight : Flight} (up : flight ∈ site'.2.flights) (new : flight ∉ site.2.flights) :
    ∃ s t, site.1.slices[flight.slice]? = some s ∧ s.state = .pending ∧ s.owner = some t ∧
      site.2.tracker? s.piece.job = some t := by
  have proceed : act = .proceed := by
    by_contra other
    exact new (sound.flights_of_act done other flight up)
  subst proceed
  obtain ⟨floor, m⟩ := site
  obtain ⟨s, here, pending, ready⟩ : ∃ s, floor.slices[flight.slice]? = some s ∧
      s.state = .pending ∧ m.worker = .ready flight.slice := by
    simp only [Manager.act?, Manager.proceed?] at done
    split at done
    · next i ready =>
        split at done
        · next s here =>
            split at done
            · next pending =>
                cases done
                rcases List.mem_append.mp up with old | fresh
                · exact absurd old new
                · cases List.mem_singleton.mp fresh
                  exact ⟨s, here, pending, ready⟩
            · cases done
              exact absurd up new
        · cases done
          exact absurd up new
    · cases done
  have inside : flight.slice ∈ m.placed floor := by
    unfold Manager.placed
    rw [ready]
    exact List.mem_append_right _ (List.mem_append_left _ (List.mem_singleton.mpr rfl))
  obtain ⟨s', t, k, there, owner, found, queue, -⟩ := sound.places.slice inside
  rw [here] at there
  cases there
  obtain ⟨-, label, governs⟩ := sound.floor.owned here owner found
  obtain ⟨-, held⟩ := governs.open_of_pending pending
  refine ⟨s, t, here, pending, owner, ?_⟩
  rw [label]
  exact Table.lookup_of_mem sound.tracks.keys (sound.tracks.held found held queue)

end Restage
