import Restage.Proofs.Manager.Steps

/-!
# Acts are chains of moves

`Manager.Site.Sound.act` says that an act of a sound manager is a chain of moves, so whatever every
move keeps, every act keeps.
-/

namespace Restage

open Manager

variable {floor next : Floor} {m : Manager} {t : TrackerRef} {k : Tracker} {i : SliceRef}
  {s : Slice}

/-- The tracker of a job is held, has its queue and its job. -/
theorem Manager.Tracks.of_tracked (tracks : m.Tracks floor) {job : TimeId}
    (tracked : m.tracker? job = some t) : ∃ k, floor.trackers[t]? = some k ∧ k.held = true ∧
      k.queue = m.queue ∧ k.descriptor.job.id = job :=
  tracks.tracker (Table.mem_of_lookup tracked)

/-- No tracker is of two jobs. -/
theorem Manager.Tracks.job_unique (tracks : m.Tracks floor) {job other : TimeId}
    (tracked : m.tracker? job = some t) (tracked' : m.tracker? other = some t) : job = other := by
  obtain ⟨k, found, -, -, label⟩ := tracks.of_tracked tracked
  obtain ⟨k', found', -, -, label'⟩ := tracks.of_tracked tracked'
  rw [found] at found'
  cases found'
  exact label.symm.trans label'

theorem Manager.tracker?_without_self {job : TimeId} : (m.without job).tracker? job = none := by
  rw [Manager.tracker?, Manager.without, List.lookup_eq_none_iff]
  intro pair member
  have kept := (List.mem_filter.mp member).2
  have other : pair.1 ≠ job := by simpa using kept
  simpa using Ne.symm other

theorem Manager.tracker?_without {job other : TimeId} (keys : (m.jobs.map Prod.fst).Nodup)
    (apart : other ≠ job) : (m.without job).tracker? other = m.tracker? other := by
  cases before : m.tracker? other with
  | none =>
      rw [Manager.tracker?, List.lookup_eq_none_iff] at before ⊢
      exact fun pair member => before pair (List.mem_filter.mp member).1
  | some u =>
      have left : ((m.without job).jobs.map Prod.fst).Nodup :=
        (List.filter_sublist.map _).nodup keys
      refine Table.lookup_of_mem left (List.mem_filter.mpr ⟨Table.mem_of_lookup before, ?_⟩)
      simpa using apart

theorem Manager.tracker?_tracking {job other : TimeId} (new : m.tracker? job = none) :
    (m.tracking job t).tracker? other = if other = job then some t else m.tracker? other := by
  unfold Manager.tracker? at *
  exact Table.lookup_concat new

/-- A submission to a tracker is a move at most. -/
theorem Floor.Enrolled.moves {answer : Except JobFault Standing}
    (enrolled : Floor.Enrolled floor t k i s next answer) (sound : floor.Sound)
    (found : floor.trackers[t]? = some k) (held : k.held = true) (queue : k.queue = m.queue)
    (here : floor.slices[i]? = some s) (job : s.piece.job = k.descriptor.job.id) :
    Moves (floor, m) (next, m) := by
  cases enrolled with
  | barred fatal => exact .refl
  | finished fine member there state => exact .refl
  | underway fine member there state => exact .refl
  | again fine member there state =>
      obtain ⟨owner, -⟩ := sound.owner_of_member found (Table.mem_of_lookup member) there
      exact .single (.reopen found queue held fine there owner state)
  | elsewhere fine new owner other => exact .refl
  | admitted fine new free => exact .single (.accept found queue held fine here free job new)

/-- What submitting slice `i` to a manager comes to. -/
inductive Manager.Submitted (floor : Floor) (m : Manager) (i : SliceRef) (descriptor : Descriptor) :
    Floor × Manager × Except JobFault Standing → Prop
  | absent (absent : floor.slices[i]? = none) :
    Submitted floor m i descriptor (floor, m, .error (.retriable "Unknown slice"))
  | foreign {s : Slice} (here : floor.slices[i]? = some s)
    (foreign : s.piece.job ≠ descriptor.job.id) :
    Submitted floor m i descriptor (floor, m, .error (foreignSlice s.key descriptor.job.id))
  | tracked {next : Floor} {t : TrackerRef} {k : Tracker} {s : Slice}
    {answer : Except JobFault Standing} (here : floor.slices[i]? = some s)
    (of : s.piece.job = descriptor.job.id) (tracked : m.tracker? descriptor.job.id = some t)
    (found : floor.trackers[t]? = some k) (held : k.held = true) (queue : k.queue = m.queue)
    (label : k.descriptor.job.id = descriptor.job.id)
    (enrolled : Floor.Enrolled floor t k i s next answer) :
    Submitted floor m i descriptor (next, m, answer)
  /-- The first slice of a job comes to a tracker that is made for it. -/
  | first {next : Floor} {s : Slice} {answer : Except JobFault Standing}
    (here : floor.slices[i]? = some s) (of : s.piece.job = descriptor.job.id)
    (new : m.tracker? descriptor.job.id = none)
    (found : (floor.addTracker (.fresh descriptor m.queue)).1.trackers[floor.trackers.size]? =
      some (.fresh descriptor m.queue))
    (enrolled : Floor.Enrolled (floor.addTracker (.fresh descriptor m.queue)).1
      floor.trackers.size (.fresh descriptor m.queue) i s next answer) :
    Submitted floor m i descriptor
      (next, m.tracking descriptor.job.id floor.trackers.size, answer)

theorem Manager.Site.Sound.submitted (sound : Site.Sound (floor, m)) (i : SliceRef)
    (descriptor : Descriptor) : Submitted floor m i descriptor (m.submit floor i descriptor) := by
  cases here : floor.slices[i]? with
  | none =>
      rw [Manager.submit_absent here]
      exact .absent here
  | some s =>
      by_cases of : s.piece.job = descriptor.job.id
      · cases tracked : m.tracker? descriptor.job.id with
        | some t =>
            obtain ⟨k, found, held, queue, label⟩ := sound.tracks.of_tracked tracked
            rw [Manager.submit_tracked here of tracked]
            exact .tracked here of tracked found held queue label
              (sound.floor.enrolled found held here)
        | none =>
            have found : (floor.addTracker (.fresh descriptor m.queue)).1.trackers[
                floor.trackers.size]? = some (.fresh descriptor m.queue) := by
              rw [Floor.trackers_addTracker, if_pos rfl]
            have clean := sound.floor.addTracker descriptor m.queue
            rw [Manager.submit_untracked here of tracked]
            exact .first here of tracked found (clean.enrolled found rfl here)
      · rw [Manager.submit_foreign here of]
        exact .foreign here of

theorem Manager.Moves.submit (sound : Site.Sound (floor, m)) (i : SliceRef)
    (descriptor : Descriptor) :
    Moves (floor, m) ((m.submit floor i descriptor).1, (m.submit floor i descriptor).2.1) := by
  have submitted := sound.submitted i descriptor
  generalize m.submit floor i descriptor = result at submitted
  cases submitted with
  | absent absent => exact .refl
  | foreign here foreign => exact .refl
  | tracked here of tracked found held queue label enrolled =>
      exact enrolled.moves sound.floor found held queue here (of.trans label.symm)
  | first here of new found enrolled =>
      have track : Move (floor, m) _ := .track new
      have clean := track.floor_sound sound.floor
      exact (Relation.ReflTransGen.single track).trans
        (enrolled.moves clean found rfl rfl here of)

theorem Manager.Moves.update {site : Site} (sound : site.Sound) (descriptor : Descriptor) :
    Moves site (site.2.updateJob site.1 descriptor, site.2) := by
  rw [Manager.updateJob]
  cases tracked : site.2.tracker? descriptor.job.id with
  | none => exact .refl
  | some t =>
      obtain ⟨k, found, held, queue, label⟩ := sound.tracks.of_tracked tracked
      exact .single (.update found queue label)

theorem Manager.Moves.remove {site : Site} (sound : site.Sound) (job : TimeId) :
    Moves site ((site.2.removeJob site.1 job).1, (site.2.removeJob site.1 job).2.1) := by
  cases tracked : site.2.tracker? job with
  | none =>
      rw [Manager.removeJob_of_unknown tracked]
  | some t =>
      obtain ⟨k, found, held, queue, label⟩ := sound.tracks.of_tracked tracked
      rw [Manager.removeJob_of_tracked tracked]
      exact .single (.discard found queue tracked)

theorem Manager.Moves.removeAll {site : Site} (sound : site.Sound) (jobs : List TimeId) :
    Moves site (site.2.removeAll site.1 jobs) := by
  induction jobs generalizing site with
  | nil => exact .refl
  | cons job rest ih =>
      have first := Manager.Moves.remove sound job
      exact first.trans (ih (first.sound sound))

/-- A slice that a manager has to do belongs to a tracker of its queue, and is PENDING or was
cancelled. -/
theorem Manager.Places.slice (places : m.Places floor) (inside : i ∈ m.placed floor) :
    ∃ s t k, floor.slices[i]? = some s ∧ s.owner = some t ∧ floor.trackers[t]? = some k ∧
      k.queue = m.queue ∧ (s.state = .pending ∨ s.state = .cancelled) := by
  rcases places.posted inside with post | post
  · obtain ⟨s, t, k, here, owner, found, queue, state⟩ := Floor.post?_eq_some.mp post
    exact ⟨s, t, k, here, owner, found, queue, Or.inl state⟩
  · obtain ⟨s, t, k, here, owner, found, queue, state⟩ := Floor.post?_eq_some.mp post
    exact ⟨s, t, k, here, owner, found, queue, Or.inr state⟩

theorem Manager.mem_placed_of_flight {flight : Flight} (member : flight ∈ m.flights) :
    flight.slice ∈ m.placed floor := by
  unfold Manager.placed
  exact List.mem_append_right _ (List.mem_append_right _ (List.mem_map_of_mem member))

/-- A flight that is up has a slice that its manager's tracker owns. -/
theorem Manager.Places.flight (places : m.Places floor) {flight : Flight}
    (member : flight ∈ m.flights) : ∃ s t k, floor.slices[flight.slice]? = some s ∧
      s.owner = some t ∧ floor.trackers[t]? = some k ∧ k.queue = m.queue ∧
      (s.state = .pending ∨ s.state = .cancelled) :=
  places.slice (mem_placed_of_flight member)

/-- What the end of a flight does. -/
theorem Manager.Site.Sound.landing {site site' : Site} (sound : site.Sound) {number : Nat}
    {outcome : Outcome} (landed : site.2.land? site.1 number outcome = some site') :
    ∃ flight t k s, site.2.flights.find? (fun flight => flight.number = number) = some flight ∧
      site.1.slices[flight.slice]? = some s ∧ s.owner = some t ∧
      site.1.trackers[t]? = some k ∧ k.queue = site.2.queue ∧
      Floor.Landed site.1 t k flight.slice s site.2.home.address outcome site'.1 ∧
      site'.2 = { site.2 with
        flights := site.2.flights.filter fun other => other.number ≠ number
        active := site.2.active.filter fun slot => slot ≠ s.slot
        free := site.2.free + 1 } := by
  rw [Manager.land?] at landed
  split at landed
  · cases landed
  · next flight aloft =>
      obtain ⟨s, t, k, here, owner, found, queue, state⟩ :=
        sound.places.flight (List.mem_of_find?_eq_some aloft)
      simp only [here] at landed
      cases landed
      exact ⟨flight, t, k, s, aloft, here, owner, found, queue,
        sound.floor.landed here owner found state, rfl⟩

theorem Manager.Move.of_land {site site' : Site} (sound : site.Sound) {number : Nat}
    {outcome : Outcome} (landed : site.2.land? site.1 number outcome = some site') :
    Move site site' := by
  obtain ⟨flight, t, k, s, aloft, here, owner, found, queue, landed, after⟩ := sound.landing landed
  obtain ⟨floor, m⟩ := site
  obtain ⟨next, m'⟩ := site'
  cases after
  exact .land aloft here owner found queue landed

theorem Manager.Moves.start {site : Site} : Moves site (site.1, site.2.start.1) := by
  rw [Manager.start]
  split
  · next unborn => exact .single (.start unborn)
  · exact .refl

/-! The worker leaves slices, trackers and jobs alone. -/

theorem Manager.take?_tables {site site' : Site} (taken : site.2.take? site.1 = some site') :
    site'.1.trackers = site.1.trackers ∧ site'.1.slices = site.1.slices ∧
      site'.2.jobs = site.2.jobs := by
  rw [Manager.take?] at taken
  split at taken
  · cases taken
    exact ⟨rfl, rfl, rfl⟩
  · cases taken

theorem Manager.obtain?_tables {site site' : Site}
    (granted : site.2.obtain? site.1 = some site') :
    site'.1.trackers = site.1.trackers ∧ site'.1.slices = site.1.slices ∧
      site'.2.jobs = site.2.jobs := by
  rw [Manager.obtain?] at granted
  split at granted
  · cases granted
    exact ⟨rfl, rfl, rfl⟩
  · cases granted

theorem Manager.proceed?_tables {site site' : Site}
    (proceeded : site.2.proceed? site.1 = some site') :
    site'.1.trackers = site.1.trackers ∧ site'.1.slices = site.1.slices ∧
      site'.2.jobs = site.2.jobs := by
  rw [Manager.proceed?] at proceeded
  split at proceeded
  · split at proceeded
    · split at proceeded
      · cases proceeded
        exact ⟨rfl, rfl, rfl⟩
      · cases proceeded
        exact ⟨rfl, rfl, rfl⟩
    · cases proceeded
      exact ⟨rfl, rfl, rfl⟩
  · cases proceeded

theorem Manager.quit?_tables {site site' : Site} (quit : site.2.quit? site.1 = some site') :
    site'.1.trackers = site.1.trackers ∧ site'.1.slices = site.1.slices ∧
      site'.2.jobs = site.2.jobs := by
  rw [Manager.quit?] at quit
  split at quit
  · cases quit
    exact ⟨rfl, rfl, rfl⟩
  · cases quit
    exact ⟨rfl, rfl, rfl⟩
  · cases quit

theorem Manager.Move.of_take {site site' : Site} (taken : site.2.take? site.1 = some site') :
    Move site site' := by
  obtain ⟨floor, m⟩ := site
  rw [Manager.take?] at taken
  split at taken
  · next slice rest idle waiting =>
      cases taken
      obtain ⟨q, queue, list⟩ := Option.map_eq_some_iff.mp waiting
      exact .take idle queue list
  · cases taken

theorem Manager.Move.of_obtain {site site' : Site} (granted : site.2.obtain? site.1 = some site') :
    Move site site' := by
  obtain ⟨floor, m⟩ := site
  rw [Manager.obtain?] at granted
  split at granted
  · next slice free waiting permit =>
      cases granted
      exact .grant waiting permit
  · cases granted

theorem Manager.Move.of_proceed {site site' : Site}
    (proceeded : site.2.proceed? site.1 = some site') : Move site site' := by
  obtain ⟨floor, m⟩ := site
  rw [Manager.proceed?] at proceeded
  split at proceeded
  · next slice ready =>
      cases here : floor.slices[slice]? with
      | none =>
          simp only [here] at proceeded
          cases proceeded
          exact .skip ready fun s found => by
            rw [here] at found
            cases found
      | some s =>
          simp only [here] at proceeded
          split at proceeded
          · next pending =>
              cases proceeded
              exact .pass ready here pending
          · next past =>
              cases proceeded
              exact .skip ready fun s found => by
                rw [here] at found
                cases found
                exact past
  · cases proceeded

theorem Manager.Move.of_quit {site site' : Site} (quit : site.2.quit? site.1 = some site') :
    Move site site' := by
  obtain ⟨floor, m⟩ := site
  rw [Manager.quit?] at quit
  split at quit
  · next stopping _ =>
      cases quit
      exact .quit stopping
  · next stopping _ =>
      cases quit
      exact .quit stopping
  · cases quit

theorem Manager.Moves.same {site site' : Site} (moves : Moves site site') :
    site'.2.home = site.2.home ∧ site'.2.queue = site.2.queue ∧
      (site'.2.stopping = false → site.2.stopping = false) := by
  induction moves with
  | refl => exact ⟨rfl, rfl, id⟩
  | tail _ move ih =>
      obtain ⟨home, queue, stopping⟩ := move.same
      exact ⟨home.trans ih.1, queue.trans ih.2.1, fun going => ih.2.2 (stopping going)⟩

/-- A manager works within its own queue. -/
theorem Manager.Moves.within {site site' : Site} (moves : Moves site site') (sound : site.Sound) :
    Floor.Within site.2.queue site.1 site'.1 := by
  induction moves with
  | refl => exact .refl
  | tail before move ih =>
      have after := move.within (Moves.sound before sound).floor
      rw [(Moves.same before).2.1] at after
      exact ih.trans after

/-- Every act of a sound manager is a chain of moves. -/
theorem Manager.Site.Sound.act {site site' : Site} (sound : site.Sound) {act : Act}
    (done : Manager.act? site act = some site') : Moves site site' := by
  cases act with
  | submit i descriptor =>
      cases done
      exact .submit sound i descriptor
  | update descriptor =>
      cases done
      exact .update sound descriptor
  | remove job =>
      cases done
      exact .remove sound job
  | sweep trouble now disk =>
      have sweep := site.2.sweep_eq site.1 trouble now disk
      rw [← Option.some.inj (done.symm.trans (congrArg some sweep)).symm]
      exact .removeAll sound _
  | start =>
      cases done
      exact .start
  | stop =>
      cases done
      exact .single .stop
  | take => exact .single (.of_take done)
  | grant => exact .single (.of_obtain done)
  | proceed => exact .single (.of_proceed done)
  | quit => exact .single (.of_quit done)
  | land number ending => exact .single (.of_land sound done)

end Restage
