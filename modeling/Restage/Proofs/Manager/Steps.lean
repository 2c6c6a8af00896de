import Restage.Proofs.Manager.Sound

/-!
# Steps keep managers sound

`Manager.Move.sound` says that a move keeps a manager and its floor sound, part by part.
`Manager.Move.within` is the frame: a manager works within its own queue.
-/

namespace Restage

open Manager

variable {floor next : Floor} {m m' : Manager} {t : TrackerRef} {k k' : Tracker} {i : SliceRef}
  {s : Slice}

/-! ## Letting go of a tracker -/

theorem Floor.Reworks.discarded (sound : floor.Sound) (found : floor.trackers[t]? = some k) :
    Floor.Reworks t k { k with held := false } floor (floor.discarded t) := by
  have cancelled := Floor.Reworks.cancelAll sound found
  exact cancelled.trans
    (.modifyTracker (fun k => { k with held := false }) cancelled.after rfl rfl rfl)

@[simp] theorem Floor.queues_discarded : (floor.discarded t).queues = floor.queues :=
  Floor.queues_cancelAll

theorem Floor.slices_discarded :
    (floor.discarded t).slices[i]? =
      if i ∈ floor.membersOf t then (floor.slices[i]?).map Slice.cancelled
      else floor.slices[i]? :=
  Floor.slices_cancelAll

/-- What letting go of a tracker does to a slice that it owns. -/
theorem Floor.Sound.slices_discarded (sound : floor.Sound) (found : floor.trackers[t]? = some k)
    (here : floor.slices[i]? = some s) (owner : s.owner = some t) :
    (floor.discarded t).slices[i]? = some s.cancelled := by
  rw [Floor.slices_discarded, if_pos ((sound.mem_membersOf_iff found here).mpr owner), here,
    Option.map_some]

/-! ## The frame of a move -/

theorem Manager.Move.within {site site' : Site} (move : Move site site') (sound : site.1.Sound) :
    Floor.Within site.2.queue site.1 site'.1 := by
  cases move with
  | track new => exact .addTracker
  | accept found queue held fine here free job new =>
      rw [← queue]
      exact .admitted found here free
  | reopen found queue held fine here owner failed =>
      rw [← queue]
      refine (Floor.Reworks.reopened found here owner).within fun r other => ?_
      rw [Floor.reopened, Floor.queues_enqueue, if_neg (Ne.symm other), Floor.queues_modifySlice]
  | update found queue job =>
      rw [← queue]
      exact (Floor.Reworks.described found job).within fun _ _ => rfl
  | discard found queue tracked =>
      rw [← queue]
      exact (Floor.Reworks.discarded sound found).within fun _ _ => by rw [Floor.queues_discarded]
  | land aloft here owner found queue landed =>
      rw [← queue]
      obtain ⟨fatal, rework⟩ := landed.reworks sound here owner found
      exact rework.within fun _ _ => by rw [landed.queues]
  | start unborn => exact .refl
  | stop => exact .refl
  | take idle queue waiting =>
      refine .of_tables rfl rfl (fun r other => ?_) (Nat.le_refl _)
      rw [Floor.queues_modifyQueue, if_neg (Ne.symm other)]
  | grant waiting permit =>
      refine .of_tables rfl rfl (fun r other => ?_) (Nat.le_refl _)
      rw [Floor.queues_modifyQueue, if_neg (Ne.symm other)]
  | pass ready here pending => exact .of_tables rfl rfl (fun _ _ => rfl) (Nat.le_succ _)
  | skip ready past => exact .refl
  | quit stopping =>
      refine .of_tables rfl rfl (fun r other => ?_) (Nat.le_refl _)
      rw [Floor.queues_modifyQueue, if_neg (Ne.symm other)]

/-- A manager stays the one of its instance, with its queue, and never goes back on stopping. -/
theorem Manager.Move.same {site site' : Site} (move : Move site site') :
    site'.2.home = site.2.home ∧ site'.2.queue = site.2.queue ∧
      (site'.2.stopping = false → site.2.stopping = false) := by
  cases move with
  | stop => exact ⟨rfl, rfl, fun going => by cases going⟩
  | track | accept | reopen | update | discard | land | start | take | grant | pass | skip | quit =>
      exact ⟨rfl, rfl, id⟩

/-! ## The floor -/

theorem Manager.Move.floor_sound {site site' : Site} (move : Move site site')
    (sound : site.1.Sound) : site'.1.Sound := by
  cases move with
  | track new => exact sound.addTracker _ _
  | accept found queue held fine here free job new =>
      exact sound.admitted found here fine held free job new
  | reopen found queue held fine here owner failed =>
      exact sound.reopened found held fine here owner failed
  | update found queue job =>
      refine sound.rework (.modifyTracker _ found rfl job.symm rfl) ?_ fun f fatal =>
        sound.serial found fatal
      intro i s s' here owner there governs
      rw [Floor.slices_modifyTracker, here] at there
      cases there
      exact ⟨sound.slice here, governs.begun, governs.ended, governs.alive, governs.fatal⟩
  | discard found queue tracked =>
      refine sound.rework (.discarded sound found) ?_ fun f fatal => ?_
      · intro i s s' here owner there governs
        rw [sound.slices_discarded found here owner] at there
        cases there
        exact ⟨(sound.slice here).cancelled, governs.discard⟩
      · exact Nat.lt_of_lt_of_le (sound.serial found fatal)
          (Floor.Reworks.discarded sound found).minted
  | land aloft here owner found queue landed => exact sound.land landed here owner found
  | start unborn => exact sound
  | stop => exact sound
  | take idle queue waiting => exact sound.of_same rfl rfl (Nat.le_refl _)
  | grant waiting permit => exact sound.of_same rfl rfl (Nat.le_refl _)
  | pass ready here pending => exact sound.of_same rfl rfl (Nat.le_succ _)
  | skip ready past => exact sound
  | quit stopping => exact sound.of_same rfl rfl (Nat.le_refl _)

/-! ## The trackers of a manager -/

/-- What a manager knows a tracker by. -/
def Tracker.label (k : Tracker) : Bool × QueueRef × TimeId := (k.held, k.queue, k.descriptor.job.id)

theorem Manager.Tracks.of_label (tracks : m.Tracks floor) (jobs : m'.jobs = m.jobs)
    (queue : m'.queue = m.queue)
    (label : ∀ u : TrackerRef, (next.trackers[u]?).map Tracker.label =
      (floor.trackers[u]?).map Tracker.label) : m'.Tracks next where
  keys := by rw [jobs]; exact tracks.keys
  tracker := fun {job u} member => by
    rw [jobs] at member
    obtain ⟨k, found, held, post, same⟩ := tracks.tracker member
    have labels := label u
    rw [found, Option.map_some, Option.map_eq_some_iff] at labels
    obtain ⟨k', there, alike⟩ := labels
    simp only [Tracker.label, Prod.mk.injEq] at alike
    exact ⟨k', there, alike.1.trans held, alike.2.1.trans (post.trans queue.symm),
      alike.2.2.trans same⟩
  held := fun {u k'} there held post => by
    have labels := (label u).symm
    rw [there, Option.map_some, Option.map_eq_some_iff] at labels
    obtain ⟨k, found, alike⟩ := labels
    simp only [Tracker.label, Prod.mk.injEq] at alike
    rw [jobs, ← alike.2.2]
    exact tracks.held found (alike.1.trans held) (alike.2.1.trans (post.trans queue))

theorem Floor.Reworks.label (rework : Floor.Reworks t k k' floor next) (held : k'.held = k.held)
    (u : TrackerRef) :
    (next.trackers[u]?).map Tracker.label = (floor.trackers[u]?).map Tracker.label := by
  by_cases same : u = t
  · subst same
    rw [rework.after, rework.before, Option.map_some, Option.map_some, Tracker.label,
      Tracker.label, held, rework.queue, rework.job]
  · rw [rework.others u same]

theorem Floor.label_admitted (found : floor.trackers[t]? = some k) (u : TrackerRef) :
    ((floor.admitted t k i s).trackers[u]?).map Tracker.label =
      (floor.trackers[u]?).map Tracker.label := by
  rw [Floor.trackers_admitted found]
  split
  · next same =>
      subst same
      rw [found]
      rfl
  · rfl

theorem Manager.Tracks.track (tracks : m.Tracks floor) {descriptor : Descriptor}
    (new : m.tracker? descriptor.job.id = none) :
    (m.tracking descriptor.job.id floor.trackers.size).Tracks
      (floor.addTracker (.fresh descriptor m.queue)).1 where
  keys := by
    rw [Manager.tracking, List.map_append, List.map_cons, List.map_nil]
    refine List.Nodup.append tracks.keys (List.nodup_singleton _) ?_
    rw [List.disjoint_singleton]
    exact Table.notMem_keys_of_lookup new
  tracker := fun {job u} member => by
    rw [Floor.trackers_addTracker]
    rcases List.mem_append.mp member with member | member
    · obtain ⟨k, found, rest⟩ := tracks.tracker member
      rw [if_neg (Floor.tracker_ne_size found)]
      exact ⟨k, found, rest⟩
    · rw [List.mem_singleton] at member
      cases member
      exact ⟨.fresh descriptor m.queue, if_pos rfl, rfl, rfl, rfl⟩
  held := fun {u k} there held queue => by
    rw [Floor.trackers_addTracker] at there
    split at there
    · next same =>
        cases there
        rw [same]
        exact List.mem_append_right _ List.mem_cons_self
    · exact List.mem_append_left _ (tracks.held there held queue)

theorem Manager.Tracks.discard (tracks : m.Tracks floor) (sound : floor.Sound) {job : TimeId}
    (tracked : m.tracker? job = some t) (found : floor.trackers[t]? = some k) :
    (m.without job).Tracks (floor.discarded t) := by
  have rework := Floor.Reworks.discarded sound found
  have member := Table.mem_of_lookup tracked
  refine ⟨(List.filter_sublist.map _).nodup tracks.keys, ?_, ?_⟩
  · intro job' u member'
    rw [Manager.without, List.mem_filter] at member'
    obtain ⟨k', found', held, queue, label⟩ := tracks.tracker member'.1
    have apart : u ≠ t := by
      rintro rfl
      obtain ⟨k₁, found₁, -, -, label₁⟩ := tracks.tracker member
      rw [found'] at found₁
      cases found₁
      have other : job' ≠ job := by simpa using member'.2
      exact other (label.symm.trans label₁)
    exact ⟨k', (rework.others u apart).trans found', held, queue, label⟩
  · intro u k' there held queue
    have apart : u ≠ t := by
      rintro rfl
      rw [rework.after] at there
      cases there
      cases held
    rw [rework.others u apart] at there
    have member' := tracks.held there held queue
    rw [Manager.without, List.mem_filter]
    refine ⟨member', ?_⟩
    have other : k'.descriptor.job.id ≠ job := by
      intro same
      rw [same] at member'
      have twice := (Table.lookup_of_mem tracks.keys member').symm.trans tracked
      cases twice
      exact apart rfl
    simpa using other

theorem Manager.Move.tracks {site site' : Site} (move : Move site site') (sound : site.Sound) :
    site'.2.Tracks site'.1 := by
  have tracks := sound.tracks
  cases move with
  | track new => exact tracks.track new
  | accept found queue held fine here free job new =>
      exact tracks.of_label rfl rfl (Floor.label_admitted found)
  | reopen found queue held fine here owner failed =>
      exact tracks.of_label rfl rfl ((Floor.Reworks.reopened found here owner).label rfl)
  | update found queue job =>
      exact tracks.of_label rfl rfl ((Floor.Reworks.described found job).label rfl)
  | discard found queue tracked => exact tracks.discard sound.floor tracked found
  | land aloft here owner found queue landed =>
      obtain ⟨fatal, rework⟩ := landed.reworks sound.floor here owner found
      exact tracks.of_label rfl rfl (rework.label rfl)
  | start | stop | take | grant | pass | skip | quit =>
      exact tracks.of_label rfl rfl fun _ => rfl

/-! ## The places of slices -/

theorem Manager.Places.quit (places : m.Places floor) (stopping : m.stopping = true) :
    ({ m with worker := .gone } : Manager).Places
      (floor.modifyQueue m.queue fun queue => { queue with waiting := [], closed := true }) := by
  obtain ⟨found, here, -⟩ := places.usable
  have there : (floor.modifyQueue m.queue fun queue =>
      { queue with waiting := [], closed := true }).queues[m.queue]? =
      some { found with waiting := [], closed := true } := by
    rw [Floor.queues_modifyQueue, if_pos rfl, here, Option.map_some]
  have placed : ({ m with worker := .gone } : Manager).placed (floor.modifyQueue m.queue
      fun queue => { queue with waiting := [], closed := true }) =
      m.flights.map Flight.slice := by
    rw [Manager.placed, Floor.waiting_of there]
    rfl
  have fewer : (m.flights.map Flight.slice).Sublist (m.placed floor) := by
    rw [Manager.placed, ← List.append_assoc]
    exact List.sublist_append_right _ _
  refine ⟨⟨_, there, fun _ => stopping⟩, ?_, ?_, ?_⟩
  · rw [placed]
    exact fewer.nodup places.once
  · intro i inside
    rw [placed] at inside
    exact places.posted (fewer.mem inside)
  · intro going
    rw [stopping] at going
    cases going

theorem Manager.Places.take (places : m.Places floor) {q : Queue} {rest : List SliceRef}
    (idle : m.worker = .idle) (queue : floor.queues[m.queue]? = some q)
    (waiting : q.waiting = i :: rest) :
    ({ m with worker := .waiting i } : Manager).Places
      (floor.modifyQueue m.queue fun queue => { queue with waiting := rest }) := by
  have there : (floor.modifyQueue m.queue fun queue =>
      { queue with waiting := rest }).queues[m.queue]? = some { q with waiting := rest } := by
    rw [Floor.queues_modifyQueue, if_pos rfl, queue, Option.map_some]
  obtain ⟨found, here, closed⟩ := places.usable
  rw [queue] at here
  cases here
  refine places.ease rfl ⟨_, there, closed⟩ id ?_ fun j => Or.inl rfl
  rw [Manager.placed, Manager.placed, Floor.waiting_of there, Floor.waiting_of queue, waiting, idle]
  exact List.perm_middle

theorem Manager.Places.grant (places : m.Places floor) {free : Nat}
    (waiting : m.worker = .waiting i) :
    ({ m with worker := .ready i, free := free } : Manager).Places
      (floor.modifyQueue m.queue fun queue => { queue with counted := queue.counted - 1 }) := by
  obtain ⟨found, here, closed⟩ := places.usable
  have there : (floor.modifyQueue m.queue fun queue =>
      { queue with counted := queue.counted - 1 }).queues[m.queue]? =
      some { found with counted := found.counted - 1 } := by
    rw [Floor.queues_modifyQueue, if_pos rfl, here, Option.map_some]
  refine places.ease rfl ⟨_, there, closed⟩ id ?_ fun j => Or.inl rfl
  rw [Manager.placed, Manager.placed, Floor.waiting_of there, Floor.waiting_of here, waiting]
  exact List.Perm.refl _

theorem Manager.Places.discard (places : m.Places floor) (sound : floor.Sound) {job : TimeId}
    (found : floor.trackers[t]? = some k) (queue : k.queue = m.queue) :
    (m.without job).Places (floor.discarded t) := by
  have rework := Floor.Reworks.discarded sound found
  have same : (m.without job).placed (floor.discarded t) = m.placed floor := by
    rw [Manager.placed, Manager.placed, Floor.waiting, Floor.waiting, Floor.queues_discarded]
    rfl
  refine places.ease rfl ?_ id (by rw [same]) fun j => ?_
  · rw [Floor.queues_discarded]
    exact places.usable
  · rw [← queue]
    refine rework.eases fun s here owner => ⟨?_, sound.slices_discarded found here owner⟩
    obtain ⟨-, -, governs⟩ := sound.owned here owner found
    exact governs.begun

theorem Manager.Places.land {number : Nat} {flight : Flight} {outcome : Outcome}
    (places : m.Places floor) (sound : floor.Sound) (numbers : m.Numbers floor)
    (aloft : m.flights.find? (fun flight => flight.number = number) = some flight)
    (here : floor.slices[flight.slice]? = some s) (owner : s.owner = some t)
    (found : floor.trackers[t]? = some k) (queue : k.queue = m.queue)
    (landed : Floor.Landed floor t k flight.slice s m.home.address outcome next) :
    ({ m with
      flights := m.flights.filter fun other => other.number ≠ number
      active := m.active.filter fun slot => slot ≠ s.slot
      free := m.free + 1 } : Manager).Places next := by
  obtain ⟨⟨state, past, gone⟩, eases⟩ := landed.post? sound here owner found
  rw [queue] at gone eases
  refine places.drop rfl rfl landed.queues ?_ ?_ gone eases
  · have flights := (Flight.perm_of_find numbers.own aloft).map Flight.slice
    rw [Manager.placed, Manager.placed, Floor.waiting, Floor.waiting, landed.queues]
    refine ((flights.append_left _).append_left _).trans ?_
    rw [List.map_cons]
    refine (List.Perm.append_left _ List.perm_middle).trans ?_
    exact List.perm_middle
  · rintro rfl
    exact absurd past (by decide)

theorem Manager.Move.places {site site' : Site} (move : Move site site') (sound : site.Sound) :
    site'.2.Places site'.1 := by
  have places := sound.places
  have clean := sound.floor
  cases move with
  | track new =>
      exact places.ease rfl places.usable id (List.Perm.refl _) fun j =>
        Or.inl clean.post?_addTracker
  | @accept floor m t k i s found queue held fine here free job new =>
      have none := Floor.post?_of_free here free
      refine places.gain (i := i) (fun q there => ?_) ?_ fun j => ?_
      · rw [Floor.admitted, Floor.queues_enqueue, if_pos queue, Floor.queues_addMember,
          Floor.queues_modifySlice, there, Option.map_some]
      · rw [none]
        exact ⟨(Option.some_ne_none _).symm, (Option.some_ne_none _).symm⟩
      · rw [Floor.post?_admitted found here, queue]
  | @reopen floor m t k i s found queue held fine here owner failed =>
      have post := Floor.post?_of here owner found
      refine places.gain (i := i) (fun q there => ?_) ?_ fun j => ?_
      · rw [Floor.reopened, Floor.queues_enqueue, if_pos queue, Floor.queues_modifySlice, there,
          Option.map_some]
      · rw [post, failed]
        exact ⟨by simp, by simp⟩
      · rw [Floor.post?_reopened found here owner, queue]
  | @update floor m t k descriptor found queue job =>
      have rework := Floor.Reworks.described found job
      exact places.ease rfl places.usable id (List.Perm.refl _) fun j =>
        Or.inl (Floor.post?_congr rfl fun s u _ _ => rework.queue_eq u)
  | discard found queue tracked => exact places.discard clean found queue
  | land aloft here owner found queue landed =>
      exact places.land clean sound.numbers aloft here owner found queue landed
  | start unborn =>
      refine places.ease rfl places.usable id ?_ fun j => Or.inl rfl
      rw [Manager.placed, Manager.placed, unborn]
      exact List.Perm.refl _
  | @stop floor m =>
      obtain ⟨found, here, closed⟩ := places.usable
      refine places.ease rfl ⟨found, here, fun _ => rfl⟩ (fun going => ?_) (List.Perm.refl _)
        fun j => Or.inl rfl
      cases going
  | take idle queue waiting => exact places.take idle queue waiting
  | grant waiting permit => exact places.grant waiting
  | @pass floor m i s ready here pending =>
      refine places.ease rfl places.usable id ?_ fun j => Or.inl rfl
      have moved : (m.flights.map Flight.slice ++ [i]).Perm (i :: m.flights.map Flight.slice) :=
        List.perm_append_singleton _ _
      rw [Manager.placed, Manager.placed, ready, List.map_append]
      exact moved.append_left _
  | @skip floor m i ready past =>
      have inside : i ∈ m.placed floor := by
        rw [Manager.placed, ready]
        exact List.mem_append_right _ List.mem_cons_self
      have post : floor.post? i = some (m.queue, .cancelled) := by
        refine (places.posted inside).resolve_left fun pending => ?_
        obtain ⟨s, -, -, here, -, -, -, state⟩ := Floor.post?_eq_some.mp pending
        exact past s here state
      refine places.drop rfl rfl rfl ?_ SliceState.noConfusion post fun j _ => Or.inl rfl
      rw [Manager.placed, Manager.placed, ready]
      exact List.perm_middle
  | quit stopping => exact places.quit stopping

/-! ## The numbers of flights -/

theorem Manager.Move.numbers {site site' : Site} (move : Move site site') (sound : site.Sound) :
    site'.2.Numbers site'.1 := by
  have numbers := sound.numbers
  have within := move.within sound.floor
  cases move with
  | track | accept | reopen | update | discard | start | stop | take | grant | skip | quit =>
      exact numbers.mono rfl within.minted
  | land => exact numbers.land within.minted
  | pass => exact numbers.pass

theorem Manager.Move.sound {site site' : Site} (move : Move site site') (sound : site.Sound) :
    site'.Sound where
  floor := move.floor_sound sound.floor
  tracks := move.tracks sound
  places := move.places sound
  numbers := move.numbers sound

theorem Manager.Moves.sound {site site' : Site} (moves : Moves site site') (sound : site.Sound) :
    site'.Sound := by
  induction moves with
  | refl => exact sound
  | tail _ move ih => exact move.sound ih

end Restage
