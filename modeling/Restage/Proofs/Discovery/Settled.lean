import Restage.Proofs.Discovery.Turns

/-!
# Jobs that are settled

A job is settled when every instance has each slice that a cycle would give it, none of them failed,
and shows the job as it is in the store. Giving out the slices of a job until no instance objects
settles it (`Panorama.give_settles`), and a visit to a settled job comes to nothing: slices are built
and dropped again, and a descriptor is replaced by one that says the same
(`Discovery.Pass.workOn_settled`).
-/

namespace Restage

open Manager Discovery

/-! ## Slots -/

/-- A slice is under a slot that does not have to be tried once more. -/
def Portrait.Settles (slot : Slot) (seen : Option Portrait) : Prop :=
  ∃ portrait ∈ seen, portrait.fatal = none ∧ ∃ face ∈ portrait.faces slot, face.state ≠ .failed

namespace Portrait

variable {portrait : Portrait} {seen : Option Portrait} {slot other : Slot} {tag : Tag} {job : Job}
  {piece : Piece} {standing : Standing}

/-- What a submission that is not answered with a failure finds. -/
inductive Received (portrait : Portrait) (slot : Slot) (tag : Tag) : Reply → Prop
  | failed {f : FatalFailure} (fatal : portrait.fatal = some f) :
    Received portrait slot tag ⟨portrait, [], .error f⟩
  | put {face : Face} {standing : Standing} (fine : portrait.fatal = none)
    (pending : face.state = .pending)
    (bad : ∀ old ∈ portrait.faces slot, old.state = .failed) :
    Received portrait slot tag ⟨portrait.put slot face, [face.tag], .ok standing⟩
  | kept {face : Face} {standing : Standing} (fine : portrait.fatal = none)
    (known : portrait.faces slot = some face) (good : face.state ≠ .failed)
    (old : standing ≠ .created) : Received portrait slot tag ⟨portrait, [], .ok standing⟩

theorem received (portrait : Portrait) (slot : Slot) (tag : Tag) :
    Received portrait slot tag (portrait.receive slot tag) := by
  cases fatal : portrait.fatal with
  | some f =>
      rw [receive_fatal fatal]
      exact .failed fatal
  | none =>
      cases known : portrait.faces slot with
      | none =>
          rw [receive_new fatal known]
          exact @Received.put _ _ _ ⟨tag, .pending, none⟩ _ fatal rfl fun old here => by
            rw [known] at here
            cases here
      | some face =>
          obtain ⟨old, state, failure⟩ := face
          by_cases finished : state = .completed
          · subst finished
            rw [receive_completed fatal known]
            exact .kept fatal known SliceState.noConfusion Standing.noConfusion
          · by_cases bad : state = .failed
            · subst bad
              rw [receive_failed fatal known]
              exact @Received.put _ _ _ ⟨old, .pending, none⟩ _ fatal rfl fun old here => by
                rw [known] at here
                cases here
                rfl
            · rw [receive_underway fatal known finished bad]
              exact .kept fatal known bad Standing.noConfusion

/-- What was offered and not objected to settles its slot. -/
theorem offer_settles (taken : (offer job piece seen).answer = .ok standing) :
    Settles piece.slot (some (offer job piece seen).shown) := by
  unfold offer at *
  have received := received (seen.getD (.blank job)) piece.slot ⟨none, piece⟩
  generalize (seen.getD (.blank job)).receive piece.slot ⟨none, piece⟩ = reply at *
  cases received with
  | failed fatal => cases taken
  | @put face standing fine pending bad =>
      refine ⟨_, rfl, fine, face, if_pos rfl, ?_⟩
      rw [pending]
      exact SliceState.noConfusion
  | kept fine known good old => exact ⟨_, rfl, fine, _, known, good⟩

/-- A slot stays settled when another piece is offered, or the same once more. -/
theorem Settles.offer (settles : Settles other seen) :
    Settles other (some (offer job piece seen).shown) := by
  obtain ⟨portrait, rfl, fine, face, known, good⟩ := settles
  unfold Portrait.offer
  rw [Option.getD_some]
  have received := received portrait piece.slot ⟨none, piece⟩
  generalize portrait.receive piece.slot ⟨none, piece⟩ = reply at *
  cases received with
  | failed fatal => exact ⟨_, rfl, fine, face, known, good⟩
  | @put face' standing fine' pending bad =>
      by_cases same : other = piece.slot
      · exact absurd (bad face (same ▸ known)) good
      · exact ⟨_, rfl, fine, face, (if_neg same).trans known, good⟩
  | kept => exact ⟨_, rfl, fine, face, known, good⟩

/-- To offer a piece whose slot is settled comes to nothing. -/
theorem Settles.reply (settles : Settles piece.slot seen) :
    seen = some (Portrait.offer job piece seen).shown ∧
      (Portrait.offer job piece seen).queued = [] ∧
      ∃ standing, (Portrait.offer job piece seen).answer = .ok standing ∧ standing ≠ .created := by
  obtain ⟨portrait, rfl, fine, face, known, good⟩ := settles
  unfold Portrait.offer
  rw [Option.getD_some]
  have received := received portrait piece.slot ⟨none, piece⟩
  generalize portrait.receive piece.slot ⟨none, piece⟩ = reply at *
  cases received with
  | failed fatal =>
      rw [fine] at fatal
      cases fatal
  | put fine' pending bad => exact absurd (bad face known) good
  | kept fine' known' good' old => exact ⟨rfl, rfl, _, rfl, old⟩

/-- An instance shows a job as it was offered or shown before. -/
theorem offer_job (labelled : ∀ portrait ∈ seen, portrait.job = job) :
    (offer job piece seen).shown.job = job := by
  have before : (seen.getD (.blank job)).job = job := by
    cases seen with
    | none => rfl
    | some portrait => exact labelled portrait rfl
  unfold offer
  have received := received (seen.getD (.blank job)) piece.slot ⟨none, piece⟩
  generalize (seen.getD (.blank job)).receive piece.slot ⟨none, piece⟩ = reply at *
  cases received <;> exact before

end Portrait

/-! ## Panoramas -/

/-- Whether an instance has each of some pieces of a job, and every instance shows the job. -/
structure Panorama.Settled (job : Job) (pieces : List (UInt32 × Piece)) (view : Panorama) :
    Prop where
  labelled : ∀ id, ∀ portrait ∈ view.seen id, portrait.job = job
  settled : ∀ id piece, (id, piece) ∈ pieces → Portrait.Settles piece.slot (view.seen id)

namespace Panorama

variable {job : Job} {view view' : Panorama} {pieces : List (UInt32 × Piece)} {fresh : Nat}
  {id : UInt32} {slot : Slot} {piece : Piece}

theorem seen_offered {other : UInt32} : (view.offered job id piece).seen other =
    if other = id then some (Portrait.offer job piece (view.seen id)).shown
    else view.seen other := rfl

theorem labelled_offered (labelled : ∀ id, ∀ portrait ∈ view.seen id, portrait.job = job)
    (other : UInt32) : ∀ portrait ∈ (view.offered job id piece).seen other, portrait.job = job := by
  intro portrait shown
  rw [seen_offered] at shown
  split at shown
  · cases shown
    exact Portrait.offer_job (labelled id)
  · exact labelled other portrait shown

theorem settles_offered {other : UInt32} (settles : Portrait.Settles slot (view.seen other)) :
    Portrait.Settles slot ((view.offered job id piece).seen other) := by
  rw [seen_offered]
  split
  · next same => exact (same ▸ settles).offer
  · exact settles

theorem settles_give {other : UInt32} (settles : Portrait.Settles slot (view.seen other))
    (taken : view.give job pieces = (view', .ok fresh)) :
    Portrait.Settles slot (view'.seen other) := by
  induction pieces generalizing view fresh with
  | nil =>
      cases taken
      exact settles
  | cons offer rest ih =>
      obtain ⟨standing, count, -, later, -⟩ := give_taken taken
      exact ih (settles_offered settles) later

/-- Pieces that were given out to the last are settled. -/
theorem give_settles (labelled : ∀ id, ∀ portrait ∈ view.seen id, portrait.job = job)
    (taken : view.give job pieces = (view', .ok fresh)) : Panorama.Settled job pieces view' := by
  induction pieces generalizing view fresh with
  | nil =>
      cases taken
      exact ⟨labelled, nofun⟩
  | cons offer rest ih =>
      obtain ⟨id, piece⟩ := offer
      obtain ⟨standing, count, answer, later, -⟩ := give_taken taken
      obtain ⟨labelled', settled⟩ := ih (labelled_offered labelled) later
      refine ⟨labelled', fun id' piece' listed => ?_⟩
      rcases List.mem_cons.mp listed with here | listed
      · cases here
        refine settles_give ?_ later
        rw [seen_offered, if_pos rfl]
        exact Portrait.offer_settles answer
      · exact settled id' piece' listed

end Panorama

/-! ## The floor under a settled job -/

/-- What a tracker is without the serial number of its descriptor. -/
def Tracker.unnumbered (k : Tracker) : Tracker := { k with descriptor := ⟨0, k.descriptor.job⟩ }

/-- Nothing has become of a floor but that slices were built and descriptors made. -/
structure Floor.Still (floor next : Floor) : Prop where
  queues : next.queues = floor.queues
  trackers : ∀ t : TrackerRef, (next.trackers[t]?).map Tracker.unnumbered =
    (floor.trackers[t]?).map Tracker.unnumbered
  slices : ∀ (i : SliceRef) (s : Slice), floor.slices[i]? = some s → next.slices[i]? = some s

/-- Nothing has become of a group but that slices were built and descriptors made. -/
structure Group.Still (group group' : Group) : Prop where
  managers : group'.managers = group.managers
  floor : Floor.Still group.floor group'.floor

variable {floor next last : Floor} {group group' group'' : Group} {m : Manager}
  {rest : List Manager} {descriptor : Descriptor} {record : SliceRecord} {job : TimeId}

theorem Floor.Still.refl : Floor.Still floor floor := ⟨rfl, fun _ => rfl, fun _ _ here => here⟩

theorem Floor.Still.trans (first : Floor.Still floor next) (second : Floor.Still next last) :
    Floor.Still floor last where
  queues := second.queues.trans first.queues
  trackers := fun t => (second.trackers t).trans (first.trackers t)
  slices := fun i s here => second.slices i s (first.slices i s here)

theorem Group.Still.refl : Group.Still group group := ⟨rfl, .refl⟩

theorem Group.Still.trans (first : Group.Still group group') (second : Group.Still group' group'') :
    Group.Still group group'' :=
  ⟨second.managers.trans first.managers, first.floor.trans second.floor⟩

theorem Floor.Still.addSlice {s : Slice} : Floor.Still floor (floor.addSlice s).1 where
  queues := rfl
  trackers := fun _ => rfl
  slices := fun i s here => by
    rw [Floor.slices_addSlice, if_neg (Floor.slice_ne_size here)]
    exact here

/-- A descriptor is replaced by one that says the same. -/
theorem Floor.Still.updateJob (same : ∀ t k, m.tracker? descriptor.job.id = some t →
      floor.trackers[t]? = some k → k.descriptor.job = descriptor.job) :
    Floor.Still floor (m.updateJob floor descriptor) := by
  unfold Manager.updateJob
  cases tracked : m.tracker? descriptor.job.id with
  | none => exact .refl
  | some t =>
      refine ⟨rfl, fun u => ?_, fun _ _ here => here⟩
      simp only
      rw [Floor.trackers_modifyTracker]
      split
      · next here =>
          subst here
          cases found : floor.trackers[t]? with
          | none => rfl
          | some k =>
              rw [Option.map_some, Option.map_some, Option.map_some, Tracker.unnumbered,
                Tracker.unnumbered, same t k tracked found]
      · rfl

theorem Floor.Still.tracker (still : Floor.Still floor next) {t : TrackerRef} {k : Tracker}
    (found : next.trackers[t]? = some k) :
    ∃ k', floor.trackers[t]? = some k' ∧ k'.unnumbered = k.unnumbered := by
  have same := still.trackers t
  rw [found, Option.map_some] at same
  exact Option.map_eq_some_iff.mp same.symm

theorem Floor.Still.updateEach {managers : List Manager}
    (same : ∀ m ∈ managers, ∀ t k, m.tracker? descriptor.job.id = some t →
      floor.trackers[t]? = some k → k.descriptor.job = descriptor.job) :
    Floor.Still floor (managers.foldl (fun floor m => m.updateJob floor descriptor) floor) := by
  induction managers generalizing floor with
  | nil => exact .refl
  | cons m rest ih =>
      have first : Floor.Still floor (m.updateJob floor descriptor) :=
        .updateJob (same m List.mem_cons_self)
      refine first.trans (ih fun other inside t k tracked found => ?_)
      obtain ⟨k', found', alike⟩ := first.tracker found
      have said : k'.descriptor.job = k.descriptor.job := congrArg (·.descriptor.job) alike
      rw [← said]
      exact same other (List.mem_cons_of_mem _ inside) t k' tracked found'

/-- Where nothing has become of the floor all portraits stay. -/
theorem Floor.Still.portrait? {base : Nat} (still : Floor.Still floor next)
    (sound : Site.Sound (floor, m)) :
    Site.portrait? base (next, m) job = Site.portrait? base (floor, m) job := by
  cases tracked : m.tracker? job with
  | none => rw [Site.portrait?_untracked tracked, Site.portrait?_untracked tracked]
  | some t =>
      obtain ⟨k, found, -⟩ := sound.tracks.of_tracked tracked
      have same := still.trackers t
      rw [found, Option.map_some] at same
      obtain ⟨k', found', alike⟩ := Option.map_eq_some_iff.mp same
      have said : k'.descriptor.job = k.descriptor.job := congrArg (·.descriptor.job) alike
      have fatal : k'.fatal = k.fatal := congrArg (·.fatal) alike
      have members : k'.members = k.members := congrArg (·.members) alike
      have faces : next.face? base k' = floor.face? base k := funext fun slot =>
        sound.floor.face?_congr found (by rw [members]) fun j s _ here _ => still.slices j s here
      rw [Site.portrait?_tracked tracked found, Site.portrait?_tracked tracked found',
        Floor.portrait, Floor.portrait, said, fatal, faces]

theorem Group.Still.portrait? {base : Nat} {id : UInt32} (still : Group.Still group group')
    (sound : group.Sound) : group'.portrait? base id job = group.portrait? base id job := by
  unfold Group.portrait? Group.manager?
  rw [still.managers]
  cases managed : group.managers.find? fun m => m.home.id = id with
  | none => rfl
  | some m => exact still.floor.portrait? (sound.manager (List.mem_of_find?_eq_some managed))

/-! ## Visits to settled jobs -/

/-- A slice that was just built is not taken when its slot is settled. -/
theorem Manager.Site.Sound.submit_settled {i : SliceRef} {s : Slice}
    (sound : Site.Sound (floor, m)) (here : floor.slices[i]? = some s) (free : s.owner = none)
    (of : s.piece.job = descriptor.job.id)
    (settles : Portrait.Settles s.slot (Site.portrait? 0 (floor, m) descriptor.job.id)) :
    ∃ standing, m.submit floor i descriptor = (floor, m, .ok standing) ∧ standing ≠ .created := by
  have received := sound.received here free of (Nat.zero_le i)
  have slot : Portrait.Settles s.piece.slot _ := settles
  obtain ⟨-, queued, standing, told, known⟩ := @Portrait.Settles.reply _ descriptor.job s.piece slot
  obtain ⟨kept, same⟩ := Prod.mk.inj (received.idle queued)
  have answer := received.answer
  rw [told] at answer
  exact ⟨standing, Prod.ext kept (Prod.ext same answer), known⟩

theorem Discovery.submitRecord_still (front : List Manager)
    (sound : (⟨floor, front ++ rest⟩ : Group).Sound) (of : record.job = descriptor.job.id)
    (settled : ∀ m ∈ rest, m.home.Holds record.replicas → ∀ piece,
      pieceAt m.home record = .ok piece →
        Portrait.Settles piece.slot (Site.portrait? 0 (floor, m) descriptor.job.id)) :
    ∃ next, submitRecord descriptor record floor rest = (next, rest, .ok 0) ∧
      Floor.Still floor next ∧ (⟨next, front ++ rest⟩ : Group).Sound := by
  induction rest generalizing floor front with
  | nil => exact ⟨floor, rfl, .refl, sound⟩
  | cons m rest ih =>
      by_cases holds : m.home.Holds record.replicas
      · obtain ⟨piece, made, -, label⟩ := pieceAt_ok m.home record
        have member : m ∈ front ++ m :: rest := List.mem_append_right _ List.mem_cons_self
        have built : (⟨(floor.addSlice (.ofPiece piece)).1, front ++ m :: rest⟩ : Group).Sound :=
          sound.build piece
        have still : Floor.Still floor (floor.addSlice (.ofPiece piece)).1 := .addSlice
        have here : (floor.addSlice (.ofPiece piece)).1.slices[floor.slices.size]? =
            some (Slice.ofPiece piece) := by
          rw [Floor.slices_addSlice, if_pos rfl]
        have slot := settled m List.mem_cons_self holds piece made
        rw [← still.portrait? (sound.manager member)] at slot
        obtain ⟨standing, result, known⟩ :=
          (built.manager member).submit_settled here rfl (label.trans of) slot
        have onward : (⟨(floor.addSlice (.ofPiece piece)).1,
            (front ++ [m]) ++ rest⟩ : Group).Sound := by
          rw [List.append_assoc]
          exact built
        obtain ⟨next, later, still', clean⟩ := ih _ onward fun other inside holds' piece' made' => by
          rw [still.portrait? (sound.manager
            (List.mem_append_right _ (List.mem_cons_of_mem _ inside)))]
          exact settled other (List.mem_cons_of_mem _ inside) holds' piece' made'
        rw [submitRecord_next holds made result, later, if_neg known]
        rw [List.append_assoc] at clean
        exact ⟨next, rfl, still.trans still', clean⟩
      · have onward : (⟨floor, (front ++ [m]) ++ rest⟩ : Group).Sound := by
          rw [List.append_assoc]
          exact sound
        obtain ⟨next, later, still, clean⟩ := ih _ onward fun other inside =>
          settled other (List.mem_cons_of_mem _ inside)
        rw [submitRecord_skip holds, later]
        rw [List.append_assoc] at clean
        exact ⟨next, rfl, still, clean⟩

theorem Discovery.submitRecords_still (records : List SliceRecord) (sound : group.Sound)
    (of : ∀ record ∈ records, record.job = descriptor.job.id)
    (settled : ∀ id piece, (id, piece) ∈ offers group.homes records →
      Portrait.Settles piece.slot (group.portrait? 0 id descriptor.job.id)) :
    ∃ next, submitRecords descriptor group.floor group.managers records =
        (next, group.managers, .ok 0) ∧ Group.Still group ⟨next, group.managers⟩ := by
  induction records generalizing group with
  | nil => exact ⟨group.floor, rfl, rfl, .refl⟩
  | cons record rest ih =>
      have listed : offers group.homes (record :: rest) =
        offersOf group.homes record ++ offers group.homes rest := List.flatMap_cons
      rw [listed] at settled
      have mine : ∀ m ∈ group.managers, m.home.Holds record.replicas → ∀ piece,
          pieceAt m.home record = .ok piece →
            Portrait.Settles piece.slot (Site.portrait? 0 (group.floor, m) descriptor.job.id) := by
        intro m inside holds piece made
        rw [← sound.portrait?_of_mem inside]
        refine settled m.home.id piece (List.mem_append_left _ ?_)
        refine List.mem_filterMap.mpr ⟨m.home, List.mem_map_of_mem inside, ?_⟩
        rw [if_pos holds, made]
        rfl
      obtain ⟨next, first, still, clean⟩ :=
        submitRecord_still [] sound (of record List.mem_cons_self) mine
      have same : Group.Still group ⟨next, group.managers⟩ := ⟨rfl, still⟩
      have onward : (⟨next, group.managers⟩ : Group).Sound := clean
      obtain ⟨last, later, still'⟩ := ih onward (fun other inside =>
        of other (List.mem_cons_of_mem _ inside)) fun id piece inside => by
          rw [same.portrait? sound]
          exact settled id piece (List.mem_append_right _ inside)
      refine ⟨last, ?_, same.trans still'⟩
      rw [submitRecords, first]
      simp only [later]
      rfl

/-- A new descriptor that says what the old one said. -/
theorem Group.Still.presented {job : Job} (sound : group.Sound)
    (labelled : ∀ id, ∀ portrait ∈ group.portrait? 0 id job.id, portrait.job = job) :
    Group.Still group (group.present job) := by
  have described : Floor.Still group.floor (group.floor.describe job).1 :=
    ⟨rfl, fun _ => rfl, fun _ _ here => here⟩
  refine ⟨rfl, described.trans (.updateEach fun m inside t k tracked found => ?_)⟩
  refine labelled m.home.id (group.floor.portrait 0 k) ?_
  rw [sound.portrait?_of_mem inside]
  exact Site.portrait?_tracked tracked found

/-- Whether a job is settled at a point of a cycle. -/
def Discovery.Pass.Settled (pass : Pass) (job : Job) : Prop :=
  Panorama.Settled job (offers pass.group.homes (pass.store.recordsOf job.id))
    (.ofGroup 0 pass.group job.id)

/-- A visit to a settled job comes to nothing. -/
theorem Discovery.Pass.workOn_settled {pass : Pass} {job : Job} (sound : pass.group.Sound)
    (settled : pass.Settled job) :
    Group.Still pass.group (pass.workOn {} job).group ∧
      (pass.workOn {} job).store = pass.store ∧
      (pass.workOn {} job).report =
        { pass.report with activeJobs := pass.report.activeJobs + 1 } := by
  have still : Group.Still pass.group (pass.group.present job) := .presented sound settled.labelled
  have presented := sound.presented job
  have clean := sound.reach presented.run
  have mine : ∀ record ∈ pass.store.recordsOf job.id,
      record.job = (pass.group.floor.describe job).2.job.id := fun _ => Store.job_of_mem_recordsOf
  obtain ⟨next, done, still'⟩ := submitRecords_still _ clean mine fun id piece inside => by
    rw [still.portrait? sound]
    rw [presented.homes] at inside
    exact settled.settled id piece inside
  obtain ⟨group, store, report⟩ := Pass.workOn_given Outage.reads done
  rw [group]
  exact ⟨still.trans still', store, report⟩

/-! ## Visits to finished jobs -/

theorem Group.queues_removeFrom (managers : List Manager) :
    (Group.removeFrom floor job managers).1.queues = floor.queues := by
  induction managers generalizing floor with
  | nil => rfl
  | cons m rest ih => exact ih.trans Manager.queues_removeJob

/-- To remove a job that no manager tracks comes to nothing. -/
theorem Group.removeFrom_of_unknown {managers : List Manager}
    (unknown : ∀ m ∈ managers, m.tracker? job = none) :
    Group.removeFrom floor job managers = (floor, managers, 0) := by
  induction managers with
  | nil => rfl
  | cons m rest ih =>
      rw [Group.removeFrom, Manager.removeJob_of_unknown (unknown m List.mem_cons_self)]
      simp only [ih fun other inside => unknown other (List.mem_cons_of_mem _ inside)]
      rfl

theorem Group.Still.removed (sound : group.Sound) (untracked : ∀ id, group.tracks id job = false) :
    Group.Still group (group.removeJob job).1 ∧ (group.removeJob job).2 = 0 := by
  have unknown : ∀ m ∈ group.managers, m.tracker? job = none := by
    intro m inside
    have free := untracked m.home.id
    rw [Group.tracks, sound.manager?_of_mem inside, Option.any_some] at free
    exact Option.isNone_iff_eq_none.mp (Option.isSome_eq_false_iff.mp free)
  have removed := @Group.removeFrom_of_unknown group.floor job _ unknown
  rw [Group.removeJob]
  simp only [removed]
  exact ⟨.refl, trivial⟩

end Restage
