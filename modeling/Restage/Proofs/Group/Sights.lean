import Restage.Proofs.Group.Runs
import Restage.Proofs.Manager.Sights

/-!
# What a group shows of its jobs

`Group.sight?` is what the manager of an instance shows of a job. Discovery builds slices and offers
them, replaces descriptors, and removes jobs. Each of these is a run of the group that concerns one
job (`Group.Around`), and `Group.Shows` says what becomes of the sights of that job, instance by
instance.

A function that goes through the managers one by one is met half way, with the managers `front` that
it has done with and the managers `rest` that it is still to come to.
-/

namespace Restage

open Manager

variable {group group' : Group} {floor next : Floor} {m m' : Manager} {descriptor : Descriptor}
  {job : TimeId} {id : UInt32} {front rest : List Manager}

/-- What the manager of an instance shows of a job. -/
def Group.sight? (group : Group) (id : UInt32) (job : TimeId) : Option Sight :=
  (group.manager? id).bind fun m => Site.sight? (group.floor, m) job

/-- The instances of a group. -/
def Group.homes (group : Group) : List Instance := group.managers.map Manager.home

theorem Group.manager?_of_unlisted (absent : ∀ home ∈ group.homes, home.id ≠ id) :
    group.manager? id = none := by
  cases managed : group.manager? id with
  | none => rfl
  | some m =>
      obtain ⟨member, here⟩ := Group.mem_of_manager? managed
      exact absurd here (absent m.home (List.mem_map_of_mem member))

theorem Group.sight?_of_unlisted (absent : ∀ home ∈ group.homes, home.id ≠ id) :
    group.sight? id job = none := by
  rw [Group.sight?, Group.manager?_of_unlisted absent, Option.bind_none]

theorem Group.Sound.sight?_of_mem (sound : group.Sound) (member : m ∈ group.managers) :
    group.sight? m.home.id = Site.sight? (group.floor, m) := by
  funext job
  rw [Group.sight?, sound.manager?_of_mem member, Option.bind_some]

/-- A job that no instance shows is tracked by no manager. -/
theorem Group.Sound.untracked_iff (sound : group.Sound) :
    (∀ id, group.sight? id job = none) ↔ ∀ m ∈ group.managers, m.tracker? job = none := by
  constructor
  · intro hidden m member
    have none := hidden m.home.id
    rw [sound.sight?_of_mem member] at none
    exact (Site.sight?_eq_none (sound.manager member).tracks).mp none
  · intro untracked id
    cases managed : group.manager? id with
    | none => rw [Group.sight?, managed, Option.bind_none]
    | some m =>
        obtain ⟨member, -⟩ := Group.mem_of_manager? managed
        rw [Group.sight?, managed, Option.bind_some]
        exact Site.sight?_untracked (untracked m member)

theorem Group.Sound.sight?_put (sound : group.Sound) (member : m ∈ group.managers)
    (moves : Moves (group.floor, m) (next, m')) :
    (group.put next m').sight? id =
      if id = m.home.id then Site.sight? (next, m') else group.sight? id := by
  have home := (Moves.same moves).1
  funext job
  rw [Group.sight?, sound.manager?_put member home (sound.moves member moves)]
  split
  · rfl
  · next apart =>
      unfold Group.sight?
      cases managed : group.manager? id with
      | none => rfl
      | some other =>
          obtain ⟨inside, at_home⟩ := Group.mem_of_manager? managed
          have site := sound.manager member
          have away : other.queue ≠ m.queue := by
            intro same
            have equal := sound.eq_of_queue inside member same
            rw [equal] at at_home
            exact apart at_home.symm
          have within := Moves.within moves site
          have sights := within.sight? (sound.manager inside).tracks away
          rw [Option.bind_some, Option.bind_some]
          exact congrFun sights job

theorem Group.homes_put (home : m'.home = m.home) (sound : group.Sound)
    (member : m ∈ group.managers) : (group.put next m').homes = group.homes := by
  unfold Group.homes Group.put
  rw [List.map_map]
  refine List.map_congr_left fun old inside => ?_
  simp only [Function.comp_apply]
  split
  · next same =>
      have equal := sound.eq_of_home inside member (same.trans (congrArg Instance.id home))
      rw [equal, home]
  · rfl

/-- Putting back a manager in the middle. -/
theorem Group.Sound.put_middle (sound : (⟨floor, front ++ m :: rest⟩ : Group).Sound)
    (home : m'.home = m.home) :
    (⟨floor, front ++ m :: rest⟩ : Group).put next m' = ⟨next, front ++ m' :: rest⟩ := by
  have member : m ∈ front ++ m :: rest := List.mem_append_right _ List.mem_cons_self
  have once : (front ++ m :: rest).Nodup := by
    have homes := sound.homes
    exact List.Nodup.of_map _ homes
  have others : ∀ other ∈ front ++ rest, other.home.id ≠ m'.home.id := by
    intro other inside same
    have listed : other ∈ front ++ m :: rest := by
      rcases List.mem_append.mp inside with inside | inside
      · exact List.mem_append_left _ inside
      · exact List.mem_append_right _ (List.mem_cons_of_mem _ inside)
    have equal := sound.eq_of_home listed member (same.trans (congrArg Instance.id home))
    subst equal
    have apart := (List.nodup_middle.mp once)
    rw [List.nodup_cons] at apart
    exact apart.1 inside
  have kept : ∀ list : List Manager, (∀ other ∈ list, other ∈ front ++ rest) →
      (list.map fun other => if other.home.id = m'.home.id then m' else other) = list := by
    intro list inside
    refine (List.map_congr_left fun other member => ?_).trans (List.map_id _)
    exact if_neg (others other (inside other member))
  rw [Group.put, List.map_append, List.map_cons, if_pos (congrArg Instance.id home.symm),
    kept front fun other member => List.mem_append_left _ member,
    kept rest fun other member => List.mem_append_right _ member]

/-! ## Runs that concern one job -/

/-- A run that leaves what is seen of all other jobs alone. -/
structure Group.Around (job : TimeId) (group group' : Group) : Prop where
  run : group.Reach group'
  homes : group'.homes = group.homes
  jobs : ∀ id other, other ≠ job → group'.sight? id other = group.sight? id other

/-- A run that makes `effect` of what is seen of one job on some instances, and leaves all else that
is seen alone. -/
structure Group.Shows (job : TimeId) (effect : Instance → Option Sight → Option Sight)
    (asked : List Instance) (group group' : Group) : Prop
    extends Group.Around job group group' where
  here : ∀ home ∈ asked, group'.sight? home.id job = effect home (group.sight? home.id job)
  elsewhere : ∀ id, (∀ home ∈ asked, home.id ≠ id) → group'.sight? id job = group.sight? id job

section

variable {last : Group} {effect effect' : Instance → Option Sight → Option Sight} {home : Instance}
  {asked : List Instance}

theorem Group.Around.refl : Group.Around job group group := ⟨.refl, rfl, fun _ _ _ => rfl⟩

theorem Group.Around.trans (first : Group.Around job group group')
    (second : Group.Around job group' last) : Group.Around job group last where
  run := first.run.trans second.run
  homes := second.homes.trans first.homes
  jobs := fun id other apart => (second.jobs id other apart).trans (first.jobs id other apart)

theorem Group.Shows.nil : Group.Shows job effect [] group group where
  toAround := .refl
  here := fun home member => by cases member
  elsewhere := fun id _ => rfl

theorem Group.Shows.cons (first : Group.Shows job effect [home] group group')
    (later : Group.Shows job effect asked group' last)
    (apart : ∀ other ∈ asked, other.id ≠ home.id) :
    Group.Shows job effect (home :: asked) group last where
  toAround := first.toAround.trans later.toAround
  here := fun other member => by
    rcases List.mem_cons.mp member with rfl | member
    · rw [later.elsewhere other.id apart, first.here other List.mem_cons_self]
    · rw [later.here other member, first.elsewhere other.id]
      intro same listed
      rw [List.mem_singleton.mp listed]
      exact Ne.symm (apart other member)
  elsewhere := fun id away => by
    rw [later.elsewhere id fun other member => away other (List.mem_cons_of_mem _ member),
      first.elsewhere id fun other member => by
        rw [List.mem_singleton.mp member]
        exact away home List.mem_cons_self]

theorem Group.Shows.trans (first : Group.Shows job effect asked group group')
    (second : Group.Shows job effect' asked group' last) :
    Group.Shows job (fun home seen => effect' home (effect home seen)) asked group last where
  toAround := first.toAround.trans second.toAround
  here := fun home member => by rw [second.here home member, first.here home member]
  elsewhere := fun id away => (second.elsewhere id away).trans (first.elsewhere id away)

/-- An instance of which nothing is asked. -/
theorem Group.Shows.skip (same : ∀ seen, effect home seen = seen) :
    Group.Shows job effect [home] group group where
  toAround := .refl
  here := fun other member => by
    rw [List.mem_singleton.mp member, same]
  elsewhere := fun id _ => rfl

end

/-- One manager's acts, seen from the group. -/
theorem Group.Sound.shows (job : TimeId) (effect : Instance → Option Sight → Option Sight)
    (sound : (⟨floor, front ++ m :: rest⟩ : Group).Sound) {site : Site}
    (moves : Moves (floor, m) site)
    (run : (⟨floor, front ++ m :: rest⟩ : Group).Reach
      ((⟨floor, front ++ m :: rest⟩ : Group).put site.1 site.2))
    (own : Site.sight? site job = effect m.home (Site.sight? (floor, m) job))
    (jobs : ∀ other, other ≠ job → Site.sight? site other = Site.sight? (floor, m) other) :
    Group.Shows job effect [m.home] ⟨floor, front ++ m :: rest⟩
      ⟨site.1, (front ++ [site.2]) ++ rest⟩ := by
  have member : m ∈ front ++ m :: rest := List.mem_append_right _ List.mem_cons_self
  have home := (Moves.same moves).1
  have middle : (⟨floor, front ++ m :: rest⟩ : Group).put site.1 site.2 =
      ⟨site.1, (front ++ [site.2]) ++ rest⟩ := by
    rw [sound.put_middle home, List.append_assoc]
    rfl
  have homes : ((⟨floor, front ++ m :: rest⟩ : Group).put site.1 site.2).homes = _ :=
    Group.homes_put home sound member
  have sights : ∀ id, ((⟨floor, front ++ m :: rest⟩ : Group).put site.1 site.2).sight? id = _ :=
    fun _ => sound.sight?_put member moves
  have before := sound.sight?_of_mem member
  simp only [middle] at run homes sights
  refine ⟨⟨run, homes, fun id other apart => ?_⟩, fun other listed => ?_, fun id away => ?_⟩
  · rw [sights]
    split
    · next here =>
        rw [here, before]
        exact jobs other apart
    · rfl
  · rw [List.mem_singleton.mp listed, sights, if_pos rfl, before]
    exact own
  · rw [sights, if_neg (Ne.symm (away m.home (List.mem_singleton.mpr rfl)))]

/-- An act of a manager is a run of its group. -/
theorem Group.Sound.reach_act (sound : group.Sound) (member : m ∈ group.managers)
    (act : Manager.Act) {site : Site} (done : Manager.act? (group.floor, m) act = some site) :
    group.Reach (group.put site.1 site.2) := by
  refine .single ⟨.on m.home.id act, ?_⟩
  rw [Group.act?, sound.manager?_of_mem member, Option.bind_eq_bind, Option.bind_some, done]
  rfl

/-! ## Offering a slice -/

/-- A slice that was just built is submitted to a manager. -/
theorem Group.Sound.offered (sound : (⟨floor, front ++ m :: rest⟩ : Group).Sound) {piece : Piece}
    (of : piece.job = descriptor.job.id) :
    let result := m.submit (floor.addSlice (.ofPiece piece)).1 floor.slices.size descriptor
    Group.Shows descriptor.job.id
        (fun _ seen => some (Sight.offer descriptor piece.slot seen)) [m.home]
        ⟨floor, front ++ m :: rest⟩ ⟨result.1, (front ++ [result.2.1]) ++ rest⟩ ∧
      Sight.Answers ((⟨floor, front ++ m :: rest⟩ : Group).sight? m.home.id descriptor.job.id)
        piece.slot result.2.2 := by
  have member : m ∈ front ++ m :: rest := List.mem_append_right _ List.mem_cons_self
  have built := sound.build piece
  have site := built.manager member
  have here : (floor.addSlice (.ofPiece piece)).1.slices[floor.slices.size]? =
      some (Slice.ofPiece piece) := by
    rw [Floor.slices_addSlice, if_pos rfl]
  obtain ⟨answers, sights⟩ := site.offered here rfl of
  have moves := Moves.submit site floor.slices.size descriptor
  have first : (⟨floor, front ++ m :: rest⟩ : Group).Step
      ⟨(floor.addSlice (.ofPiece piece)).1, front ++ m :: rest⟩ := ⟨.build piece, rfl⟩
  have shows := Group.Sound.shows descriptor.job.id
    (fun _ seen => some (Sight.offer descriptor piece.slot seen)) built moves
    (built.reach_act member (.submit floor.slices.size descriptor) rfl)
    (by rw [sights, if_pos rfl]; rfl) fun other apart => by rw [sights, if_neg apart]
  refine ⟨⟨⟨.head first shows.run, shows.homes, shows.jobs⟩, shows.here, shows.elsewhere⟩, ?_⟩
  rw [sound.sight?_of_mem member]
  exact answers

/-! ## Replacing a descriptor -/

/-- What is seen of a job with another descriptor. -/
def Sight.described (descriptor : Descriptor) (seen : Option Sight) : Option Sight :=
  seen.map fun sight => { sight with descriptor := descriptor }

theorem Group.Sound.apart_of_middle (sound : (⟨floor, front ++ m :: rest⟩ : Group).Sound) :
    ∀ home ∈ rest.map Manager.home, home.id ≠ m.home.id := by
  intro home listed same
  obtain ⟨other, inside, rfl⟩ := List.mem_map.mp listed
  have homes := sound.homes
  rw [List.map_append, List.map_cons] at homes
  have absent := (List.nodup_cons.mp homes.of_append_right).1
  exact absent (same ▸ List.mem_map_of_mem inside)

theorem Group.Sound.updated_each (front : List Manager)
    (sound : (⟨floor, front ++ rest⟩ : Group).Sound) :
    Group.Shows descriptor.job.id (fun _ seen => Sight.described descriptor seen)
      (rest.map Manager.home) ⟨floor, front ++ rest⟩
      ⟨rest.foldl (fun floor m => m.updateJob floor descriptor) floor, front ++ rest⟩ := by
  induction rest generalizing floor front with
  | nil => exact .nil
  | cons m rest ih =>
      have member : m ∈ front ++ m :: rest := List.mem_append_right _ List.mem_cons_self
      have site := sound.manager member
      have moves : Moves (floor, m) (m.updateJob floor descriptor, m) := .update site descriptor
      have first := Group.Sound.shows descriptor.job.id
        (fun _ seen => Sight.described descriptor seen) sound moves
        (sound.reach_act member (.update descriptor) rfl)
        (by rw [site.sight?_updateJob, if_pos rfl]; rfl)
        fun other apart => by rw [site.sight?_updateJob, if_neg apart]
      have later := ih _ (sound.reach first.run)
      rw [List.append_assoc] at first later
      exact first.cons later sound.apart_of_middle

theorem Group.Sound.updated (sound : group.Sound) (descriptor : Descriptor) :
    Group.Shows descriptor.job.id (fun _ seen => Sight.described descriptor seen) group.homes group
      (group.updateJob descriptor) :=
  Group.Sound.updated_each [] sound

/-! ## Removing a job -/

theorem Group.Sound.removed_each (front : List Manager)
    (sound : (⟨floor, front ++ rest⟩ : Group).Sound) (job : TimeId) :
    Group.Shows job (fun _ _ => none) (rest.map Manager.home) ⟨floor, front ++ rest⟩
        ⟨(Group.removeFrom floor job rest).1, front ++ (Group.removeFrom floor job rest).2.1⟩ ∧
      (0 < (Group.removeFrom floor job rest).2.2 ↔ ∃ home ∈ rest.map Manager.home,
        ((⟨floor, front ++ rest⟩ : Group).sight? home.id job).isSome = true) := by
  induction rest generalizing floor front with
  | nil => exact ⟨.nil, by simp [Group.removeFrom]⟩
  | cons m rest ih =>
      have member : m ∈ front ++ m :: rest := List.mem_append_right _ List.mem_cons_self
      have site := sound.manager member
      have moves := Moves.remove site job
      have first := Group.Sound.shows job (fun _ _ => none) sound moves
        (sound.reach_act member (.remove job) rfl)
        (by rw [site.sight?_removeJob, if_pos rfl])
        fun other apart => by rw [site.sight?_removeJob, if_neg apart]
      obtain ⟨later, count⟩ := ih _ (sound.reach first.run)
      have apart := sound.apart_of_middle
      have known : (m.removeJob floor job).2.2 = true ↔
          ((⟨floor, front ++ m :: rest⟩ : Group).sight? m.home.id job).isSome = true := by
        rw [sound.sight?_of_mem member]
        cases tracked : m.tracker? job with
        | none =>
            rw [Manager.removeJob_of_unknown tracked, Site.sight?_untracked tracked]
            exact Iff.rfl
        | some t =>
            obtain ⟨k, found, -⟩ := site.tracks.of_tracked tracked
            rw [Manager.removeJob_of_tracked tracked, Site.sight?_tracked tracked found]
            exact ⟨fun _ => rfl, fun _ => rfl⟩
      have counted : 0 < (Group.removeFrom floor job (m :: rest)).2.2 ↔
          (m.removeJob floor job).2.2 = true ∨
            0 < (Group.removeFrom (m.removeJob floor job).1 job rest).2.2 := by
        rw [Group.removeFrom]
        simp only
        split <;> simp_all
      constructor
      · have joined := first.cons later apart
        simp only [List.append_assoc, List.cons_append, List.nil_append] at joined
        exact joined
      · rw [counted, known, count, List.map_cons, List.exists_mem_cons_iff]
        refine or_congr_right (exists_congr fun home => and_congr_right fun listed => ?_)
        have same := first.elsewhere home.id fun other single => by
          rw [List.mem_singleton.mp single]
          exact Ne.symm (apart home listed)
        rw [same]

theorem Group.Sound.removed (sound : group.Sound) (job : TimeId) :
    Group.Shows job (fun _ _ => none) group.homes group (group.removeJob job).1 ∧
      (0 < (group.removeJob job).2 ↔
        ∃ home ∈ group.homes, (group.sight? home.id job).isSome = true) :=
  Group.Sound.removed_each [] sound job

end Restage
