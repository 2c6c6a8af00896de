import Restage.Proofs.Disk.Files

/-!
# Changes keep a disk sound

Whatever is put on a disk stands at a place that a walk has led to. A walk puts together only names
that may stand in a folder, and goes through folders only (`Disk.Leads.spot`). Whatever is taken away
is taken away with all that stands below it. So every place stays taken once, by names, and all that
stands on the disk stands in folders (`Disk.Rooted`).
-/

namespace Restage

open Disk

variable {disk next : Disk} {place base above : Location} {entry : Entry} {follow : Bool}
  {links : Nat} {steps : List Component} {path : Path} {text part : List Char}

/-! ## Names of a spelling -/

/-- Steps whose names have no slash and are not dots. -/
def Disk.Plain (steps : List Component) : Prop :=
  ∀ part, .name part ∈ steps → '/' ∉ part ∧ Path.ofPart? part = some (.name part)

theorem Path.slash_notMem_part (inside : part ∈ Path.splitSlashes text) : '/' ∉ part := by
  induction text generalizing part with
  | nil =>
      rw [Path.splitSlashes, List.mem_singleton] at inside
      exact inside ▸ List.not_mem_nil
  | cons c rest ih =>
      rw [Path.splitSlashes] at inside
      split at inside
      · rcases List.mem_cons.mp inside with rfl | later
        · exact List.not_mem_nil
        · exact ih later
      · next plain =>
          cases parts : Path.splitSlashes rest with
          | nil => exact absurd parts (Path.splitSlashes_ne_nil rest)
          | cons first others =>
              rw [parts] at inside ih
              rcases List.mem_cons.mp inside with rfl | later
              · rw [List.mem_cons, not_or]
                exact ⟨Ne.symm plain, ih List.mem_cons_self⟩
              · exact ih (List.mem_cons_of_mem _ later)

theorem Disk.eq_of_stepOf {other : List Char} (step : Disk.stepOf other = .name part) :
    other = part ∧ Path.ofPart? part = some (.name part) := by
  unfold Disk.stepOf at step
  split at step
  · cases step
  · next visible =>
      split at step
      · cases step
      · next named =>
          cases step
          refine ⟨rfl, ?_⟩
          rw [Path.ofPart?, if_neg visible, if_neg named]

theorem Disk.plain_stepsOf (text : List Char) : Disk.Plain (Disk.stepsOf text) := by
  intro part inside
  rcases List.mem_append.mp inside with lead | inside
  · split at lead
    · cases List.mem_singleton.mp lead
    · cases lead
  · obtain ⟨other, listed, step⟩ := List.mem_map.mp inside
    obtain ⟨rfl, named⟩ := Disk.eq_of_stepOf step
    exact ⟨Path.slash_notMem_part listed, named⟩

theorem Disk.plain_components (path : Path) : Disk.Plain path.components := by
  intro part inside
  rcases List.mem_append.mp inside with lead | inside
  · unfold Path.leading at lead
    split at lead
    · cases List.mem_singleton.mp lead
    · split at lead
      · cases List.mem_singleton.mp lead
      · cases lead
  · obtain ⟨other, listed, named⟩ := List.mem_filterMap.mp inside
    have same : other = part := by
      unfold Path.ofPart? at named
      split at named
      · cases named
      · split at named
        · cases named
        · cases named
          rfl
    subst same
    exact ⟨Path.slash_notMem_part listed, named⟩

/-! ## Places in folders -/

/-- A sound disk on which everything stands in folders. -/
structure Disk.Rooted (disk : Disk) : Prop extends Disk.Sound disk where
  grounded : ∀ {above place : Location} {entry : Entry}, disk.get? place = some entry →
    above <+: place → above ≠ place → disk.get? above = some .folder

/-- A place that can be led to: names that go through folders. -/
structure Disk.Spot (disk : Disk) (place : Location) : Prop where
  named : ∀ name ∈ place, Disk.IsName name.toList
  grounded : ∀ {above : Location}, above <+: place → above ≠ place →
    disk.get? above = some .folder

theorem Disk.get?_nil : disk.get? [] = some .folder := if_pos rfl

theorem Disk.listed_of_get? (there : disk.get? place = some entry) (below : place ≠ []) :
    place ∈ disk.entries.map Prod.fst := by
  rw [Disk.get?, if_neg below] at there
  obtain ⟨before, after, split, -⟩ := List.lookup_eq_some_iff.mp there
  rw [split, List.map_append, List.map_cons]
  exact List.mem_append_right _ List.mem_cons_self

theorem Disk.Rooted.spot (rooted : disk.Rooted) (there : disk.get? place = some entry) :
    disk.Spot place where
  named := by
    by_cases top : place = []
    · rintro name inside
      rw [top] at inside
      cases inside
    · exact rooted.named place (Disk.listed_of_get? there top)
  grounded := rooted.grounded there

/-- What stands where a walk ends that goes on from a folder stands in folders. -/
theorem Disk.Leads.spot (leads : disk.Leads follow links base steps place) (rooted : disk.Rooted)
    (start : disk.get? base = some .folder) (plain : Disk.Plain steps) : disk.Spot place := by
  have later : ∀ {step : Component} {rest : List Component}, Disk.Plain (step :: rest) →
      Disk.Plain rest := fun plain part inside => plain part (List.mem_cons_of_mem _ inside)
  induction leads with
  | done => exact rooted.spot start
  | root onward ih => exact ih Disk.get?_nil (later plain)
  | here onward ih => exact ih start (later plain)
  | @up links base place rest onward ih =>
      refine ih ?_ (later plain)
      by_cases top : base = []
      · rw [top]
        exact Disk.get?_nil
      · refine rooted.grounded start (List.dropLast_prefix _) fun same => ?_
        have shorter := congrArg List.length same
        rw [List.length_dropLast] at shorter
        have some_name := List.length_pos_of_ne_nil top
        omega
  | folder fits there onward ih => exact ih there (later plain)
  | @last links base part fits other kept =>
      obtain ⟨slashless, step⟩ := plain part List.mem_cons_self
      refine ⟨fun name inside => ?_, fun {above} higher apart => ?_⟩
      · rcases List.mem_append.mp inside with before | last
        · exact (rooted.spot start).named name before
        · rw [List.mem_singleton.mp last, String.toList_ofList]
          exact ⟨fits, slashless, step⟩
      · rcases List.prefix_concat_iff.mp higher with same | higher
        · exact absurd same apart
        · by_cases same : above = base
          · rw [same]
            exact start
          · exact rooted.grounded start higher same
  | link fits there followed onward ih =>
      refine ih start fun part inside => ?_
      rcases List.mem_append.mp inside with target | rest
      · exact Disk.plain_stepsOf _ part target
      · exact later plain part rest

theorem Disk.Rooted.spot_of_walk (rooted : disk.Rooted) (start : disk.get? base = some .folder)
    (plain : Disk.Plain steps) (walked : disk.walk follow links base steps = .ok place) :
    disk.Spot place := (Disk.leads_of_walk walked).spot rooted start plain

theorem Disk.Rooted.spot_of_resolve (rooted : disk.Rooted)
    (resolved : disk.resolve follow path = .ok place) : disk.Spot place :=
  (Disk.leads_of_resolve resolved).2.2.spot rooted Disk.get?_nil (Disk.plain_stepsOf _)

theorem Disk.Sound.filter (sound : disk.Sound) (keeps : Location × Entry → Bool) :
    (Disk.mk (disk.entries.filter keeps)).Sound where
  once := sound.once.sublist (List.filter_sublist.map _)
  named := fun place listed =>
    sound.named place ((List.filter_sublist.map Prod.fst).subset listed)

/-! ## Putting something on a disk -/

theorem Disk.rooted_empty : (Disk.mk []).Rooted where
  once := List.nodup_nil
  named := fun _ listed => absurd listed List.not_mem_nil
  grounded := by
    intro above place entry there higher apart
    by_cases top : place = []
    · exact absurd (List.prefix_nil.mp (top ▸ higher)) (top ▸ apart)
    · rw [Disk.get?, if_neg top] at there
      cases there

/-- Something is put where no folder stands. -/
theorem Disk.Rooted.put (rooted : disk.Rooted) (spot : disk.Spot place)
    (free : disk.get? place ≠ some .folder) (entry : Entry) : (disk.put place entry).Rooted := by
  have below : place ≠ [] := by
    rintro rfl
    exact free Disk.get?_nil
  have taken : place ∉ (disk.erase place).entries.map Prod.fst := by
    intro listed
    obtain ⟨pair, inside, same⟩ := List.mem_map.mp listed
    have other := (List.mem_filter.mp inside).2
    simp [same] at other
  have others : (disk.erase place).Sound := rooted.filter _
  constructor
  · constructor
    · rw [Disk.put, List.map_append, List.nodup_append]
      refine ⟨others.once, List.pairwise_singleton _ _, ?_⟩
      rintro other listed _ new rfl
      rw [List.map_singleton, List.mem_singleton] at new
      subst new
      exact taken listed
    · intro other listed
      rw [Disk.put, List.map_append, List.mem_append] at listed
      rcases listed with old | new
      · exact others.named other old
      · rw [List.map_singleton, List.mem_singleton] at new
        exact new ▸ spot.named
  · intro above other found there higher apart
    rw [Disk.get?_put below] at there
    have folder : disk.get? above = some .folder := by
      split at there
      · next same => exact spot.grounded (same ▸ higher) (same ▸ apart)
      · exact rooted.grounded there higher apart
    rw [Disk.get?_put below, if_neg]
    · exact folder
    · rintro rfl
      exact free folder

theorem Disk.Rooted.makeFolder (rooted : disk.Rooted) (plain : Disk.Plain steps)
    (made : disk.makeFolder steps = .ok next) : next.Rooted := by
  obtain ⟨place, walked, made⟩ := Disk.ok_of_bind made
  have spot := rooted.spot_of_walk Disk.get?_nil plain walked
  cases there : disk.get? place with
  | some entry =>
      simp only [there] at made
      cases made
  | none =>
      simp only [there] at made
      cases made
      exact rooted.put spot (by simp [there]) .folder

theorem Disk.Rooted.putFile (rooted : disk.Rooted) {bytes : ByteArray}
    (put : disk.putFile path bytes = .ok next) : next.Rooted := by
  obtain ⟨place, opens, rfl⟩ := Disk.putFile_eq_ok_iff.mp put
  exact rooted.put (rooted.spot_of_resolve opens.leads) opens.free _

theorem Disk.Rooted.makeLink (rooted : disk.Rooted) {target : String}
    (made : disk.makeLink path target = .ok next) : next.Rooted := by
  obtain ⟨place, resolved, made⟩ := Disk.ok_of_bind made
  split at made
  · cases made
  · split at made
    · cases made
    · next there =>
        cases made
        exact rooted.put (rooted.spot_of_resolve resolved) (by simp [there]) _

theorem Disk.Rooted.settle (rooted : disk.Rooted) (plain : Disk.Plain steps) :
    (Disk.makeFolders.settle disk steps).1.Rooted := by
  unfold Disk.makeFolders.settle
  split
  · next made => exact rooted.makeFolder plain made
  · split <;> exact rooted

/-- Folders that are made on the way to another one stand in folders, also where the way ends
early. -/
theorem Disk.Rooted.makeFolders (rooted : disk.Rooted) (plain : Disk.Plain steps) :
    (disk.makeFolders steps).1.Rooted := by
  induction steps with
  | nil => exact rooted
  | cons last before ih =>
      have forward : Disk.Plain (last :: before).reverse := fun part inside =>
        plain part (List.mem_reverse.mp inside)
      have above := ih fun part inside => plain part (List.mem_cons_of_mem _ inside)
      unfold Disk.makeFolders
      split
      · next made => exact rooted.makeFolder forward made
      · split
        · next made => rwa [made] at above
        · next made =>
            rw [made] at above
            exact above.settle forward
      · exact rooted.settle forward

theorem Disk.Rooted.makeFoldersAt (rooted : disk.Rooted) (path : Path) :
    (disk.makeFoldersAt path).1.Rooted := by
  unfold Disk.makeFoldersAt
  split
  · exact rooted
  · exact rooted.makeFolders fun part inside =>
      Disk.plain_components path part (List.mem_reverse.mp inside)

/-! ## Taking something off a disk -/

/-- What is kept of a disk when, with a place, all above it are kept. -/
theorem Disk.Rooted.restrict (rooted : disk.Rooted) (keeps : Location → Bool)
    (upward : ∀ {above place : Location}, above <+: place → keeps place = true →
      keeps above = true) :
    (Disk.mk (disk.entries.filter fun pair => keeps pair.1)).Rooted := by
  have known : ∀ place, place ≠ [] →
      (Disk.mk (disk.entries.filter fun pair => keeps pair.1)).get? place =
        if keeps place then disk.get? place else none := fun place below => by
    rw [Disk.get?, if_neg below, lookup_filter, Disk.get?, if_neg below]
  constructor
  · exact rooted.filter _
  · intro above place entry there higher apart
    by_cases top : above = []
    · rw [top]
      exact Disk.get?_nil
    · have below : place ≠ [] := by
        rintro rfl
        exact top (List.prefix_nil.mp higher)
      rw [known place below] at there
      obtain ⟨kept, there⟩ := Option.ite_none_right_eq_some.mp there
      rw [known above top, if_pos (upward higher kept)]
      exact rooted.grounded there higher apart

theorem Disk.ne_nil_of_below (below : above <+: place) (apart : place ≠ above) : place ≠ [] := by
  rintro rfl
  exact apart (List.prefix_nil.mp below).symm

/-- What is below a place that is below another one is below that one. -/
theorem Disk.ne_of_below {folder : Location} (below : folder <+: above) (apart : above ≠ folder)
    (further : above <+: place) : place ≠ folder := by
  rintro rfl
  exact apart (List.Sublist.antisymm further.sublist below.sublist)

theorem Disk.Rooted.eraseBelow (rooted : disk.Rooted) (folder : Location) :
    (disk.eraseBelow folder).Rooted := by
  refine rooted.restrict (fun other => ¬ (folder <+: other ∧ other ≠ folder)) ?_
  intro above place higher kept
  refine decide_eq_true fun inside => of_decide_eq_true kept ?_
  exact ⟨inside.1.trans higher, Disk.ne_of_below inside.1 inside.2 higher⟩

/-- A deletion that breaks off takes nothing away that something else stands in. -/
theorem Disk.Rooted.thin (rooted : disk.Rooted) (folder : Location) (trouble : Trouble) :
    (disk.thin folder trouble.keeps).Rooted := by
  refine rooted.restrict
    (fun other => ¬ (folder <+: other ∧ other ≠ folder ∧ trouble.keeps other = false)) ?_
  intro above place higher kept
  refine decide_eq_true fun lost => of_decide_eq_true kept ?_
  refine ⟨lost.1.trans higher, Disk.ne_of_below lost.1 lost.2.1 higher, ?_⟩
  by_contra stays
  rw [Bool.not_eq_false] at stays
  exact Bool.false_ne_true (lost.2.2.symm.trans (trouble.upward higher stays))

/-- Something is taken away that nothing stands in. -/
theorem Disk.Rooted.erase (rooted : disk.Rooted)
    (bare : ∀ other, place <+: other → other ≠ place → disk.get? other = none) :
    (disk.erase place).Rooted := by
  constructor
  · exact rooted.filter _
  · intro above other entry there higher apart
    by_cases same : other = place
    · subst same
      by_cases top : other = []
      · exact absurd (List.prefix_nil.mp (top ▸ higher)) (top ▸ apart)
      · rw [disk.get?_erase_self top] at there
        cases there
    · rw [Disk.get?_erase_of_ne same] at there
      rw [Disk.get?_erase_of_ne]
      · exact rooted.grounded there higher apart
      · rintro rfl
        cases there.symm.trans (bare other higher same)

theorem Disk.Rooted.dropFile (rooted : disk.Rooted) (dropped : disk.dropFile path = .ok next) :
    next.Rooted := by
  obtain ⟨⟨place, entry⟩, found, dropped⟩ := Disk.ok_of_bind dropped
  obtain ⟨-, there⟩ := Disk.find_eq_ok.mp found
  have bare : entry ≠ .folder → (disk.erase place).Rooted := by
    refine fun other => rooted.erase fun further below apart => ?_
    by_contra stands
    obtain ⟨inner, stands⟩ := Option.ne_none_iff_exists'.mp stands
    have folder := rooted.grounded stands below (Ne.symm apart)
    exact other (Option.some.inj (there.symm.trans folder))
  cases entry with
  | folder => cases dropped
  | file bytes | link target =>
      cases dropped
      exact bare nofun

/-- A folder that was emptied is still where its path leads to, if that leads anywhere. -/
theorem Disk.eq_of_resolve_eraseBelow {inner : Entry}
    (found : disk.find follow path = .ok (base, entry))
    (again : (disk.eraseBelow base).resolve follow path = .ok place)
    (there : (disk.eraseBelow base).get? place = some inner) : place = base := by
  have kept : ∀ place entry, (disk.eraseBelow base).get? place = some entry →
      disk.get? place = some entry := by
    intro place entry there
    rw [Disk.get?_eraseBelow] at there
    exact (Option.ite_none_left_eq_some.mp there).2
  have same := Disk.find_mono (Disk.find_eq_ok.mpr ⟨again, there⟩) kept
  rw [found] at same
  cases same
  rfl

theorem Disk.Rooted.dropFolder (rooted : disk.Rooted)
    (dropped : disk.dropFolder path = .ok next) : next.Rooted := by
  obtain ⟨⟨own, entry⟩, found, dropped⟩ := Disk.ok_of_bind dropped
  have emptied := rooted.eraseBelow own
  cases entry with
  | file bytes | link target => cases dropped
  | folder =>
      cases again : (disk.eraseBelow own).resolve false path with
      | error fault =>
          simp only [again] at dropped
          cases dropped
          exact emptied
      | ok place =>
          simp only [again] at dropped
          cases dropped
          refine emptied.erase fun other below apart => ?_
          by_contra stands
          obtain ⟨inner, stands⟩ := Option.ne_none_iff_exists'.mp stands
          have there := emptied.grounded stands below (Ne.symm apart)
          obtain rfl := Disk.eq_of_resolve_eraseBelow found again there
          rw [Disk.get?_eraseBelow, if_pos] at stands
          · cases stands
          · exact ⟨below, apart, Disk.ne_nil_of_below below apart⟩

end Restage
