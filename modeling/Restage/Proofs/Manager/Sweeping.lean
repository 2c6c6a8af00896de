import Restage.Proofs.Manager.Foreseen
import Restage.Proofs.Manager.Forgetting

/-!
# Sweeps of a staging directory

A sweep deletes the children of the staging directory that it reads, that are obsolete and whose
deletion does not break off (`Manager.doomed`), and lets go of the jobs that they were named for.
Those whose deletion breaks off (`Manager.spared`) may lose what they hold. It notes these, and the
staging directory for each entry that it cannot read (`Manager.notes`).

That holds as long as the path of the staging directory leads to it when all that goes is gone.
`Manager.sweep_goes_astray` is a sweep whose path leads through a directory that it deletes.
-/

namespace Restage

variable {disk : Disk} {root : Location} {name : String} {now : Instant} {trouble : Trouble}
  {m : Manager} {floor : Floor}

/-! ## Sweeps -/

section Foreseen

variable (m : Manager) (trouble : Trouble) (now : Instant) (disk : Disk) (root : Location)

/-- What a sweep reads of the names in a folder. -/
def Manager.reads : List (Option String) := trouble.reads m.home.stagingDir (disk.namesIn root)

/-- The children of a folder that a sweep deletes: those that it reads, that are obsolete and whose
deletion does not break off. -/
def Manager.doomed : List String :=
  Sweep.doomed trouble now m.home m.recency disk (m.reads trouble disk root)

/-- The children of a folder that a sweep tries to delete in vain: those that it reads, that are
obsolete and whose deletion breaks off. -/
def Manager.spared : List String :=
  Sweep.spared trouble now m.home m.recency disk (m.reads trouble disk root)

/-- What a sweep of a folder notes: the path of each child whose deletion breaks off and, for each
entry that cannot be read, the path of the folder. -/
def Manager.notes : List Path :=
  Sweep.notes trouble now m.home m.recency disk (m.reads trouble disk root)

end Foreseen

/-- What a sweep makes of its staging directory, which is at `root`, when it deletes some children
there, breaks off the deletion of others and notes some paths. -/
structure Manager.Swept (m : Manager) (floor : Floor) (disk : Disk) (keeps : Location → Bool)
    (root : Location) (gone left : List String) (noted : List Path) (sweep : Sweep)
    (answer : Except Fault Nat) : Prop where
  /-- What was deleted is gone with all it held. Where a deletion broke off the child still stands,
  and only what it held and was not kept is lost. All else is as it was. -/
  places : ∀ place, sweep.disk.get? place =
    if Disk.Below root gone place ∨ Disk.Lost keeps root left place then none
    else disk.get? place
  /-- The jobs that the deleted children were named for are let go, and no others. -/
  jobs : m.Forgot floor (gone.filterMap JobDir.id?) sweep.manager sweep.floor
  answer : answer = if noted = [] then .ok gone.length else .error (.cleanupFailed noted)

/-- A sweep tries to delete the obsolete children of its staging directory that it reads, whatever
others stand there, whichever deletions break off and whatever these leave, as long as the path of
the staging directory leads to it when all that goes is gone. -/
theorem Manager.sweep_deletes_what_is_obsolete (sound : disk.Sound)
    (stands : (disk.cleaned trouble.keeps root (m.doomed trouble now disk root)
      (m.spared trouble now disk root)).find true m.home.stagingDir = .ok (root, .folder)) :
    m.Swept floor disk trouble.keeps root (m.doomed trouble now disk root)
      (m.spared trouble now disk root) (m.notes trouble now disk root)
      (m.sweep trouble now disk floor).1 (m.sweep trouble now disk floor).2 := by
  have found := Disk.find_of_cleaned stands
  have listed := Disk.list_of_find found
  have genuine := trouble.genuine m.home.stagingDir (disk.namesIn root)
  obtain ⟨start, begun⟩ : ∃ start : Sweep, start = { disk := disk, floor := floor, manager := m } :=
    ⟨_, rfl⟩
  obtain ⟨last, through⟩ : ∃ last, last =
      (m.reads trouble disk root).foldl (Sweep.visit trouble now) start := ⟨_, rfl⟩
  have swept : m.sweep trouble now disk floor = (last, last.answer) := by
    rw [Manager.sweep, listed, through, begun]
    rfl
  have visited : Sweep.Visited trouble now m.home m.recency root (m.reads trouble disk root)
      start last := by
    rw [through]
    refine Sweep.visited (genuine.nodup (sound.nodup_namesIn root))
      (fun name read => sound.isName (genuine.subset read)) ?_ ?_
    · rw [begun]
      exact ⟨rfl, rfl⟩
    · rw [begun]
      exact stands
  have cleared : m.cleared trouble now disk =
      (m.doomed trouble now disk root).filterMap JobDir.id? := by
    have cleared := visited.cleared
    rw [begun] at cleared
    rw [Manager.cleared, listed]
    exact cleared
  have forgot := m.forgot floor (m.cleared trouble now disk)
  rw [← m.sweep_eq, cleared] at forgot
  rw [swept] at forgot ⊢
  have cleaned := visited.disk
  have counted := visited.deleted
  have noted := visited.refused
  rw [begun] at cleaned counted noted
  refine ⟨fun place => ?_, forgot, ?_⟩
  · rw [cleaned]
    exact Disk.get?_cleaned
  · rw [Sweep.answer, counted, noted]
    simp only [List.nil_append, Nat.zero_add]
    rfl

/-- The directory of a job that was made three milliseconds after the epoch. -/
def JobDir.third : String := "restore-1381b530-1dd2-11b2-8000-000000000000"

/-- The directory of a job that was made a millisecond later. -/
def JobDir.fourth : String := "restore-1381dc40-1dd2-11b2-8000-000000000000"

/-- The directory of a job that was made yet a millisecond later. -/
def JobDir.fifth : String := "restore-13820350-1dd2-11b2-8000-000000000000"

theorem JobDir.isName_third : Disk.IsName JobDir.third.toList := by
  refine ⟨⟨?_, ?_⟩, ?_, ?_⟩ <;> decide

theorem JobDir.isName_fourth : Disk.IsName JobDir.fourth.toList := by
  refine ⟨⟨?_, ?_⟩, ?_, ?_⟩ <;> decide

theorem JobDir.isName_fifth : Disk.IsName JobDir.fifth.toList := by
  refine ⟨⟨?_, ?_⟩, ?_, ?_⟩ <;> decide

/-- Ten days after the epoch. -/
def Instant.tenthDay : Instant := ⟨864000000000000⟩

/-- The directories of the first second are outdated by then. -/
theorem JobDir.outdated_of_born {created : Int}
    (born : (JobDir.id? name).bind TimeId.unixMillis? = some created) (early : created < 1000) :
    JobDir.IsOutdated name (.ofDays 5) .tenthDay := by
  have days : ((Span.ofDays 5).millis : Int) = 432000000 := by decide
  have reading : Instant.tenthDay.millis = 864000000 := by decide
  rw [JobDir.isOutdated_iff born, days, reading]
  omega

theorem JobDir.outdated_third : JobDir.IsOutdated JobDir.third (.ofDays 5) .tenthDay := by
  have born : (JobDir.id? JobDir.third).bind TimeId.unixMillis? = some 3 := by decide
  exact @JobDir.outdated_of_born JobDir.third 3 born (by decide)

theorem JobDir.outdated_fourth : JobDir.IsOutdated JobDir.fourth (.ofDays 5) .tenthDay := by
  have born : (JobDir.id? JobDir.fourth).bind TimeId.unixMillis? = some 4 := by decide
  exact @JobDir.outdated_of_born JobDir.fourth 4 born (by decide)

theorem JobDir.outdated_fifth : JobDir.IsOutdated JobDir.fifth (.ofDays 5) .tenthDay := by
  have born : (JobDir.id? JobDir.fifth).bind TimeId.unixMillis? = some 5 := by decide
  exact @JobDir.outdated_of_born JobDir.fifth 5 born (by decide)

/-- An entry of each listing cannot be read, and the deletion of one directory breaks off when only
the places of some depth are left. -/
def Trouble.breaking (path : Path) (depth : Nat) : Trouble where
  refuses := fun other => other = path
  keeps := fun place => place.length ≤ depth
  upward := fun above kept =>
    decide_eq_true (Nat.le_trans above.length_le (of_decide_eq_true kept))
  reads := fun _ names => none :: names.map some
  genuine := fun _ names => by simp

/-- A staging directory with two job directories, each of which holds a file. -/
def Disk.staged : Disk := ⟨[(["s"], .folder), (["s", JobDir.third], .folder),
  (["s", JobDir.third, "x"], .file .empty), (["s", JobDir.fourth], .folder),
  (["s", JobDir.fourth, "x"], .file .empty)]⟩

/-- The elder job has a slice that waits. -/
def Floor.staged : Floor where
  slices := #[{ Slice.ofPiece ⟨"", .ofMillis 3, 0, "k", "t", "b", "x", 0, ⟨"/s"⟩, []⟩ with
    state := .pending, owner := some 0 }]
  trackers := #[⟨⟨0, ⟨.ofMillis 3, "k", "t", none, .created, ⟨0⟩⟩⟩,
    [((Slice.ofPiece ⟨"", .ofMillis 3, 0, "k", "t", "b", "x", 0, ⟨"/s"⟩, []⟩).slot, 0)], none, 0,
    true⟩]

def Manager.staged : Manager :=
  { Manager.ofInstance ⟨1, "db", 7000, ⟨"/s"⟩⟩ (.ofDays 5) 1 0 with jobs := [(.ofMillis 3, 0)] }

theorem Disk.sound_staged : Disk.staged.Sound where
  once := by decide
  named := by
    have short : ∀ name ∈ ["s", "x"], Disk.IsName name.toList := by
      intro name listed
      simp only [List.mem_cons, List.not_mem_nil, or_false] at listed
      rcases listed with rfl | rfl <;> (refine ⟨⟨?_, ?_⟩, ?_, ?_⟩ <;> decide)
    have parts : ∀ place ∈ Disk.staged.entries.map Prod.fst, ∀ name ∈ place,
        name ∈ ["s", "x"] ∨ name = JobDir.third ∨ name = JobDir.fourth := by decide
    intro place listed name part
    rcases parts place listed name part with plain | rfl | rfl
    · exact short name plain
    · exact JobDir.isName_third
    · exact JobDir.isName_fourth

/-- The staging directory is found on any disk that has it. -/
theorem Disk.find_staging (there : disk.get? ["s"] = some .folder) :
    disk.find true ⟨"/s"⟩ = .ok (["s"], .folder) := by
  have steps : Disk.stepsOf "/s".toList = [.root, .here, .name ['s']] := by decide
  have fits : Disk.Fits ['s'] := ⟨by decide, by decide⟩
  have leads : disk.Leads true Disk.mostLinks [] (Disk.stepsOf "/s".toList) ["s"] := by
    rw [steps]
    exact .root (.here (.folder fits there .done))
  refine Disk.find_eq_ok.mpr ⟨?_, there⟩
  rw [Disk.resolve, if_neg (by decide), if_neg (by decide)]
  exact leads.walk

/-- The deletion of the second directory breaks off once its file is deleted. The first one goes, and
with it its file and the job, whose slice is cancelled. -/
theorem Manager.sweep_of_staged :
    ∃ sweep answer, Manager.staged.sweep (.breaking ⟨"/s/" ++ JobDir.fourth⟩ 2) .tenthDay .staged
        .staged = (sweep, answer) ∧
      answer = .error (.cleanupFailed [⟨"/s"⟩, ⟨"/s/" ++ JobDir.fourth⟩]) ∧
      sweep.disk.get? ["s", JobDir.third] = none ∧
      sweep.disk.get? ["s", JobDir.third, "x"] = none ∧
      sweep.disk.get? ["s", JobDir.fourth] = some .folder ∧
      sweep.disk.get? ["s", JobDir.fourth, "x"] = none ∧
      sweep.floor.stateOf? 0 = some .cancelled := by
  generalize breaking : Trouble.breaking ⟨"/s/" ++ JobDir.fourth⟩ 2 = trouble
  have found : Disk.staged.find true ⟨"/s"⟩ = .ok (["s"], .folder) := Disk.find_staging rfl
  have third : Disk.staged.IsObsolete (Path.join ⟨"/s"⟩ JobDir.third) (.ofDays 5) .tenthDay :=
    (Disk.isObsolete_child found JobDir.isName_third).mpr ⟨by decide, rfl, JobDir.outdated_third⟩
  have fourth : Disk.staged.IsObsolete (Path.join ⟨"/s"⟩ JobDir.fourth) (.ofDays 5) .tenthDay :=
    (Disk.isObsolete_child found JobDir.isName_fourth).mpr ⟨by decide, rfl, JobDir.outdated_fourth⟩
  have granted : trouble.refuses (Path.join ⟨"/s"⟩ JobDir.third) = false := by
    rw [← breaking]
    decide
  have refused : trouble.refuses (Path.join ⟨"/s"⟩ JobDir.fourth) = true := by
    rw [← breaking]
    decide
  have names : Disk.staged.namesIn ["s"] = [JobDir.third, JobDir.fourth] := by decide
  have reads : Manager.staged.reads trouble .staged ["s"] =
      [none, some JobDir.third, some JobDir.fourth] := by
    rw [Manager.reads, names, ← breaking]
    rfl
  obtain ⟨third_gone, third_left, third_noted⟩ := @Sweep.foreseen_granted Disk.staged JobDir.third
    [some JobDir.fourth] (.ofDays 5) .tenthDay trouble Manager.staged.home third granted
  obtain ⟨fourth_gone, fourth_left, fourth_noted⟩ := @Sweep.foreseen_refused Disk.staged
    JobDir.fourth [] (.ofDays 5) .tenthDay trouble Manager.staged.home fourth refused
  have gone : Manager.staged.doomed trouble .tenthDay .staged ["s"] = [JobDir.third] := by
    rw [Manager.doomed, reads]
    exact third_gone.trans (congrArg _ fourth_gone)
  have left : Manager.staged.spared trouble .tenthDay .staged ["s"] = [JobDir.fourth] := by
    rw [Manager.spared, reads]
    exact third_left.trans fourth_left
  have noted : Manager.staged.notes trouble .tenthDay .staged ["s"] =
      [⟨"/s"⟩, ⟨"/s/" ++ JobDir.fourth⟩] := by
    rw [Manager.notes, reads]
    exact congrArg _ (third_noted.trans fourth_noted)
  have stands : (Disk.staged.cleaned trouble.keeps ["s"]
      (Manager.staged.doomed trouble .tenthDay .staged ["s"])
      (Manager.staged.spared trouble .tenthDay .staged ["s"])).find true
      Manager.staged.home.stagingDir = .ok (["s"], .folder) := by
    rw [gone, left]
    refine Disk.find_staging ?_
    rw [Disk.get?_cleaned, if_neg]
    · rfl
    · rw [← breaking]
      decide
  have swept := @Manager.sweep_deletes_what_is_obsolete Disk.staged ["s"] .tenthDay trouble
    Manager.staged Floor.staged Disk.sound_staged stands
  rw [gone, left, noted] at swept
  cases done : Manager.staged.sweep trouble .tenthDay .staged .staged with
  | mk sweep answer =>
  rw [done] at swept
  obtain ⟨places, forgot, answered⟩ := swept
  refine ⟨sweep, answer, rfl, answered, ?_, ?_, ?_, ?_, ?_⟩
  · rw [places]
    exact if_pos (.inl (by decide))
  · rw [places]
    exact if_pos (.inl (by decide))
  · rw [places, if_neg]
    · rfl
    · rw [← breaking]
      decide
  · rw [places]
    refine if_pos (.inr ?_)
    rw [← breaking]
    decide
  · rw [Floor.stateOf?, forgot.slices]
    decide

/-- Three job directories in the root, the youngest of which holds a file. -/
def Disk.facing : Disk := ⟨[([JobDir.fifth], .folder), ([JobDir.fifth, "x"], .file .empty),
  ([JobDir.third], .folder), ([JobDir.fourth], .folder)]⟩

/-- The same when the file is lost. -/
def Disk.spoilt : Disk :=
  ⟨[([JobDir.fifth], .folder), ([JobDir.third], .folder), ([JobDir.fourth], .folder)]⟩

/-- The same when the eldest directory is gone. -/
def Disk.astray : Disk := ⟨[([JobDir.fifth], .folder), ([JobDir.fourth], .folder)]⟩

/-- A way to the root that leads through the eldest one. -/
def Path.winding : Path := ⟨"/" ++ JobDir.third ++ "/.."⟩

def Manager.winding : Manager := .ofInstance ⟨1, "db", 7000, .winding⟩ (.ofDays 5) 1 0

theorem Disk.stepsOf_winding : Disk.stepsOf Path.winding.text.toList =
    [.root, .here, .name JobDir.third.toList, .up] := by decide

theorem Disk.find_winding (there : disk.get? [JobDir.third] = some .folder) :
    disk.find true .winding = .ok ([], .folder) := by
  have leads : disk.Leads true Disk.mostLinks [] (Disk.stepsOf Path.winding.text.toList) [] := by
    rw [Disk.stepsOf_winding]
    exact .root (.here (.folder JobDir.isName_third.toFits there (.up .done)))
  refine Disk.find_eq_ok.mpr ⟨?_, if_pos rfl⟩
  rw [Disk.resolve, if_neg (by decide), if_neg (by decide)]
  exact leads.walk

/-- Without the eldest directory the way is lost. -/
theorem Disk.entryAt?_winding (missing : disk.get? [JobDir.third] = none) :
    disk.entryAt? (Path.winding.join JobDir.fourth) = none := by
  have spelled : Path.winding.text ≠ "" := by decide
  obtain ⟨before, steps, joined⟩ :=
    Disk.stepsOf_join spelled JobDir.isName_fourth.slashless JobDir.isName_fourth.step
  obtain rfl : before = [.root, .here, .name JobDir.third.toList, .up] := by
    rw [Disk.stepsOf_winding] at steps
    rcases steps with same | slash
    · exact same.symm
    · have last := congrArg List.getLast? slash
      rw [List.getLast?_concat] at last
      cases last
  cases resolved : disk.resolve false (Path.winding.join JobDir.fourth) with
  | error fault => exact Disk.entryAt?_of_error resolved
  | ok place =>
      have leads := (Disk.leads_of_resolve resolved).2.2
      rw [joined] at leads
      rcases leads with _ | ⟨_ | _ | ⟨_ | _ | _ | _ | ⟨_, there⟩ | _ | ⟨_, there⟩⟩⟩
      · exact nomatch missing.symm.trans there
      · exact nomatch missing.symm.trans there

section Astray

variable {noted : List Path}

/-- The path whose deletion breaks off. -/
def Path.breaking : Path := Path.winding.join JobDir.fifth

/-- The deletion of the youngest directory breaks off when its file is lost. -/
theorem Sweep.visit_facing :
    Sweep.visit (.breaking .breaking 1) .tenthDay ⟨.facing, {}, .winding, 0, noted⟩
      (some JobDir.fifth) = ⟨.spoilt, {}, .winding, 0, noted ++ [.breaking]⟩ := by
  have found : Disk.facing.find true .winding = .ok ([], .folder) := Disk.find_winding rfl
  have obsolete : Disk.facing.IsObsolete .breaking (.ofDays 5) .tenthDay :=
    (Disk.isObsolete_child found JobDir.isName_fifth).mpr ⟨by decide, rfl, JobDir.outdated_fifth⟩
  have refused : (Trouble.breaking .breaking 1).refuses .breaking = true := by decide
  exact @Sweep.visit_refused [] JobDir.fifth .tenthDay (.breaking .breaking 1)
    ⟨.facing, {}, .winding, 0, noted⟩ found JobDir.isName_fifth obsolete refused

/-- The eldest one is deleted, through which the path leads. -/
theorem Sweep.visit_spoilt :
    Sweep.visit (.breaking .breaking 1) .tenthDay ⟨.spoilt, {}, .winding, 0, noted⟩
      (some JobDir.third) = ⟨.astray, {}, .winding, 1, noted⟩ := by
  have found : Disk.spoilt.find true .winding = .ok ([], .folder) := Disk.find_winding rfl
  have emptied : (Disk.spoilt.eraseBelow [JobDir.third]).find true .winding = .ok ([], .folder) :=
    Disk.find_winding rfl
  have obsolete : Disk.spoilt.IsObsolete (Path.winding.join JobDir.third) (.ofDays 5) .tenthDay :=
    (Disk.isObsolete_child found JobDir.isName_third).mpr ⟨by decide, rfl, JobDir.outdated_third⟩
  have granted : (Trouble.breaking .breaking 1).refuses (Path.winding.join JobDir.third) =
    false := by decide
  have decoded : JobDir.id? JobDir.third = some (.ofMillis 3) := by decide
  have deleted := @Sweep.visit_deleted [] JobDir.third .tenthDay (.breaking .breaking 1)
    ⟨.spoilt, {}, .winding, 0, noted⟩ found JobDir.isName_third obsolete granted emptied
  exact deleted.trans (Sweep.forget_unknown decoded rfl)

/-- Then the last one is not found any more. -/
theorem Sweep.visit_astray (trouble : Trouble) :
    Sweep.visit trouble .tenthDay ⟨.astray, {}, .winding, 1, noted⟩ (some JobDir.fourth) =
      ⟨.astray, {}, .winding, 1, noted⟩ := by
  have lost : ¬ Disk.astray.IsObsolete (Path.winding.join JobDir.fourth) (.ofDays 5) .tenthDay := by
    rw [Disk.IsObsolete, Disk.entryAt?_winding rfl]
    exact id
  exact Sweep.visit_current lost

end Astray

/-- All children of the staging directory are obsolete. The deletion of the first one breaks off, and
it loses its file. The second one is deleted, and then there is no way to the third one any more,
which the sweep takes for not obsolete and leaves alone. An entry that cannot be read is answered for
with the path of the staging directory. -/
theorem Manager.sweep_goes_astray :
    ∃ (trouble : Trouble) (sweep : Sweep) (answer : Except Fault Nat),
      Manager.winding.sweep trouble .tenthDay .facing {} = (sweep, answer) ∧
      Disk.facing.find true Manager.winding.home.stagingDir = .ok ([], .folder) ∧
      Disk.facing.namesIn [] = [JobDir.fifth, JobDir.third, JobDir.fourth] ∧
      (∀ name ∈ Disk.facing.namesIn [], Disk.facing.IsObsolete
        (Manager.winding.home.stagingDir.join name) Manager.winding.recency .tenthDay) ∧
      (∀ path, trouble.refuses path = true ↔
        path = Manager.winding.home.stagingDir.join JobDir.fifth) ∧
      sweep.disk.get? [JobDir.fourth] = some .folder ∧
      sweep.disk.get? [JobDir.fifth, "x"] = none ∧
      answer = .error (.cleanupFailed [Manager.winding.home.stagingDir,
        Manager.winding.home.stagingDir.join JobDir.fifth]) := by
  have names : Disk.facing.namesIn [] = [JobDir.fifth, JobDir.third, JobDir.fourth] := by decide
  have found : Disk.facing.find true .winding = .ok ([], .folder) := Disk.find_winding rfl
  have listed : Disk.facing.list Manager.winding.home.stagingDir =
    .ok [JobDir.fifth, JobDir.third, JobDir.fourth] :=
      (Disk.list_of_find found).trans (by rw [names])
  have unread : Sweep.visit (.breaking .breaking 1) .tenthDay ⟨.facing, {}, .winding, 0, []⟩ none =
      ⟨.facing, {}, .winding, 0, [.winding]⟩ := rfl
  have swept : Manager.winding.sweep (.breaking .breaking 1) .tenthDay .facing {} =
      (⟨.astray, {}, .winding, 1, [.winding, .breaking]⟩,
        .error (.cleanupFailed [.winding, .breaking])) := by
    have reads : (Trouble.breaking .breaking 1).reads Manager.winding.home.stagingDir
        [JobDir.fifth, JobDir.third, JobDir.fourth] =
        [none, some JobDir.fifth, some JobDir.third, some JobDir.fourth] := rfl
    rw [Manager.sweep, listed]
    simp only [reads, List.foldl_cons, List.foldl_nil, unread, Sweep.visit_facing,
      Sweep.visit_spoilt, Sweep.visit_astray]
    rfl
  refine ⟨_, _, _, swept, found, names, ?_, fun path => decide_eq_true_iff, rfl, rfl, rfl⟩
  intro name listed
  rw [names] at listed
  simp only [List.mem_cons, List.not_mem_nil, or_false] at listed
  rcases listed with rfl | rfl | rfl
  · exact (Disk.isObsolete_child found JobDir.isName_fifth).mpr
      ⟨by decide, rfl, JobDir.outdated_fifth⟩
  · exact (Disk.isObsolete_child found JobDir.isName_third).mpr
      ⟨by decide, rfl, JobDir.outdated_third⟩
  · exact (Disk.isObsolete_child found JobDir.isName_fourth).mpr
      ⟨by decide, rfl, JobDir.outdated_fourth⟩

end Restage
