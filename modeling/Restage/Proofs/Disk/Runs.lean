import Mathlib.Logic.Relation
import Restage.Download
import Restage.Group
import Restage.Proofs.Disk.Sound
import Restage.Proofs.Manager.Sweeping

/-!
# Disks of a run

The service stages slices and sweeps, and others make and take away files, folders and links as they
like. `Disk.Step` lists all of that, and `Disk.Rooted.run` says that it leaves a disk on which every
place is taken once, by names, and on which everything stands in folders. Whatever an archive holds
and however deletions break off, this does not change. So every disk of a run is one that a sweep
relies on (`Disk.Sound`).
-/

namespace Restage

variable {disk next : Disk} {base place : Location} {entry : Entry} {follow : Bool} {links : Nat}
  {steps : List Component} {path archive target : Path} {trouble : Trouble} {now : Instant}

/-! ## Archives -/

/-- A rooted disk with a folder at a place. -/
structure Disk.Hosts (disk : Disk) (base : Location) : Prop extends Disk.Rooted disk where
  folder : disk.get? base = some .folder

theorem Disk.Hosts.put (hosts : disk.Hosts base) (plain : Disk.Plain steps)
    (walked : disk.walk follow links base steps = .ok place)
    (free : disk.get? place ≠ some .folder) (entry : Entry) : (disk.put place entry).Hosts base := by
  have spot := hosts.spot_of_walk hosts.folder plain walked
  refine ⟨hosts.toRooted.put spot free entry, ?_⟩
  have below : place ≠ [] := by
    rintro rfl
    exact free Disk.get?_nil
  rw [Disk.get?_put below, if_neg]
  · exact hosts.folder
  · rintro rfl
    exact free hosts.folder

theorem Archive.plain_names {name : String} (named : namesOf? name = some steps) :
    Disk.Plain steps := by
  simp only [namesOf?] at named
  split at named
  · cases named
  · split at named
    · cases named
    · next names =>
        cases named
        intro part inside
        exact Disk.plain_components ⟨name⟩ part (List.mem_of_mem_filter inside)

theorem Archive.makeWay_hosts {before : List Component} (hosts : disk.Hosts base)
    (plain : Disk.Plain (before ++ steps)) (made : makeWay disk base before steps = .ok next) :
    next.Hosts base := by
  induction steps generalizing disk before with
  | nil =>
      cases made
      exact hosts
  | cons step rest ih =>
      have onward : Disk.Plain ((before ++ [step]) ++ rest) := by
        rwa [List.append_assoc, List.singleton_append]
      have so_far : Disk.Plain (before ++ [step]) := fun part inside =>
        onward part (List.mem_append_left _ inside)
      rw [makeWay] at made
      split at made
      · exact ih hosts onward made
      · next absent =>
          obtain ⟨-, -, made⟩ := Disk.ok_of_bind made
          obtain ⟨place, walked, made⟩ := Disk.ok_of_bind made
          refine ih (hosts.put so_far walked ?_ .folder) onward made
          rw [walked] at absent
          intro folder
          exact absent (by simp [Except.toOption, folder])

section Member

variable (hosts : disk.Hosts base) (plain : Disk.Plain steps)
  (walked : disk.walk false Disk.mostLinks base steps = .ok place)

include hosts plain walked

theorem Archive.putFolder_hosts (put : putFolder disk base place steps = .ok next) :
    next.Hosts base := by
  unfold putFolder at put
  split at put
  · next there =>
      cases put
      exact hosts.put plain walked (by simp [there]) .folder
  · split at put
    · cases put
      exact hosts
    · cases put

theorem Archive.putOver_hosts (put : putOver disk place entry = .ok next) : next.Hosts base := by
  unfold putOver at put
  split at put
  · cases put
  · next free =>
      cases put
      exact hosts.put plain walked free entry

theorem Archive.putHardLink_hosts {source : String}
    (put : putHardLink disk base place source = .ok next) : next.Hosts base := by
  obtain ⟨-, -, put⟩ := Disk.ok_of_bind put
  obtain ⟨source, -, put⟩ := Disk.ok_of_bind put
  split at put
  · cases put
  · cases put
  · cases put
  · next there =>
      cases put
      exact hosts.put plain walked (by simp [there]) _

end Member

/-- Whatever a member says, it is put into a folder. -/
theorem Archive.unpackMember_hosts {member : Tar.Member} (hosts : disk.Hosts base)
    (unpacked : unpackMember disk base member = .ok next) : next.Hosts base := by
  unfold unpackMember at unpacked
  split at unpacked
  · cases unpacked
    exact hosts
  · next steps named =>
      have plain := plain_names named
      obtain ⟨disk, made, unpacked⟩ := Disk.ok_of_bind unpacked
      have hosts := makeWay_hosts hosts
        (fun part inside => plain part ((List.dropLast_sublist _).subset inside)) made
      obtain ⟨-, -, unpacked⟩ := Disk.ok_of_bind unpacked
      obtain ⟨place, walked, unpacked⟩ := Disk.ok_of_bind unpacked
      cases kind : member.kind with
      | folder =>
          simp only [kind] at unpacked
          exact putFolder_hosts hosts plain walked unpacked
      | hardLink =>
          cases link : member.link with
          | none => simp only [kind, link, reduceCtorEq] at unpacked
          | some target =>
              simp only [kind, link] at unpacked
              split at unpacked
              · cases unpacked
              · exact putHardLink_hosts hosts plain walked unpacked
      | symbolicLink =>
          cases link : member.link with
          | none => simp only [kind, link, reduceCtorEq] at unpacked
          | some target =>
              simp only [kind, link] at unpacked
              split at unpacked
              · cases unpacked
              · exact putOver_hosts hosts plain walked unpacked
      | longName | longLink | records | globalRecords =>
          simp only [kind] at unpacked
          cases unpacked
          exact hosts
      | file | sparse =>
          simp only [kind] at unpacked
          split at unpacked
          · exact putFolder_hosts hosts plain walked unpacked
          · exact putOver_hosts hosts plain walked unpacked

theorem Archive.unpackAll_hosts (hosts : disk.Hosts base) (members : List Tar.Member) :
    (unpackAll disk base members).1.Hosts base := by
  induction members generalizing disk with
  | nil => exact hosts
  | cons member rest ih =>
      rw [unpackAll]
      split
      · exact hosts
      · next unpacked => exact ih (unpackMember_hosts hosts unpacked)

theorem Archive.unpackBelow_rooted (rooted : disk.Rooted) (bytes : ByteArray) :
    (unpackBelow disk archive target bytes).1.Rooted := by
  unfold unpackBelow
  split
  · next base members found read =>
      have hosts : disk.Hosts base := ⟨rooted, (Disk.find_eq_ok.mp found).2⟩
      have unpacked := unpackAll_hosts hosts (unpackOrder members)
      split <;> next same => exact (same ▸ unpacked).toRooted
  · exact rooted

/-- Whatever an archive holds, it is unpacked into folders. -/
theorem Archive.extract_rooted (rooted : disk.Rooted) (archive target : Path) :
    (extract disk archive target).1.Rooted := by
  have made := rooted.makeFoldersAt target
  unfold extract
  split
  · split
    · exact rooted
    · exact rooted
    · split
      · next same =>
          rw [same] at made
          exact made
      · next same =>
          rw [same] at made
          exact unpackBelow_rooted made _
  · exact rooted

/-! ## Slices -/

theorem Download.discard_rooted (rooted : disk.Rooted) (path : Path) :
    (discard disk path).Rooted := by
  rw [discard]
  cases dropped : disk.dropFile path with
  | error fault => exact rooted
  | ok next => exact rooted.dropFile dropped

theorem Download.stream_rooted (rooted : disk.Rooted) (destination : Path)
    (events : List BodyEvent) : (stream disk destination events).1.Rooted := by
  rw [stream]
  rcases copy destination ByteArray.empty events with ⟨written, fault?⟩
  cases put : disk.putFile destination written with
  | error fault =>
      simp only [put]
      exact rooted
  | ok stored =>
      have stored := rooted.putFile put
      simp only [put]
      cases fault? with
      | none => exact stored
      | some fault => exact discard_rooted stored destination

theorem Download.stage_rooted (rooted : disk.Rooted) (archive target : Path)
    (expected downloaded : Nat) : (stage disk archive target expected downloaded).1.Rooted := by
  have extracted := Archive.extract_rooted rooted archive target
  rw [stage, stageBy, unpacker]
  split
  · exact rooted
  · cases same : Archive.extract disk archive target with
    | mk next ending =>
        rw [same] at extracted
        cases ending with
        | ok files => exact extracted
        | error refusal => exact extracted

theorem Download.fetchBy_rooted (rooted : disk.Rooted) (piece : Piece) (answer : Answer) :
    (fetchBy unpacker disk piece answer).1.Rooted := by
  cases answer with
  | missing | failed | cancelled => exact rooted
  | body events =>
      have streamed := stream_rooted rooted piece.archivePath events
      rw [fetchBy]
      split
      · next same =>
          rw [same] at streamed
          exact streamed
      · next same =>
          rw [same] at streamed
          exact stage_rooted streamed _ _ _ _

/-- However a slice is processed and whatever its archive holds. -/
theorem Download.process_rooted (rooted : disk.Rooted) (piece : Piece) (answer : Answer) :
    (process disk piece answer).1.Rooted := by
  have made := rooted.makeFoldersAt piece.target
  rw [process, processBy]
  split
  · next same =>
      rw [same] at made
      exact made
  · next there same =>
      rw [same] at made
      have fetched := fetchBy_rooted made piece answer
      split <;> next same =>
        rw [same] at fetched
        exact discard_rooted fetched _

/-! ## Sweeps -/

theorem Trouble.delete_rooted (trouble : Trouble) (rooted : disk.Rooted) (path : Path) :
    (trouble.delete disk path).1.Rooted := by
  unfold Trouble.delete
  split
  · split
    · exact rooted.thin _ trouble
    · exact rooted
  · split
    · next dropped => exact rooted.dropFolder dropped
    · exact rooted

theorem Sweep.visit_rooted {sweep : Sweep} (rooted : sweep.disk.Rooted) (entry : Option String) :
    (sweep.visit trouble now entry).disk.Rooted := by
  cases entry with
  | none => exact rooted
  | some name =>
      have deleted := trouble.delete_rooted rooted (sweep.manager.home.stagingDir.join name)
      rw [Sweep.visit]
      split
      · split
        · next same =>
            rw [same] at deleted
            rwa [(Sweep.forget_disk _ _).1]
        · next same =>
            rw [same] at deleted
            exact deleted
      · exact rooted

theorem Sweep.visits_rooted {sweep : Sweep} (rooted : sweep.disk.Rooted)
    (entries : List (Option String)) :
    (entries.foldl (Sweep.visit trouble now) sweep).disk.Rooted := by
  induction entries generalizing sweep with
  | nil => exact rooted
  | cons entry rest ih => exact ih (sweep.visit_rooted rooted entry)

theorem Manager.sweep_rooted {floor : Floor} (m : Manager) (rooted : disk.Rooted) :
    (m.sweep trouble now disk floor).1.disk.Rooted := by
  rw [Manager.sweep]
  split
  · exact rooted
  · exact rooted
  · exact Sweep.visits_rooted rooted _

theorem Group.sweepEach_rooted {floor : Floor} (rooted : disk.Rooted) (managers : List Manager) :
    (sweepEach trouble now disk floor managers).1.Rooted := by
  induction managers generalizing disk floor with
  | nil => exact rooted
  | cons m rest ih => exact ih (m.sweep_rooted rooted)

theorem Group.sweep_rooted (group : Group) (rooted : disk.Rooted) :
    (group.sweep trouble now disk).1.Rooted :=
  Group.sweepEach_rooted rooted group.managers

/-! ## Runs -/

/-- What happens to a disk. -/
inductive Disk.Step : Disk → Disk → Prop
  | folders {disk : Disk} (path : Path) : Step disk (disk.makeFoldersAt path).1
  | file {disk next : Disk} {path : Path} {bytes : ByteArray}
    (put : disk.putFile path bytes = .ok next) : Step disk next
  | link {disk next : Disk} {path : Path} {target : String}
    (made : disk.makeLink path target = .ok next) : Step disk next
  | dropFile {disk next : Disk} {path : Path} (dropped : disk.dropFile path = .ok next) :
    Step disk next
  | dropFolder {disk next : Disk} {path : Path} (dropped : disk.dropFolder path = .ok next) :
    Step disk next
  /-- A slice is processed. -/
  | process {disk : Disk} (piece : Piece) (answer : Answer) :
    Step disk (Download.process disk piece answer).1
  /-- The staging directory of one instance is swept. -/
  | sweepOne {disk : Disk} (trouble : Trouble) (now : Instant) (floor : Floor) (m : Manager) :
    Step disk (m.sweep trouble now disk floor).1.disk
  /-- The staging directories of all instances are swept. -/
  | sweep {disk : Disk} (trouble : Trouble) (now : Instant) (group : Group) :
    Step disk (group.sweep trouble now disk).1

theorem Disk.Rooted.step (rooted : disk.Rooted) (step : disk.Step next) : next.Rooted := by
  cases step with
  | folders path => exact rooted.makeFoldersAt path
  | file put => exact rooted.putFile put
  | link made => exact rooted.makeLink made
  | dropFile dropped => exact rooted.dropFile dropped
  | dropFolder dropped => exact rooted.dropFolder dropped
  | process piece answer => exact Download.process_rooted rooted piece answer
  | sweepOne trouble now floor m => exact m.sweep_rooted rooted
  | sweep trouble now group => exact group.sweep_rooted rooted

/-- Whatever happens to an empty disk, every place on it is taken once, by names, and all that stands
on it stands in folders. -/
theorem Disk.Rooted.run (run : Relation.ReflTransGen Disk.Step (Disk.mk []) disk) :
    disk.Rooted := by
  induction run with
  | refl => exact Disk.rooted_empty
  | tail before step ih => exact ih.step step

end Restage
