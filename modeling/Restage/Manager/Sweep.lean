import Restage.Disk.Obsolete
import Restage.Disk.Trouble
import Restage.Manager

/-!
# Sweeping the staging directory

A sweep goes through the children of an instance's staging directory and deletes every obsolete job
directory. With a directory goes the tracker of its job. A directory whose deletion breaks off is
passed over and reported in the end, and so is the staging directory for each of its entries that
cannot be read.
-/

namespace Restage

/-- How far a sweep has come. -/
structure Sweep where
  disk : Disk
  floor : Floor
  manager : Manager
  deleted : Nat := 0
  refused : List Path := []

namespace Sweep

/-- Lets go of the job that a deleted directory was named for. -/
def forget (sweep : Sweep) (name : String) : Sweep :=
  match JobDir.id? name with
  | none => sweep
  | some job =>
      let (floor, manager, _) := sweep.manager.removeJob sweep.floor job
      { sweep with floor := floor, manager := manager }

/-- Notes a path for the answer. -/
def note (sweep : Sweep) (path : Path) : Sweep := { sweep with refused := sweep.refused ++ [path] }

/-- Comes to an entry of the staging directory. A child that is obsolete is deleted, and its job let
go. If the deletion breaks off the child still stands, but may have lost some or all of what it
held; its job stays. -/
def visit (trouble : Trouble) (now : Instant) (sweep : Sweep) : Option String → Sweep
  | none => sweep.note sweep.manager.home.stagingDir
  | some name =>
      let path := sweep.manager.home.stagingDir.join name
      if sweep.disk.IsObsolete path sweep.manager.recency now then
        match trouble.delete sweep.disk path with
        | (disk, true) => { sweep with disk := disk, deleted := sweep.deleted + 1 }.forget name
        | (disk, false) => { sweep with disk := disk }.note path
      else sweep

/-- What a sweep that is through answers: how many directories it deleted, or the paths it noted. -/
def answer (sweep : Sweep) : Except Fault Nat :=
  if sweep.refused = [] then .ok sweep.deleted else .error (.cleanupFailed sweep.refused)

end Sweep

/-- Sweeps the staging directory of a manager's instance. A directory that is not there yet holds
nothing. -/
def Manager.sweep (trouble : Trouble) (now : Instant) (disk : Disk) (floor : Floor)
    (manager : Manager) : Sweep × Except Fault Nat :=
  let sweep : Sweep := { disk := disk, floor := floor, manager := manager }
  match disk.list manager.home.stagingDir with
  | .error .notFound => (sweep, .ok 0)
  | .error fault => (sweep, .error (.io fault.message))
  | .ok names =>
      let entries := trouble.reads manager.home.stagingDir names
      let sweep := entries.foldl (Sweep.visit trouble now) sweep
      (sweep, sweep.answer)

end Restage
