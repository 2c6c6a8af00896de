import Restage.Config.Settings
import Restage.Instance
import Restage.Json.Reader

/-!
# The configuration as it is written

A configuration file is one JSON value. Each of its structures may be written as an object, where
unknown names are skipped and no known name may be repeated, or as an array of its fields in
their order, where none may be missing. A missing or null field is absent; whether it may be is up
to the structure. Whole numbers are written as digits alone.
-/

namespace Restage

namespace Json

/-- Whether no name in a list occurs in it twice. -/
def noRepeats (names : List String) : Bool :=
  match names with
  | [] => true
  | name :: rest => !rest.contains name && noRepeats rest

/-- The values of a structure's fields, in the order of their names. -/
def fields? (names : List String) : Json → Option (List (Option Json))
  | .object members =>
      match members.mapM fun (name, _) => name with
      | some given =>
          if noRepeats (given.filter names.contains) then
            some (names.map fun name => (Json.object members).member? name)
          else none
      | none => none
  | .array items => if items.length = names.length then some (items.map some) else none
  | _ => none

/-- A text that can be read. -/
def toText? : Json → Option String
  | .text value => value
  | _ => none

/-- A whole number written as digits alone, at most `most`. -/
def toNat? (most : Nat) : Json → Option Nat
  | .number lexeme =>
      let digits := lexeme.toList
      if digits.all Char.isDigit && !digits.isEmpty then
        let value := digits.foldl (fun sum c => sum * 10 + (c.toNat - 48)) 0
        if value ≤ most then some value else none
      else none
  | _ => none

def toUInt16? (json : Json) : Option UInt16 := (json.toNat? 65535).map Nat.toUInt16

def toUInt32? (json : Json) : Option UInt32 := (json.toNat? 4294967295).map Nat.toUInt32

def toUInt64? (json : Json) : Option UInt64 :=
  (json.toNat? 18446744073709551615).map Nat.toUInt64

/-- A field that may be absent or null, and is read otherwise. -/
def optional? {α : Type} (read : Json → Option α) : Option Json → Option (Option α)
  | none => some none
  | some .null => some none
  | some value => (read value).map some

/-- A field that has to be there. -/
def required? {α : Type} (read : Json → Option α) (field : Option Json) : Option α :=
  field.bind read

/-- A list of structures. -/
def toList? {α : Type} (read : Json → Option α) : Json → Option (List α)
  | .array items => items.mapM read
  | _ => none

end Json

namespace Config

/-- Where archives are fetched from, as it is written: any part may be missing. -/
structure StorageSource where
  region : Option String
  accessKeyId : Option String
  secretAccessKey : Option String
  endpointUrl : Option String
  deriving DecidableEq

/-- A configuration as it is written. -/
structure Source where
  instances : Option (List Instance)
  restoreJob : Option Overrides
  databaseUrl : Option String
  storage : Option StorageSource
  logLevel : Option String

/-- Reads the overrides of the settings. -/
def readOverrides? (json : Json) : Option Overrides := do
  let fields ← json.fields? ["job_discovery_active_loop_delay_millis",
    "job_discovery_idle_loop_delay_millis", "job_discovery_minimum_recency_days",
    "slice_process_max_concurrency", "restore_job_tables_ttl_seconds",
    "slow_task_threshold_seconds", "slow_task_report_delay_seconds"]
  match fields with
  | [active, idle, days, concurrency, ttl, threshold, report] =>
      some {
        activeMillis := ← Json.optional? Json.toUInt64? active
        idleMillis := ← Json.optional? Json.toUInt64? idle
        recencyDays := ← Json.optional? Json.toUInt32? days
        concurrency := ← Json.optional? Json.toUInt64? concurrency
        ttlSeconds := ← Json.optional? Json.toUInt64? ttl
        slowThresholdSeconds := ← Json.optional? Json.toUInt64? threshold
        slowReportSeconds := ← Json.optional? Json.toUInt64? report }
  | _ => none

/-- Reads an instance, of which every field has to be there. -/
def readInstance? (json : Json) : Option Instance := do
  let fields ← json.fields? ["id", "host", "port", "staging_dir"]
  match fields with
  | [id, host, port, stagingDir] =>
      some {
        id := ← Json.required? Json.toUInt32? id
        host := ← Json.required? Json.toText? host
        port := ← Json.required? Json.toUInt16? port
        stagingDir := ⟨← Json.required? Json.toText? stagingDir⟩ }
  | _ => none

/-- Reads where archives are fetched from. -/
def readStorage? (json : Json) : Option StorageSource := do
  let fields ← json.fields? ["region", "access_key_id", "secret_access_key", "endpoint_url"]
  match fields with
  | [region, accessKeyId, secretAccessKey, endpointUrl] =>
      some {
        region := ← Json.optional? Json.toText? region
        accessKeyId := ← Json.optional? Json.toText? accessKeyId
        secretAccessKey := ← Json.optional? Json.toText? secretAccessKey
        endpointUrl := ← Json.optional? Json.toText? endpointUrl }
  | _ => none

/-- Reads a whole configuration. -/
def readSource? (json : Json) : Option Source := do
  let fields ← json.fields? ["instances", "restore_job", "job_store_database_url", "s3_storage",
    "log_level"]
  match fields with
  | [instances, restoreJob, databaseUrl, storage, logLevel] =>
      some {
        instances := ← Json.optional? (Json.toList? readInstance?) instances
        restoreJob := ← Json.optional? readOverrides? restoreJob
        databaseUrl := ← Json.optional? Json.toText? databaseUrl
        storage := ← Json.optional? readStorage? storage
        logLevel := ← Json.optional? Json.toText? logLevel }
  | _ => none

end Config

end Restage
