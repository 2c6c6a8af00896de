import Restage.Config.Source
import Restage.Text.Blank
import Restage.Url

/-!
# Configurations

`Config.ofSource` turns a configuration as it is written into one that can be run, or names the
first rule it breaks. The rules are tried in this order: the instances, entry by entry; the
settings of restore jobs; the address of the job store.
-/

namespace Restage

/-- Where archives are fetched from. -/
structure StorageAccess where
  endpointUrl : String
  region : String
  accessKeyId : String
  secretAccessKey : String
  deriving DecidableEq

/-- A configuration that can be run. -/
structure Config where
  instances : List Instance
  restoreJob : Settings
  databaseUrl : String
  storage : Option StorageAccess
  logLevel : String

/-- Why a configuration cannot be run. -/
inductive ConfigFault where
  | unreadable (file : Path)
  | malformed (file : Path)
  | noInstances
  | emptyStaging (id : UInt32)
  | repeatedInstance (id : UInt32)
  | badRestoreJob (fault : Fault)
  | noDatabaseUrl
  | badDatabaseUrl (fault : UrlFault)

namespace ConfigFault

/-- The text a fault is reported with. -/
def message : ConfigFault → String
  | unreadable file => "Failed to read config file at " ++ file.text
  | malformed file => "Failed to parse JSON from config file at " ++ file.text
  | noInstances => "instances must list at least one managed instance in config.json"
  | emptyStaging id => "staging_dir of instance " ++ toString id.toNat ++ " cannot be empty"
  | repeatedInstance id =>
      "instance id " ++ toString id.toNat ++ " is configured more than once"
  | badRestoreJob _ => "Invalid restore_job configuration"
  | noDatabaseUrl => "job_store_database_url must be set in config.json"
  | badDatabaseUrl _ => "job_store_database_url is not a valid URL"

/-- The texts of what lies behind a fault. -/
def causes : ConfigFault → List String
  | badRestoreJob fault => [fault.message]
  | badDatabaseUrl fault => [fault.message]
  | _ => []

end ConfigFault

namespace Config

/-- Checks the instances from the first on, given those before. An empty staging directory is
reported before a repeated identifier. -/
def checkInstances (before : List Instance) : List Instance → Except ConfigFault (List Instance)
  | [] => .ok before
  | node :: rest =>
      if node.stagingDir.text = "" then .error (.emptyStaging node.id)
      else if before.any fun other => other.id = node.id then .error (.repeatedInstance node.id)
      else checkInstances (before ++ [node]) rest

/-- The access to the archives, when all four parts are given and none is empty. -/
def StorageSource.toAccess? (source : StorageSource) : Option StorageAccess :=
  match source.region, source.accessKeyId, source.secretAccessKey, source.endpointUrl with
  | some region, some accessKeyId, some secretAccessKey, some endpointUrl =>
      if region = "" ∨ accessKeyId = "" ∨ secretAccessKey = "" ∨ endpointUrl = "" then none
      else some ⟨endpointUrl, region, accessKeyId, secretAccessKey⟩
  | _, _, _, _ => none

/-- The configuration of a source, under a given test of addresses. -/
def ofSource (checkUrl : String → Except UrlFault Unit) (source : Source) :
    Except ConfigFault Config := do
  let instances ← match source.instances with
    | none | some [] => throw .noInstances
    | some listed => checkInstances [] listed
  let restoreJob ← match (({} : Settings).override (source.restoreJob.getD {})).check with
    | .ok settings => pure settings
    | .error fault => throw (.badRestoreJob fault)
  let databaseUrl ← match source.databaseUrl with
    | none => throw .noDatabaseUrl
    | some address => if Text.isBlank address then throw .noDatabaseUrl else pure address
  match checkUrl databaseUrl with
  | .error fault => throw (.badDatabaseUrl fault)
  | .ok () =>
      pure {
        instances := instances
        restoreJob := restoreJob
        databaseUrl := databaseUrl
        storage := source.storage.bind StorageSource.toAccess?
        logLevel := source.logLevel.getD "info" }

/-- The configuration in the bytes of a file; none stands for a file that cannot be read. -/
def load (file : Path) (content : Option ByteArray) : Except ConfigFault Config :=
  match content.bind String.fromUTF8? with
  | none => .error (.unreadable file)
  | some text =>
      match (Json.parse? text).bind readSource? with
      | none => .error (.malformed file)
      | some source => ofSource Url.check source

end Config

end Restage
