import Restage.Config
import Restage.LogFilter

/-!
# Starting up

Before the service contacts its job store it reads its configuration and sets up its log. The
first fault ends it and is reported with everything that lies behind it.
-/

namespace Restage

/-- Why the service does not start. -/
inductive StartFault where
  | badConfig (file : Path) (fault : ConfigFault)
  | badLogLevel (level : String)
  | noStore

namespace StartFault

/-- The text a fault is reported with. -/
def message : StartFault → String
  | badConfig file _ => "Failed to load application configuration from " ++ file.text
  | badLogLevel level => "Invalid log_level '" ++ level ++ "'"
  | noStore => "Failed to connect to the restore job store"

/-- The texts of what lies behind a fault. -/
def causes : StartFault → List String
  | badConfig _ fault => fault.message :: fault.causes
  | _ => []

/-- The causes behind a fault, numbered when there are several. -/
def causeLines (causes : List String) : List String :=
  match causes with
  | [cause] => ["    " ++ cause]
  | causes => causes.zipIdx.map fun (cause, index) => "    " ++ toString index ++ ": " ++ cause

/-- The report of a fault. -/
def report (fault : StartFault) : String :=
  let head := "Error: " ++ fault.message
  match fault.causes with
  | [] => head
  | causes => String.intercalate "\n" ([head, "", "Caused by:"] ++ causeLines causes)

end StartFault

namespace StartUp

/-- The file that is read when none is named. -/
def defaultFile : Path := ⟨"config.json"⟩

/-- The configuration file that the arguments name: the first argument, all others are ignored. -/
def fileOf (arguments : List String) : Path :=
  match arguments with
  | [] => defaultFile
  | file :: _ => ⟨file⟩

/-- What the service starts with, given the bytes of its configuration file; none stands for a
file that cannot be read. -/
def prepare (file : Path) (content : Option ByteArray) : Except StartFault Config :=
  match Config.load file content with
  | .error fault => .error (.badConfig file fault)
  | .ok config =>
      if LogFilter.isUnderstood config.logLevel then .ok config
      else .error (.badLogLevel config.logLevel)

end StartUp

end Restage
