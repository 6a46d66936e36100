import AlarmEscalation.Config.Yaml
import AlarmEscalation.Host.Basic

/-!
Where a configuration comes from. A file that is named, on the command line or in the environment, is
the one; else it is the user's file if there is one, else the file of the system.
-/
namespace AlarmEscalation.Config

/-- The variable that names a file. -/
def environmentVariable : String := "ALARMNOTIFICATIONSCONFIG"

/-- The name of a user's file in the home directory. -/
def userFile : String := ".alarmnotifications.yaml"

def systemFile : String := "/etc/alarmnotifications.yaml"

/-- The path of a name in a directory. -/
def pathIn (directory name : String) : String :=
  if directory = "" ∨ directory.toList.getLast? = some '/' then directory ++ name
  else directory ++ "/" ++ name

/-- The file to use, and whether it was named. -/
def locate [Monad m] [Host m] (explicit : Option String) : m (String × Bool) := do
  match explicit.or (← Host.environment environmentVariable) with
  | some path => return (path, true)
  | none =>
    match ← Host.environment "HOME" with
    | none => return (systemFile, false)
    | some home =>
      let path := pathIn home userFile
      return (if ← Host.isFile path then path else systemFile, false)

def ofFile [Monad m] [Host m] (path : String) : m (Except AlarmError Config) := do
  match ← Host.readText path with
  | .error e => return .error ⟨.config, "Cannot read " ++ path ++ ": " ++ e.message⟩
  | .ok text => return ofYaml text

end AlarmEscalation.Config
