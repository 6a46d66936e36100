import AlarmEscalation.Channel
import AlarmEscalation.Host.Basic

/-!
Popups on the desktop, shown by a command.
-/
namespace AlarmEscalation.Presenter

def defaultCommand : String := "notify-send"

def title : String := "Detector Alarm"

/-- The identifiers of the alarms, a line each. -/
def idLines (records : List AlarmRecord) : String :=
  String.join (records.map fun r => r.id ++ "\n")

def text (records : List AlarmRecord) : String := "Alarm on this/these PV(s):\n" ++ idLines records

/-- A critical popup that stays. -/
def arguments (records : List AlarmRecord) : List String :=
  ["-u", "critical", "-t", "0", "-i", "dialog-warning", title, text records]

/-- What showing a popup comes to, by the exit status of the command. -/
def settle (command : String) : Except OsError Nat → Except AlarmError Unit
  | .ok 0 => .ok ()
  | .ok status => .error ⟨.desktop, command ++ " exited with exit status: " ++ toString status⟩
  | .error e => .error ⟨.desktop, "Cannot run " ++ command ++ ": " ++ e.message⟩

def present [Monad m] [Host m] (command : String) (records : List AlarmRecord) :
    m (Except AlarmError Unit × List LogLine) := do
  return (settle command (← Host.run command (arguments records)),
    [.info ("Showing desktop notification for " ++ toString records.length ++ " alarm(s)")])

/-- Popups stay until the user dismisses them. -/
def clear : Except AlarmError Unit × List LogLine := (.ok (), [])

end AlarmEscalation.Presenter
