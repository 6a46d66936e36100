import AlarmEscalation.Engine.Settings
import AlarmEscalation.Error

/-!
The configuration of the program, in sections, with what is assumed for a setting that is not given;
what makes a configuration unusable; and the settings of an engine that follow from it.
-/
namespace AlarmEscalation

namespace Config

/-- Seconds from the oldest active alarm to the notification of each channel; 0 turns it off. -/
structure Notifications where
  laboratory : UInt32 := 0
  desktop : UInt32 := 0
  email : UInt32 := 0
  pollMillis : UInt64 := 1000
deriving DecidableEq, Repr

/-- Where the messages of the alarm server come from. -/
structure Bus where
  host : String := "localhost"
  port : UInt16 := 1883
  clientId : String := "alarm-notify"
  username : Option String := none
  password : Option String := none
  topic : String := "ALARM"
  keepAliveSeconds : UInt64 := 30
deriving DecidableEq, Repr

structure Email where
  server : String := ""
  port : UInt16 := 25
  sender : String := ""
  recipient : String := ""
deriving DecidableEq, Repr

structure Flashlight where
  device : String := ""
deriving DecidableEq, Repr

structure Desktop where
  command : String := "notify-send"
  /-- The program that plays the sustained alert, and its arguments. -/
  alertCommand : List String := []
deriving DecidableEq, Repr

structure Daemon where
  heartbeatSeconds : UInt64 := 3
deriving DecidableEq, Repr

end Config

structure Config where
  notifications : Config.Notifications := {}
  bus : Config.Bus := {}
  email : Config.Email := {}
  flashlight : Config.Flashlight := {}
  desktop : Config.Desktop := {}
  daemon : Config.Daemon := {}
deriving DecidableEq, Repr

namespace Config

/-- What makes a configuration unusable. -/
inductive Flaw where
  | zeroPollInterval | noMailServer | noMailAddresses | noFlashlight | zeroHeartbeat
deriving DecidableEq, Repr

def Flaw.message : Flaw → String
  | .zeroPollInterval => "poll_interval_ms must be greater than 0"
  | .noMailServer => "email.server_name is required when e-mail notifications are enabled"
  | .noMailAddresses => "email.from and email.to are required when e-mail notifications are enabled"
  | .noFlashlight =>
    "flashlight.device_node is required when laboratory notifications are enabled"
  | .zeroHeartbeat => "daemon.heartbeat_secs must be greater than 0"

def Flaw.report (f : Flaw) : AlarmError := ⟨.config, f.message⟩

/-- Whether a configuration has a flaw. -/
def Has (c : Config) : Flaw → Prop
  | .zeroPollInterval => c.notifications.pollMillis = 0
  | .noMailServer => 0 < c.notifications.email ∧ c.email.server = ""
  | .noMailAddresses => 0 < c.notifications.email ∧ (c.email.sender = "" ∨ c.email.recipient = "")
  | .noFlashlight => 0 < c.notifications.laboratory ∧ c.flashlight.device = ""
  | .zeroHeartbeat => c.daemon.heartbeatSeconds = 0

instance (c : Config) (f : Flaw) : Decidable (c.Has f) := by
  cases f <;> unfold Has <;> infer_instance

/-- All flaws, in the order in which they are looked for. -/
def flaws : List Flaw :=
  [.zeroPollInterval, .noMailServer, .noMailAddresses, .noFlashlight, .zeroHeartbeat]

/-- Reports the first flaw. -/
def validate (c : Config) : Except Flaw Unit :=
  match flaws.find? fun f => c.Has f with
  | some f => .error f
  | none => .ok ()

/-- The settings of an engine in a role. -/
def engineSettings (c : Config) (role : Role) : EngineSettings :=
  { role
    laboratory := c.notifications.laboratory
    desktop := c.notifications.desktop
    email := c.notifications.email
    pollInterval := .ofMillis c.notifications.pollMillis }

theorem mem_flaws (f : Flaw) : f ∈ flaws := by cases f <;> simp [flaws]

/-- A configuration is usable if it has no flaw. -/
theorem validate_eq_ok_iff (c : Config) : c.validate = .ok () ↔ ∀ f, ¬ c.Has f := by
  unfold validate
  split
  · next f h => simpa using ⟨f, by simpa using List.find?_some h⟩
  · next h => simpa using fun f => by simpa using List.find?_eq_none.1 h f (mem_flaws f)

end Config

end AlarmEscalation
