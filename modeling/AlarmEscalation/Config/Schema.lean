import AlarmEscalation.Config.Basic

/-!
The shape of configuration documents: the sections and settings by their names in a document, with
the type of each setting, what holds where it is left out of its section, and its place in a
configuration. A section that is left out altogether is that of the configuration `{}`. Readers and
writers of all document formats follow this shape.
-/
namespace AlarmEscalation.Config

/-- Types of settings. -/
inductive Kind where
  | port
  /-- A count of seconds in 32 bits. -/
  | seconds
  /-- A count in 64 bits. -/
  | count
  | text | optionalText | texts
deriving DecidableEq, Repr

abbrev Kind.Value : Kind → Type
  | .port => UInt16
  | .seconds => UInt32
  | .count => UInt64
  | .text => String
  | .optionalText => Option String
  | .texts => List String

/-- A setting of a section `S`. -/
structure Setting (S : Type) where
  name : String
  kind : Kind
  /-- What holds where the section is given without the setting. -/
  fallback : kind.Value
  get : S → kind.Value
  set : S → kind.Value → S

/-- A section of a configuration. -/
structure Section where
  name : String
  /-- What its readers call it. -/
  title : String
  Content : Type
  settings : List (Setting Content)
  get : Config → Content
  set : Config → Content → Config

/-- A section that is given without any setting. -/
def Section.unset (s : Section) : s.Content :=
  s.settings.foldl (fun content setting => setting.set content setting.fallback) (s.get {})

def notificationsSection : Section where
  name := "notifications"
  title := "struct NotificationConfig"
  Content := Notifications
  get := Config.notifications
  set c n := { c with notifications := n }
  settings :=
    [⟨"laboratory_timeout_secs", .seconds, 0, Notifications.laboratory,
        fun n v => { n with laboratory := v }⟩,
     ⟨"desktop_timeout_secs", .seconds, 0, Notifications.desktop, fun n v => { n with desktop := v }⟩,
     ⟨"email_timeout_secs", .seconds, 0, Notifications.email, fun n v => { n with email := v }⟩,
     ⟨"poll_interval_ms", .count, 1000, Notifications.pollMillis,
        fun n v => { n with pollMillis := v }⟩]

def busSection : Section where
  name := "bus"
  title := "struct BusConfig"
  Content := Bus
  get := Config.bus
  set c b := { c with bus := b }
  settings :=
    [⟨"broker_host", .text, "localhost", Bus.host, fun b v => { b with host := v }⟩,
     ⟨"broker_port", .port, 1883, Bus.port, fun b v => { b with port := v }⟩,
     ⟨"client_id", .text, "alarm-notify", Bus.clientId, fun b v => { b with clientId := v }⟩,
     ⟨"username", .optionalText, none, Bus.username, fun b v => { b with username := v }⟩,
     ⟨"password", .optionalText, none, Bus.password, fun b v => { b with password := v }⟩,
     ⟨"topic", .text, "ALARM", Bus.topic, fun b v => { b with topic := v }⟩,
     ⟨"keep_alive_secs", .count, 30, Bus.keepAliveSeconds,
        fun b v => { b with keepAliveSeconds := v }⟩]

def emailSection : Section where
  name := "email"
  title := "struct EmailConfig"
  Content := Email
  get := Config.email
  set c e := { c with email := e }
  settings :=
    [⟨"server_name", .text, "", Email.server, fun e v => { e with server := v }⟩,
     ⟨"server_port", .port, 25, Email.port, fun e v => { e with port := v }⟩,
     ⟨"from", .text, "", Email.sender, fun e v => { e with sender := v }⟩,
     ⟨"to", .text, "", Email.recipient, fun e v => { e with recipient := v }⟩]

def flashlightSection : Section where
  name := "flashlight"
  title := "struct FlashlightConfig"
  Content := Flashlight
  get := Config.flashlight
  set c f := { c with flashlight := f }
  settings := [⟨"device_node", .text, "", Flashlight.device, fun f v => { f with device := v }⟩]

def desktopSection : Section where
  name := "desktop"
  title := "struct DesktopConfig"
  Content := Desktop
  get := Config.desktop
  set c d := { c with desktop := d }
  settings :=
    [⟨"command", .text, "notify-send", Desktop.command, fun d v => { d with command := v }⟩,
     ⟨"alert_command", .texts, [], Desktop.alertCommand, fun d v => { d with alertCommand := v }⟩]

def daemonSection : Section where
  name := "daemon"
  title := "struct DaemonConfig"
  Content := Daemon
  get := Config.daemon
  set c d := { c with daemon := d }
  settings :=
    [⟨"heartbeat_secs", .count, 3, Daemon.heartbeatSeconds,
        fun d v => { d with heartbeatSeconds := v }⟩]

/-- The sections of a document, in order. -/
def sections : List Section :=
  [notificationsSection, busSection, emailSection, flashlightSection, desktopSection, daemonSection]

/-- What readers call a whole configuration. -/
def title : String := "struct Config"

end AlarmEscalation.Config
