import AlarmEscalation.Json.Decode
import AlarmEscalation.Time.Instant

/-!
What an engine is built for: its role, its timeouts and its poll interval.
-/
namespace AlarmEscalation

/-- The place of an engine: at the central server, which may drive the flashlight and send e-mails,
or on a user's desktop. -/
inductive Role where
  | server | desktop
deriving DecidableEq, Repr

namespace Role

def name : Role → String
  | .server => "server"
  | .desktop => "desktop"

/-- The role as it is told in the log. -/
def title : Role → String
  | .server => "Server"
  | .desktop => "Desktop"

def ofJson (document : String) : Except Json.Error Role :=
  Json.decode (Json.choice [(server.name, server), (desktop.name, desktop)]) (Json.glyphs document)

end Role

/-- Timeouts are whole seconds; 0 turns a channel off. -/
structure EngineSettings where
  role : Role
  laboratory : UInt32 := 0
  desktop : UInt32 := 0
  email : UInt32 := 0
  pollInterval : Duration := .ofSeconds 1
deriving DecidableEq, Repr

/-- The span of a timeout in seconds. -/
def timeoutSpan (timeout : UInt32) : Span := Span.ofSeconds timeout.toNat

end AlarmEscalation
