import AlarmEscalation.Config.Basic
import AlarmEscalation.Json.Written
import AlarmEscalation.Log

/-!
What the program writes: lines of its log, and lines of text.
-/
namespace AlarmEscalation.Program

def name : String := "alarm-notify"

def version : String := "0.1.0"

inductive OutputLine where
  | log (line : LogLine)
  | text (line : String)
deriving DecidableEq, Repr

/-- A line as it is written; the log may be wanted in JSON. -/
def OutputLine.shown (json : Bool) : OutputLine → String
  | .text line => line
  | .log line =>
    if json then
      String.ofList (Json.writeObject
        [("level", Json.writeString line.level.name), ("message", Json.writeString line.text)])
    else line.shown

def versionLine : String := name ++ " " ++ version

/-- How to use the program. -/
def usage : List String :=
  ["Usage: " ++ name ++ " [OPTIONS] <COMMAND>",
   "",
   "Commands:",
   "  daemon          Run the server daemon",
   "  desktop         Run desktop notifications for the current user session",
   "  relay <on|off>  Switch the laboratory flashlight manually",
   "  check           Validate the configuration and print a summary",
   "",
   "Options:",
   "  --json               Log in JSON format",
   "  -c, --config <FILE>  Configuration file",
   "  --alert              With desktop: play the configured alert command",
   "  -h, --help           Print help",
   "  -V, --version        Print version"]

/-- The first line of a command that goes on until it is stopped. -/
def startUpLine (mode : String) : LogLine :=
  .info (name ++ " v" ++ version ++ " starting in " ++ mode ++
    " mode (build unknown, commit unknown)")

/-- When a channel notifies. -/
def timeoutText (seconds : UInt32) : String :=
  if seconds = 0 then "disabled" else "after " ++ toString seconds.toNat ++ "s"

/-- A summary of a configuration. -/
def summary (c : Config) : List String :=
  let n := c.notifications
  ["Configuration OK",
   "  Laboratory notification: " ++ timeoutText n.laboratory,
   "  Desktop notification:    " ++ timeoutText n.desktop,
   "  E-mail notification:     " ++ timeoutText n.email,
   "  Poll interval:           " ++ toString n.pollMillis.toNat ++ "ms",
   "  Alarm bus:               " ++ c.bus.host ++ ":" ++ toString c.bus.port.toNat ++ " topic " ++
     c.bus.topic] ++
  (if 0 < n.laboratory then ["  Flashlight device:       " ++ c.flashlight.device] else []) ++
  (if 0 < n.email then
    ["  E-mail recipient:        " ++ c.email.recipient ++ " via " ++ c.email.server] else [])

end AlarmEscalation.Program
