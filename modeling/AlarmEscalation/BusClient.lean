import AlarmEscalation.Config.Basic
import AlarmEscalation.Engine.Basic
import AlarmEscalation.Log

/-!
The client of the bus on which the alarm server publishes its messages. It hands them over to an
engine until it is told to stop; a message that cannot be read is dropped.
-/
namespace AlarmEscalation.BusClient

def openingLine (bus : Config.Bus) : LogLine :=
  .info ("Connecting to alarm server bus " ++ bus.host ++ ":" ++ toString bus.port.toNat ++
    " (topic " ++ bus.topic ++ ")")

def closingLine : LogLine := .info "Alarm server bus client stopped"

/-- Hands over one message. -/
def deliver (e : Engine) (payload : List Json.Glyph) (now : Instant) : Engine × List LogLine :=
  match e.receive payload now with
  | (.ok _, e) => (e, [])
  | (.error fault, e) =>
    (e, [.warn ("Dropping malformed bus message: " ++ fault.report.message)])

/-- A run in which messages arrive at their times before the client is told to stop. -/
def run (bus : Config.Bus) (e : Engine) (arrivals : List (List Json.Glyph × Instant)) :
    Engine × List LogLine :=
  let (e, logs) := arrivals.foldl
    (fun (e, logs) (payload, now) =>
      let (e, more) := deliver e payload now
      (e, logs ++ more)) (e, [])
  (e, [openingLine bus] ++ logs ++ [closingLine])

end AlarmEscalation.BusClient
