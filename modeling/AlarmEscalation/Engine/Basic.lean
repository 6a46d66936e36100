import AlarmEscalation.Channel
import AlarmEscalation.Engine.Settings
import AlarmEscalation.Message
import AlarmEscalation.Store.Basic

/-!
The escalation engine: the store of active alarms, what the engine remembers of its own actions, the
number of active alarms that its subscribers see, and the actors that poll it.
-/
namespace AlarmEscalation

/-- The collaborators an engine was given. -/
structure Attached where
  desktop : Bool := false
  mail : Bool := false
  relay : Bool := false
  alert : Bool := false
deriving DecidableEq, Repr

inductive ActorKind where
  | notification | flashlight
deriving DecidableEq, Repr

/-- How an actor came to its end. -/
inductive ActorEnd where
  | exited
  | panicked (text : String)
deriving DecidableEq, Repr

structure Actor where
  kind : ActorKind
  ending : Option ActorEnd := none
deriving DecidableEq, Repr

def Actor.isAlive (a : Actor) : Bool := a.ending.isNone

structure Engine where
  settings : EngineSettings
  attached : Attached
  store : AlarmStore := AlarmStore.empty
  /-- The count that subscribers see. -/
  published : Nat := 0
  /-- How often that count has changed. -/
  publications : Nat := 0
  /-- The last poll for notifications found alarms. -/
  alarmSeen : Bool := false
  /-- The sustained alert was started and not stopped since. -/
  alertActive : Bool := false
  /-- The flashlight was switched on and not off since. -/
  flashlightOn : Bool := false
  running : Bool := false
  /-- All actors that were ever started; an actor is named by its place in this list. -/
  actors : List Actor := []
  /-- The actors that the next shutdown waits for. -/
  held : List Nat := []
deriving DecidableEq

namespace Engine

/-- Why an engine cannot be built. -/
inductive Refusal where
  | relayOnDesktop | mailOnDesktop | alertOnServer | zeroPollInterval
deriving DecidableEq, Repr

def Refusal.message : Refusal → String
  | .relayOnDesktop => "Laboratory notifications can only be used in server mode"
  | .mailOnDesktop => "E-mail notifications can only be used in server mode"
  | .alertOnServer => "The sustained alert can only be used in desktop mode"
  | .zeroPollInterval => "Poll interval must be greater than 0"

def Refusal.report (r : Refusal) : AlarmError := ⟨.config, r.message⟩

def build (settings : EngineSettings) (attached : Attached) : Except Refusal Engine :=
  if settings.role = .desktop ∧ attached.relay then .error .relayOnDesktop
  else if settings.role = .desktop ∧ attached.mail then .error .mailOnDesktop
  else if settings.role = .server ∧ attached.alert then .error .alertOnServer
  else if settings.pollInterval = .zero then .error .zeroPollInterval
  else .ok { settings, attached }

/-- Number of active alarms. -/
def count (e : Engine) : Nat := e.store.count

/-- Shows subscribers the number of active alarms, if they see another one. -/
def publish (e : Engine) : Engine :=
  if e.published = e.count then e
  else { e with published := e.count, publications := e.publications + 1 }

/-- Applies an event to the store only. -/
def apply (e : Engine) (event : AlarmRecord) : IngestOutcome × Engine :=
  let (outcome, store) := e.store.ingest event
  (outcome, { e with store })

/-- Takes in an event and publishes the new count. -/
def ingest (e : Engine) (event : AlarmRecord) : IngestOutcome × Engine :=
  let (outcome, e) := e.apply event
  (outcome, e.publish)

/-- Takes in a message from the bus; a message that announces no state is dropped. -/
def receive (e : Engine) (payload : List Json.Glyph) (now : Instant) :
    Except Json.Error (Option IngestOutcome) × Engine :=
  match StateMessage.ofPayload payload with
  | .error fault => (.error fault, e)
  | .ok m =>
    match m.toRecord? now with
    | none => (.ok none, e)
    | some event =>
      let (outcome, e) := e.ingest event
      (.ok (some outcome), e)

end Engine

end AlarmEscalation
