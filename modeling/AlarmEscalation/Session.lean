import AlarmEscalation.Engine.Lifecycle

/-!
A desktop session: an engine that the user can switch off and on. Switching off drops the engine with
its alarms; switching on builds a new one. The front end is told about every switch and, by
observers, about every change between alarm and no alarm.
-/
namespace AlarmEscalation

inductive IndicatorStatus where
  | disabled | activeOk | activeAlarm
deriving DecidableEq, Repr

inductive MessageLevel where
  | info | warning | critical
deriving DecidableEq, Repr

structure StatusMessage where
  level : MessageLevel
  text : String
deriving DecidableEq, Repr

/-- What the front end is told. -/
inductive Notice where
  | toggled (enabled : Bool)
  | changed (status : IndicatorStatus)
deriving DecidableEq, Repr

/-- The front end that only logs what it is told. -/
def Notice.logLine : Notice → LogLine
  | .toggled enabled => .info ("Alarm notifications " ++ if enabled then "enabled" else "disabled")
  | .changed .activeAlarm => .warn "Alarms active"
  | .changed .activeOk => .info "No alarms active"
  | .changed .disabled => .info "Alarm notifications disabled"

structure Session where
  engine : Option Engine := none
deriving DecidableEq

namespace Session

/-- What a call comes to: its result, the session after it, what the front end was told, and what
was logged. -/
structure Effect (α : Type) where
  result : Except AlarmError α
  session : Session
  notices : List Notice := []
  logs : List LogLine := []

def isEnabled (s : Session) : Bool := s.engine.isSome

def status (s : Session) : IndicatorStatus :=
  match s.engine with
  | none => .disabled
  | some e => if 0 < e.count then .activeAlarm else .activeOk

def statusMessage (s : Session) : StatusMessage :=
  match s.engine.map Engine.count with
  | none => ⟨.warning, "The alarm notifications desktop widget is currently disabled, so information about alarms is not received from the alarm server!"⟩
  | some 0 => ⟨.info, "No alarms are known to the alarm notifications desktop widget.\n\nPlease note that alarms triggered before the start or re-activation of this widget have not been received, so if you want to be sure that nothing is wrong, look at the alarm display."⟩
  | some n => ⟨.critical, "ATTENTION!\n\nThere are " ++ toString n ++ " alarm(s) active in the Detector Control System! For detailed information look at the alarm display!"⟩

/-- Switches on with the engine that was built, unless the session is on already. -/
def enable (s : Session) (built : Except AlarmError Engine) : Effect Unit :=
  if s.isEnabled then { result := .ok (), session := s }
  else
    match built with
    | .error e => { result := .error e, session := s }
    | .ok e =>
      match e.start with
      | .error refusal => { result := .error refusal.report, session := s }
      | .ok (e, logs) =>
        { result := .ok ()
          session := { engine := some e }
          notices := [.toggled true]
          logs := logs ++ [.info "Desktop notifications enabled"] }

/-- The first half of switching off: the engine leaves the session. -/
def takeEngine (s : Session) : Option Engine × Session := (s.engine, {})

/-- The second half of switching off, when the engine has shut down: the front end is told only if
nothing went wrong. -/
def afterShutdown (s : Session) (shutdown : Except AlarmError Unit) : Effect Unit :=
  match shutdown with
  | .error e => { result := .error e, session := s }
  | .ok () =>
    { result := .ok (), session := s, notices := [.toggled false],
      logs := [.info "Desktop notifications disabled"] }

def disable (s : Session) (now : Instant) : Effect Unit :=
  match s.takeEngine with
  | (none, s) => { result := .ok (), session := s }
  | (some e, s) =>
    let (result, _, logs) := e.shutdown now
    let effect := s.afterShutdown result
    { effect with logs := logs ++ effect.logs }

/-- Switches on or off; answers whether the session is on now. -/
def toggle (s : Session) (built : Except AlarmError Engine) (now : Instant) : Effect Bool :=
  let effect := if s.isEnabled then s.disable now else s.enable built
  { effect with result := effect.result.map fun _ => !s.isEnabled }

/-- Events are for the engine; without one they are lost. -/
def ingest (s : Session) (event : AlarmRecord) : Session :=
  { engine := s.engine.map fun e => (e.ingest event).2 }

end Session

/-- An observer remembers what it last told the front end. -/
structure Observer where
  last : Option IndicatorStatus := none
deriving DecidableEq, Repr

/-- A sample of a session: changes are told, except those to a session that is off. -/
def Observer.sample (o : Observer) (status : IndicatorStatus) : Observer × List Notice :=
  if status = .disabled then ({ last := none }, [])
  else if o.last = some status then (o, [])
  else ({ last := some status }, [.changed status])

end AlarmEscalation
