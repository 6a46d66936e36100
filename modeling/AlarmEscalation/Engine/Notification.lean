import AlarmEscalation.Engine.Step

/-!
One poll for notifications. An empty store after a poll that found alarms is the all-clear. Otherwise
the channels whose timeout has passed since the episode began hand out what they have yet to
announce: the desktop the alarms that are old enough themselves, the mail all of them. The steps
look at the store one after the other, and events may come in between. The order in which the desktop
comes by the alarms is left open.
-/
namespace AlarmEscalation.Engine

/-- What one poll handed out. -/
structure NotificationTick where
  cleared : Bool := false
  desktop : List AlarmRecord := []
  email : List AlarmRecord := []
deriving DecidableEq, Repr

/-- The all-clear: a running alert stops and popups are taken back. -/
def allClear (e : Engine) : Step Unit :=
  { engine := { e with alarmSeen := false, alertActive := false }
    found := .ok ()
    calls :=
      (if e.alertActive && e.attached.alert then [.stopAlert] else []) ++
      (if e.attached.desktop then [.clear] else [])
    logs := [.info "No alarms active anymore"] }

/-- The poll of an engine without alarms. -/
def pollEmpty (e : Engine) : Step NotificationTick :=
  if e.alarmSeen then e.allClear.andThen fun e _ => .done e { cleared := true }
  else .done e {}

/-- Whether the episode has lasted for a timeout; a timeout of 0 never passes. -/
def gate (e : Engine) (timeout : UInt32) (now : Instant) : Step Bool :=
  if timeout = 0 then .done e false
  else
    match e.store.episodeElapsed now (timeoutSpan timeout) with
    | .error fault => .broken e fault
    | .ok elapsed => .done e elapsed

/-- Hands out the alarms that are due on the desktop. -/
def handOutDesktop (e : Engine) (now : Instant) (order : ScanOrder := .ascending) :
    Step (List AlarmRecord) :=
  if e.attached.desktop then
    let (batch, store) := e.store.desktopBatch now (timeoutSpan e.settings.desktop) order
    let e := { e with store }
    match batch with
    | .error fault => .broken e fault
    | .ok batch =>
      { engine := e, found := .ok batch, calls := if batch.isEmpty then [] else [.show batch] }
  else .done e []

/-- Starts the sustained alert, once. -/
def raiseAlert (e : Engine) : Step Unit :=
  if e.attached.alert && !e.alertActive then
    { engine := { e with alertActive := true }, found := .ok (), calls := [.startAlert] }
  else .done e ()

/-- Hands out the alarms that have not been sent. -/
def handOutEmail (e : Engine) : Step (List AlarmRecord) :=
  if e.attached.mail then
    let (batch, store) := e.store.emailBatch
    { engine := { e with store }, found := .ok batch,
      calls := if batch.isEmpty then [] else [.send batch] }
  else .done e []

def pollDesktop (e : Engine) (now : Instant) (order : ScanOrder := .ascending) :
    Step (List AlarmRecord) :=
  (e.gate e.settings.desktop now).andThen fun e elapsed =>
    if elapsed then
      (e.handOutDesktop now order).andThen fun e batch =>
        e.raiseAlert.andThen fun e _ => .done e batch
    else .done e []

def pollEmail (e : Engine) (now : Instant) : Step (List AlarmRecord) :=
  if e.settings.role = .server then
    (e.gate e.settings.email now).andThen fun e elapsed =>
      if elapsed then e.handOutEmail else .done e []
  else .done e []

/-- The poll of an engine that was found to have alarms. -/
def pollActive (e : Engine) (now : Instant) (order : ScanOrder := .ascending) :
    Step NotificationTick :=
  (pollDesktop { e with alarmSeen := true } now order).andThen fun e desktop =>
    (e.pollEmail now).andThen fun e email => .done e { desktop, email }

def pollNotifications (e : Engine) (now : Instant) (order : ScanOrder := .ascending) :
    Step NotificationTick :=
  if e.store.isEmpty then e.pollEmpty else e.pollActive now order

end AlarmEscalation.Engine
