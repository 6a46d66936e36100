import AlarmEscalation.Engine.Flashlight

/-!
Starting and stopping an engine. `start` brings up one actor for notifications and, at the server,
one for the flashlight. An actor that wakes up polls while the engine is running and exits
otherwise; a fault in a poll ends the actor for good. A shutdown clears the running flag, takes the
actors it has to wait for, and then waits for each of them.
-/
namespace AlarmEscalation.Engine

/-- Why an engine cannot be started. -/
inductive StartRefusal where
  | outsideRuntime | alreadyRunning
deriving DecidableEq, Repr

def StartRefusal.message : StartRefusal → String
  | .outsideRuntime => "Escalation engine must be started inside a tokio runtime"
  | .alreadyRunning => "Escalation engine is already running"

def StartRefusal.report (r : StartRefusal) : AlarmError := ⟨.runtime, r.message⟩

/-- The actors of a role. -/
def actorKinds : Role → List ActorKind
  | .server => [.notification, .flashlight]
  | .desktop => [.notification]

def startLine (s : EngineSettings) : LogLine :=
  .info ("Starting escalation engine (" ++ s.role.title ++ " role, laboratory " ++
    toString s.laboratory ++ "s, desktop " ++ toString s.desktop ++ "s, e-mail " ++
    toString s.email ++ "s)")

/-- Starts the actors; there has to be a runtime for them to live in. -/
def start (e : Engine) (inRuntime : Bool := true) : Except StartRefusal (Engine × List LogLine) :=
  if !inRuntime then .error .outsideRuntime
  else if e.running then .error .alreadyRunning
  else
    let kinds := actorKinds e.settings.role
    .ok ({ e with
        running := true
        actors := e.actors ++ kinds.map fun kind => { kind }
        held := e.held ++ List.range' e.actors.length kinds.length },
      [startLine e.settings])

def endActor (e : Engine) (n : Nat) (ending : ActorEnd) : Engine :=
  { e with actors := e.actors.modify n fun a => { a with ending := some ending } }

/-- The poll of an actor, of whatever kind. -/
def pollAs (e : Engine) (kind : ActorKind) (now : Instant) (order : ScanOrder := .ascending) :
    Step Unit :=
  match kind with
  | .notification => (e.pollNotifications now order).andThen fun e _ => .done e ()
  | .flashlight => (e.pollFlashlight now).andThen fun e _ => .done e ()

/-- An actor wakes up. -/
def wake (e : Engine) (n : Nat) (now : Instant) (order : ScanOrder := .ascending) : Step Unit :=
  match e.actors[n]? with
  | none => .done e ()
  | some actor =>
    if !actor.isAlive then .done e ()
    else if !e.running then .done (e.endActor n .exited) ()
    else
      let step := e.pollAs actor.kind now order
      match step.found with
      | .ok () => step
      | .error fault =>
        { step with engine := step.engine.endActor n (.panicked fault.message), found := .ok () }

/-- Several actors wake up, one after the other. -/
def wakeAll (e : Engine) (now : Instant) : List Nat → Step Unit
  | [] => .done e ()
  | n :: rest => (e.wake n now).andThen fun e _ => e.wakeAll now rest

/-- One poll interval passes: every actor wakes up once. -/
def interval (e : Engine) (now : Instant) : Step Unit :=
  e.wakeAll now (List.range e.actors.length)

/-- Several poll intervals pass. -/
def intervals (e : Engine) (now : Instant) : Nat → Step Unit
  | 0 => .done e ()
  | n + 1 => (e.interval now).andThen fun e _ => e.intervals now n

/-- Time passes, from `since` nanoseconds after the start: the poll intervals that end in it. -/
def elapse (e : Engine) (now : Instant) (since nanos : Nat) : Step Unit :=
  let period := e.settings.pollInterval.totalNanos
  e.intervals now ((since + nanos) / period - since / period)

/-- The first half of a shutdown: the flag is cleared and the actors to wait for are taken. -/
def beginShutdown (e : Engine) : List Nat × Engine :=
  (e.held, { e with running := false, held := [] })

/-- No actor of this number is alive. -/
def hasEnded (e : Engine) (n : Nat) : Bool := e.actors[n]?.all fun actor => !actor.isAlive

/-- The panic that ended an actor. -/
def panicOf? (e : Engine) (n : Nat) : Option String :=
  match e.actors[n]? with
  | some { ending := some (.panicked text), .. } => some text
  | _ => none

/-- The panics of the actors that were waited for. -/
def panics (e : Engine) (taken : List Nat) : List String := taken.filterMap e.panicOf?

/-- The second half of a shutdown, when the taken actors have come to their end: the last panic is
its error, and each is logged. -/
def finishShutdown (e : Engine) (taken : List Nat) : Except AlarmError Unit × List LogLine :=
  let panics := e.panics taken
  (match panics.getLast? with
    | none => .ok ()
    | some text => .error ⟨.runtime, "Escalation actor failed: " ++ taskPanic text⟩,
    panics.map fun text => .error ("Escalation actor terminated abnormally: " ++ taskPanic text))

/-- A shutdown that nothing comes between: the taken actors wake up once more, and exit. -/
def shutdown (e : Engine) (now : Instant) : Except AlarmError Unit × Engine × List LogLine :=
  let (taken, e) := e.beginShutdown
  let e := (e.wakeAll now taken).engine
  let (result, panics) := e.finishShutdown taken
  (result, e,
    [.info "Stopping escalation engine"] ++ panics ++ [.info "Escalation engine stopped"])

end AlarmEscalation.Engine
