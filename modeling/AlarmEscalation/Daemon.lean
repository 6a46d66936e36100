import AlarmEscalation.Engine.Lifecycle

/-!
The process at the central server. It starts the engine, logs a heartbeat at fixed intervals, and
shuts the engine down when it is told to stop: by a request, by a signal, or by clearing the flag it
shares with others, which it looks at after every heartbeat.
-/
namespace AlarmEscalation

inductive Signal where
  | int | term | hup | quit | usr1 | usr2
deriving DecidableEq, Repr

def Signal.name : Signal → String
  | .int => "SIGINT"
  | .term => "SIGTERM"
  | .hup => "SIGHUP"
  | .quit => "SIGQUIT"
  | .usr1 => "SIGUSR1"
  | .usr2 => "SIGUSR2"

def shutdownLine (s : Signal) : LogLine := .info ("Received " ++ s.name ++ ", shutting down")

def heartbeatText (count : Nat) : String :=
  if count = 0 then "No alarms active." else "Number of active alarms: " ++ toString count

/-- How far the run of a daemon has come. -/
inductive Phase where
  | idle
  /-- It is about to look at the flag. -/
  | looking
  /-- It waits for the next heartbeat or a request to stop. -/
  | waiting
  /-- It waits for the actors that it has taken from the engine. -/
  | stopping (taken : List Nat)
  | returned (result : Except AlarmError Unit)
  | panicked (fault : Fault)

def Phase.isWaiting : Phase → Bool
  | .waiting => true
  | _ => false

structure Daemon where
  engine : Engine
  heartbeat : Duration
  flag : Bool := true
  /-- A request to stop that the run has yet to see. -/
  stopRequested : Bool := false
  /-- Whether someone listens for signals. -/
  listening : Bool := false
  phase : Phase := .idle
  /-- Nanoseconds since the engine was started. -/
  age : Nat := 0

namespace Daemon

/-- The end of the run begins: nobody listens any more, the flag is cleared, and the engine is to
stop. -/
def beginStop (d : Daemon) : Daemon × List LogLine :=
  let (taken, engine) := d.engine.beginShutdown
  ({ d with engine, listening := false, flag := false, phase := .stopping taken },
    [.info "Stopping escalation engine"])

/-- The run returns as soon as no actor is alive that it waits for. -/
def settle (d : Daemon) : Daemon × List LogLine :=
  match d.phase with
  | .stopping taken =>
    if taken.all d.engine.hasEnded then
      let (result, panics) := d.engine.finishShutdown taken
      ({ d with phase := .returned result }, panics ++ [.info "Escalation engine stopped"])
    else (d, [])
  | _ => (d, [])

/-- There is time for the actors that the run waits for. -/
def awaitStop (d : Daemon) (now : Instant) : Daemon × List LogLine :=
  match d.phase with
  | .stopping taken =>
    let step := d.engine.wakeAll now taken
    let (after, logs) := { d with engine := step.engine }.settle
    (after, step.logs ++ logs)
  | _ => (d, [])

/-- The run goes on as long as the flag is set. -/
def proceed (d : Daemon) : Daemon × List LogLine :=
  if d.flag then ({ d with phase := .waiting }, []) else d.beginStop

/-- The run looks at the flag. -/
def look (d : Daemon) : Daemon × List LogLine :=
  match d.phase with
  | .looking => d.proceed
  | _ => (d, [])

/-- A heartbeat comes while the run waits. -/
def tick (d : Daemon) : Daemon × List LogLine :=
  match d.phase with
  | .waiting => ({ d with phase := .looking }, [.info (heartbeatText d.engine.count)])
  | _ => (d, [])

/-- The run sees a request to stop while it waits. -/
def obey (d : Daemon) : Daemon × List LogLine :=
  match d.phase, d.stopRequested with
  | .waiting, true => { d with stopRequested := false }.beginStop
  | _, _ => (d, [])

/-- A heartbeat, and the look at the flag behind it. -/
def beat (d : Daemon) : Daemon × List LogLine :=
  let (d, line) := d.tick
  let (d, logs) := d.look
  (d, line ++ logs)

/-- The run sees a request to stop, and there is time to stop. -/
def seeStop (d : Daemon) (now : Instant) : Daemon × List LogLine :=
  let (d, logs) := d.obey
  let (d, stopped) := d.awaitStop now
  (d, logs ++ stopped)

/-- Starts the engine. -/
def startEngine (d : Daemon) (inRuntime : Bool := true) :
    Except Engine.StartRefusal (Daemon × List LogLine) := do
  let (engine, logs) ← d.engine.start inRuntime
  return ({ d with engine, age := 0 }, logs)

/-- The run begins: the engine is started, someone listens for signals, and the timer of the
heartbeats is set up, which needs a period. If the engine cannot be started, that is the result of
the run, and nothing changes. -/
def begin (d : Daemon) (inRuntime : Bool := true) :
    Except Engine.StartRefusal (Daemon × List LogLine) := do
  let (d, logs) ← d.startEngine inRuntime
  let phase := if d.heartbeat = .zero then Phase.panicked .zeroPeriod else .looking
  return ({ d with listening := true, phase }, logs)

/-- The beginning of a run, up to the first heartbeat, which is due at once. -/
def run (d : Daemon) (now : Instant) : Except Engine.StartRefusal (Daemon × List LogLine) := do
  let (d, started) ← d.begin
  let (d, logs) := d.look
  let (d, beats) := d.beat
  let (d, stopped) := d.awaitStop now
  return (d, started ++ logs ++ beats ++ stopped)

/-- Time passes for the engine. -/
def pass (d : Daemon) (now : Instant) (nanos : Nat) : Daemon × List LogLine :=
  let step := d.engine.elapse now d.age nanos
  let (after, logs) := { d with engine := step.engine, age := d.age + nanos }.settle
  (after, step.logs ++ logs)

/-- A heartbeat interval passes. The heartbeat at its end comes before the polls that are due then,
so that actors exit which it tells to stop. -/
def interval (d : Daemon) (now : Instant) : Daemon × List LogLine :=
  let nanos := d.heartbeat.totalNanos
  let last := min 1 nanos
  let (d, earlier) := d.pass now (nanos - last)
  let (d, beats) := d.beat
  let (d, later) := d.pass now last
  (d, earlier ++ beats ++ later)

/-- Clears the flag only. -/
def clearFlag (d : Daemon) : Daemon := { d with flag := false }

/-- Leaves word for the run that it is to stop. -/
def notify (d : Daemon) : Daemon := { d with stopRequested := true }

def requestStop (d : Daemon) : Daemon := d.clearFlag.notify

/-- The listener says what it has heard, a signal or that it cannot listen. Then it is gone. -/
def announce (d : Daemon) (heard : Except AlarmError Signal) : Daemon × List LogLine :=
  if d.listening then
    ({ d with listening := false },
      [match heard with
        | .ok s => shutdownLine s
        | .error e => .error ("Cannot listen for shutdown signals: " ++ e.message)])
  else (d, [])

/-- What the listener hears makes it ask for a stop. -/
def hear (d : Daemon) (heard : Except AlarmError Signal) : Daemon × List LogLine :=
  if d.listening then
    let (d, line) := d.announce heard
    (d.requestStop, line)
  else (d, [])

/-- A signal asks for a stop, if someone listens. Only the first one does. -/
def signal (d : Daemon) (s : Signal) : Daemon × List LogLine := d.hear (.ok s)

def ingest (d : Daemon) (event : AlarmRecord) : IngestOutcome × Daemon :=
  let (outcome, engine) := d.engine.ingest event
  (outcome, { d with engine })

end Daemon

end AlarmEscalation
