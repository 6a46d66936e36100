import AlarmEscalation.BusClient
import AlarmEscalation.Config.Source
import AlarmEscalation.Daemon
import AlarmEscalation.Deployment
import AlarmEscalation.Observation
import AlarmEscalation.Program.Arguments
import AlarmEscalation.Program.Output

/-!
The commands of the program. `check` and `relay` are done at once; `daemon` and `desktop` come up
and go on until a signal ends them. A failure is told as a chain of reasons, the outermost first.
-/
namespace AlarmEscalation.Program

/-- What failed, and why, in the order in which it is told. -/
structure Failure where
  reasons : List String
deriving DecidableEq, Repr

namespace Failure

def ofError (context : List String) (e : AlarmError) : Failure := ⟨context ++ e.chain⟩

def line (f : Failure) : LogLine := .error (": ".intercalate f.reasons)

end Failure

/-- What is at work after a command has come up. -/
inductive Activity where
  | none
  | daemon (d : Daemon)
  | desktop (o : Observation)

/-- Lines that were written, and what came of it. -/
structure Outcome (α : Type) where
  lines : List OutputLine
  result : Except Failure α

namespace Outcome

def done (lines : List OutputLine) (a : α) : Outcome α := ⟨lines, .ok a⟩

def failed (lines : List OutputLine) (f : Failure) : Outcome α := ⟨lines, .error f⟩

def logged (logs : List LogLine) (a : α) : Outcome α := done (logs.map .log) a

/-- Lines that come before. -/
def behind (o : Outcome α) (lines : List OutputLine) : Outcome α := { o with lines := lines ++ o.lines }

/-- All lines; a failure is the last one. -/
def allLines (o : Outcome α) : List OutputLine :=
  match o.result with
  | .ok _ => o.lines
  | .error f => o.lines ++ [.log f.line]

def exitCode (o : Outcome α) : Nat :=
  match o.result with
  | .ok _ => 0
  | .error _ => 1

end Outcome

/-- Gets the configuration. A file that was named has to be there; without one the defaults hold. -/
def load [Monad m] [Host m] (explicit : Option String) : m (Outcome Config) := do
  let (path, named) ← Config.locate explicit
  if !named && !(← Host.isFile path) then
    return .logged [.warn "No configuration file found, using defaults"] {}
  else
    let lines := [.log (.info ("Loading configuration from " ++ path))]
    match ← Config.ofFile path with
    | .ok c => return .done lines c
    | .error e => return .failed lines (.ofError ["Invalid configuration " ++ path] e)

/-- Switches the flashlight by hand. -/
def switchRelay [Monad m] [Host m] (c : Config) (on : Bool) : m (Outcome Unit) := do
  let device := c.flashlight.device
  if device = "" then return .failed [] ⟨["flashlight.device_node is not configured"]⟩
  else
    let (result, _, logs) ← ({ node := device } : SerialRelay).switch on
    match result with
    | .ok () => return .logged logs ()
    | .error e => return .failed (logs.map .log) (.ofError ["Cannot switch relay at " ++ device] e)

/-- Brings up the daemon. -/
def startDaemon (c : Config) (now : Instant) : Outcome Activity :=
  let opening := [OutputLine.log (startUpLine "server")]
  match c.serverEngine with
  | .error e => .failed opening (.ofError ["Cannot create escalation engine"] e)
  | .ok engine =>
    let d : Daemon := { engine, heartbeat := .ofSeconds c.daemon.heartbeatSeconds }
    match d.run now with
    | .error refusal => .failed opening (.ofError ["Escalation engine failed"] refusal.report)
    | .ok (d, logs) =>
      (Outcome.logged (logs ++ [BusClient.openingLine c.bus]) (.daemon d)).behind opening

/-- What a signal makes of a daemon. -/
def stopDaemon (d : Daemon) (s : Signal) (now : Instant) : Outcome Unit :=
  let (d, received) := d.signal s
  let (d, logs) := d.seeStop now
  let lines := (received ++ logs).map OutputLine.log
  match d.phase with
  | .returned (.error e) => .failed lines (.ofError ["Escalation engine failed"] e)
  | _ => .done (lines ++ [.log (.info "Daemon stopped normally")]) ()

/-- Brings up a desktop session with an observer. -/
def startDesktop (c : Config) (alert : Bool) : Outcome Activity :=
  let opening := [OutputLine.log (startUpLine "desktop")]
  if alert ∧ c.desktop.alertCommand = [] then
    .failed opening ⟨["--alert requires desktop.alert_command in the configuration"]⟩
  else
    let effect := ({} : Session).enable (c.desktopEngine alert)
    match effect.result with
    | .error e => .failed opening (.ofError ["Cannot enable desktop notifications"] e)
    | .ok () =>
      let (o, notices) := ({} : Observation).withSession effect.session |>.observe
      (Outcome.logged
        (effect.logs ++ (effect.notices ++ notices).map Notice.logLine ++
          [BusClient.openingLine c.bus]) (.desktop o)).behind opening

/-- What a signal makes of a desktop session: its observer takes the last sample, then the session is
switched off. -/
def stopDesktop (o : Observation) (s : Signal) (now : Instant) : Outcome Unit :=
  let (o, sampled, _, polled) := o.stopObserving.interval now
  let effect := o.session.disable now
  let lines := ([shutdownLine s] ++ polled ++ effect.logs ++
    (sampled ++ effect.notices).map Notice.logLine).map OutputLine.log
  match effect.result with
  | .ok () => .done lines ()
  | .error e => .failed lines (.ofError ["Cannot stop desktop notifications"] e)

/-- Carries out a command, or brings it up. -/
def perform [Monad m] [Host m] (c : Config) (command : Command) (now : Instant) :
    m (Outcome Activity) := do
  match command with
  | .daemon => return startDaemon c now
  | .desktop alert => return startDesktop c alert
  | .relay on => do
    let o ← switchRelay c on
    return ⟨o.lines, o.result.map fun _ => .none⟩
  | .check => return .done ((summary c).map .text) .none

def start [Monad m] [Host m] (request : Request) (now : Instant) : m (Outcome Activity) := do
  let loaded ← load request.config
  match loaded.result with
  | .error f => return .failed loaded.lines f
  | .ok c => return (← perform c request.command now).behind loaded.lines

/-- Ends what is at work by a signal. -/
def Activity.stop (a : Activity) (s : Signal) (now : Instant) : Outcome Unit :=
  match a with
  | .none => .done [] ()
  | .daemon d => stopDaemon d s now
  | .desktop o => stopDesktop o s now

end AlarmEscalation.Program
