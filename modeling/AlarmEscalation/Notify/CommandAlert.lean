import AlarmEscalation.Error
import AlarmEscalation.Log
import AlarmEscalation.Host.Basic

/-!
The sustained alert: a player command that is run again and again until the alert is stopped. The
loop that runs it ends by itself only when the command cannot be run.
-/
namespace AlarmEscalation

inductive PlayerLoop where
  | playing | ended | aborted
deriving DecidableEq, Repr

structure CommandAlert where
  program : String
  arguments : List String
  /-- All loops that were ever created; a loop is named by its place in this list. -/
  loops : List PlayerLoop := []
  /-- The loop that was created last, unless it was stopped. -/
  slot : Option Nat := none
deriving DecidableEq, Repr

namespace CommandAlert

def ofArguments : List String → Except AlarmError CommandAlert
  | [] => .error ⟨.config, "alert command must not be empty"⟩
  | program :: arguments => .ok { program, arguments }

def isRunning (a : CommandAlert) : Bool :=
  a.slot.any fun n => a.loops[n]? == some .playing

def start (a : CommandAlert) : CommandAlert × List LogLine :=
  if a.isRunning then (a, [])
  else ({ a with loops := a.loops ++ [.playing], slot := some a.loops.length },
    [.info "Starting sustained alarm alert"])

def stop (a : CommandAlert) : CommandAlert × List LogLine :=
  match a.slot with
  | none => (a, [])
  | some n =>
    ({ a with
        slot := none
        loops := a.loops.modify n fun l => if l = .playing then .aborted else l },
      [.info "Stopping sustained alarm alert"])

/-- The answer to a call. A start and a stop are done at once, without waiting for the player, so
nothing can go wrong in them. -/
def respond (a : CommandAlert) (on : Bool) : Except AlarmError Unit × CommandAlert × List LogLine :=
  (.ok (), if on then a.start else a.stop)

/-- An alert that is given up takes its loop with it, like a stop that is not logged. -/
def drop (a : CommandAlert) : CommandAlert := a.stop.1

/-- A loop runs the command: it goes on, unless the command could not be run. -/
def play (a : CommandAlert) (n : Nat) (run : Except OsError Unit) : CommandAlert × List LogLine :=
  match a.loops[n]?, run with
  | some .playing, .error e =>
    ({ a with loops := a.loops.modify n fun _ => .ended },
      [.warn ("Cannot run alert player " ++ a.program ++ ": " ++ e.message)])
  | _, _ => (a, [])

end CommandAlert

end AlarmEscalation
