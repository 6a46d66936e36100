import AlarmEscalation.Error
import AlarmEscalation.Log
import AlarmEscalation.Record.Basic
import AlarmEscalation.Text.Quoted

/-!
Calls that the engine makes to its collaborators, and what becomes of them. The engine does not wait
for a call to succeed: a call that goes wrong is reported in the log, and that is all.
-/
namespace AlarmEscalation

inductive Channel where
  | desktop | mail | relay | alert
deriving DecidableEq, Repr

inductive Call where
  /-- Show a popup about new alarms. -/
  | show (batch : List AlarmRecord)
  /-- Take back what is shown on the desktop. -/
  | clear
  | send (batch : List AlarmRecord)
  | switchLight (on : Bool)
  | startAlert
  | stopAlert
deriving DecidableEq, Repr

def Call.channel : Call → Channel
  | .show _ | .clear => .desktop
  | .send _ => .mail
  | .switchLight _ => .relay
  | .startAlert | .stopAlert => .alert

/-- What became of a call. -/
inductive CallOutcome where
  | done
  | failed (e : AlarmError)
  /-- It never returns. -/
  | pending
  | panicked (text : String)
deriving DecidableEq, Repr

/-- How a task that panicked is spoken of. Tasks have numbers, which are not told. -/
def taskPanic (text : String) : String := "task N panicked with message " ++ Text.quoted text

def onOff (on : Bool) : String := if on then "on" else "off"

/-- How the log tells that a call failed. -/
def Call.failure : Call → String
  | .show batch => "Desktop notification for " ++ toString batch.length ++ " alarm(s) failed: "
  | .clear => "Cannot clear desktop notifications: "
  | .send batch => "E-mail notification for " ++ toString batch.length ++ " alarm(s) failed: "
  | .switchLight on => "Switching the flash light " ++ onOff on ++ " failed: "
  | .startAlert => "Cannot start sustained alert: "
  | .stopAlert => "Cannot stop sustained alert: "

/-- What is logged about a call when its outcome is known. Of the calls that panic only those to the
relay are noticed, because only they are waited for. -/
def Call.report (call : Call) : CallOutcome → List LogLine
  | .done | .pending => []
  | .failed e => [.error (call.failure ++ e.message)]
  | .panicked text =>
    if call.channel = .relay then [.warn ("Relay task failed: " ++ taskPanic text)] else []

end AlarmEscalation
