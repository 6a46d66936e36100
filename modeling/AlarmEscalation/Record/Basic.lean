import AlarmEscalation.Time.Instant

/-!
The state of one monitored process variable as the alarm server last reported it, and whether it
has been announced on the desktop and by e-mail during its current alarm.
-/
namespace AlarmEscalation

/-- A severity that ends an alarm: the variable is back in order, or someone has taken notice. -/
def isClearingSeverity (severity : String) : Bool :=
  severity == "OK" || "_ACK".toList.isSuffixOf severity.toList

structure AlarmRecord where
  id : String
  severity : String
  status : String
  triggerTime : Instant
  desktopNotified : Bool := false
  emailNotified : Bool := false
deriving DecidableEq, Repr

namespace AlarmRecord

def isClearing (r : AlarmRecord) : Bool := isClearingSeverity r.severity

/-- Whether `newer` was triggered after `r`. -/
def isOutdatedBy (r newer : AlarmRecord) : Bool := r.triggerTime < newer.triggerTime

/-- Severity and status follow a newer event; the trigger time stays that of the first one. -/
def updated (r newer : AlarmRecord) : AlarmRecord :=
  if r.isOutdatedBy newer then { r with severity := newer.severity, status := newer.status } else r

def markDesktop (r : AlarmRecord) : AlarmRecord := { r with desktopNotified := true }

def markEmail (r : AlarmRecord) : AlarmRecord := { r with emailNotified := true }

/-- One line about the alarm, with the second it was triggered in. -/
def text (r : AlarmRecord) : String :=
  "PV: " ++ r.id ++ "  Severity: " ++ r.severity ++ "  Status: " ++ r.status ++
    "  Time: " ++ toString r.triggerTime.seconds

@[simp] theorem updated_id (r newer : AlarmRecord) : (r.updated newer).id = r.id := by
  unfold updated; split <;> rfl

@[simp] theorem updated_triggerTime (r newer : AlarmRecord) :
    (r.updated newer).triggerTime = r.triggerTime := by
  unfold updated; split <;> rfl

@[simp] theorem markDesktop_id (r : AlarmRecord) : r.markDesktop.id = r.id := rfl

@[simp] theorem markEmail_id (r : AlarmRecord) : r.markEmail.id = r.id := rfl

end AlarmRecord

end AlarmEscalation
