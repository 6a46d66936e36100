import AlarmEscalation.Engine.Notification

/-!
One poll for the flashlight. The light is switched on when the episode has lasted for the laboratory
timeout and off when no alarm is left. The engine remembers what it asked for, not whether the relay
obeyed.
-/
namespace AlarmEscalation.Engine

inductive FlashlightAction where
  | switchedOn | switchedOff
deriving DecidableEq, Repr

def switchLight (e : Engine) (on : Bool) (action : FlashlightAction) :
    Step (Option FlashlightAction) :=
  { engine := { e with flashlightOn := on }
    found := .ok (some action)
    calls := [.switchLight on]
    logs := [.info ("Flash light " ++ onOff on ++ "!")] }

/-- Switches the light on when it is time. -/
def lightUp (e : Engine) (now : Instant) : Step (Option FlashlightAction) :=
  (e.gate e.settings.laboratory now).andThen fun e elapsed =>
    if elapsed then e.switchLight true .switchedOn else .done e none

/-- Switches the light off when no alarm is left. -/
def lightDown (e : Engine) : Step (Option FlashlightAction) :=
  if e.store.isEmpty then e.switchLight false .switchedOff else .done e none

def pollFlashlight (e : Engine) (now : Instant) : Step (Option FlashlightAction) :=
  if !e.attached.relay || e.settings.laboratory = 0 then .done e none
  else if e.flashlightOn then e.lightDown
  else e.lightUp now

end AlarmEscalation.Engine
