import AlarmEscalation.Config.Basic
import AlarmEscalation.Engine.Basic
import AlarmEscalation.Notify.CommandAlert
import AlarmEscalation.Notify.SerialRelay

/-!
The engines that a configuration asks for, at the server and on a desktop, with the collaborators
each of them is given.
-/
namespace AlarmEscalation

/-- The collaborators of an engine and what they are made from. -/
structure Collaborators where
  /-- The command that shows popups. -/
  presenter : String
  relay : Option SerialRelay := none
  /-- Where e-mails go, and by which server. -/
  mailer : Option Config.Email := none
  alert : Option CommandAlert := none

def Collaborators.attached (c : Collaborators) : Attached where
  desktop := true
  mail := c.mailer.isSome
  relay := c.relay.isSome
  alert := c.alert.isSome

namespace Config

/-- The server drives the channels that are turned on. -/
def serverCollaborators (c : Config) : Collaborators where
  presenter := c.desktop.command
  relay := if 0 < c.notifications.laboratory then some { node := c.flashlight.device } else none
  mailer := if 0 < c.notifications.email then some c.email else none

/-- A desktop shows popups and, if it is asked to, plays the alert. -/
def desktopCollaborators (c : Config) (alert : Bool) : Except AlarmError Collaborators :=
  if alert then
    (CommandAlert.ofArguments c.desktop.alertCommand).map fun player =>
      { presenter := c.desktop.command, alert := some player }
  else .ok { presenter := c.desktop.command }

def serverEngine (c : Config) : Except AlarmError Engine :=
  (Engine.build (c.engineSettings .server) c.serverCollaborators.attached).mapError (·.report)

def desktopEngine (c : Config) (alert : Bool) : Except AlarmError Engine := do
  let collaborators ← c.desktopCollaborators alert
  (Engine.build (c.engineSettings .desktop) collaborators.attached).mapError (·.report)

end Config

end AlarmEscalation
