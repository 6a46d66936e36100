import AlarmEscalation.Notify.Presenter

/-!
The text of an alarm e-mail.
-/
namespace AlarmEscalation.Mail

def subject : String := "Detector Control System Alarm"

def text (records : List AlarmRecord) : String :=
  "Hello,\n\nthe following PV(s) triggered an alarm:\n\n" ++ Presenter.idLines records ++
    "\nPlease remember to acknowledge the alarms if you go solving the problem.\n\n\n" ++
    "Your Alarm Notification Service\n"

end AlarmEscalation.Mail
