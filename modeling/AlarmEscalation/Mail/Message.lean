import AlarmEscalation.Mail.Address
import AlarmEscalation.Mail.Encoding
import AlarmEscalation.Mail.Text

/-!
The alarm e-mail as it is handed to the mail server, line by line. The date line is left to the one
who sends it.
-/
namespace AlarmEscalation.Mail

def senderName : String := "Alarm Notification Daemon"

def recipientName : String := "Alarm Notification Mailing List"

def fault (text : String) : AlarmError := ⟨.mail, text⟩

def parseAddress (text : String) : Except AlarmError Address :=
  match Address.parse text with
  | .ok a => .ok a
  | .error e => .error (fault ("Invalid email address \x27" ++ text ++ "\x27: " ++ e.message))

/-- Whose address got lost. -/
def unusable (whose : String) : AlarmError :=
  fault ("Failed to build email: missing " ++ whose ++ " address, invalid envelope")

def mailbox (name : String) (a : Address) : String :=
  "\x22" ++ name ++ "\x22 <" ++ a.written ++ ">"

/-- The lines of the mail. -/
def compose (sender recipient : String) (records : List AlarmRecord) :
    Except AlarmError (List String) := do
  let sender ← parseAddress sender
  let recipient ← parseAddress recipient
  if !sender.survivesHeader then throw (unusable "source")
  if !recipient.survivesHeader then throw (unusable "destination")
  let body := Text.Utf8.encode (text records)
  let encoding := chooseEncoding body
  return ["From: " ++ mailbox senderName sender,
    "To: " ++ mailbox recipientName recipient,
    "Subject: " ++ subject,
    "Content-Type: text/plain; charset=utf-8",
    "Content-Transfer-Encoding: " ++ encoding.name,
    ""] ++ (encodeBody encoding body).map String.ofList

end AlarmEscalation.Mail
