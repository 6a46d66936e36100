import AlarmEscalation.Record.Basic
import AlarmEscalation.Time.Read
import AlarmEscalation.Time.Written
import AlarmEscalation.Json.Decode
import AlarmEscalation.Json.Written

/-!
Alarm records as JSON objects. Marks of earlier announcements may be left out and are then unset.
-/
namespace AlarmEscalation.AlarmRecord

open Json

/-- An instant in its written form. -/
def instantReader : Reader Instant :=
  Reader.textAs "an RFC 3339 formatted date and time string" fun text =>
    match Instant.read text with
    | .ok t => .ok t
    | .error fault => .error (.rejected fault.message)

def slots : List (Slot AlarmRecord) :=
  [⟨"id", true, fun r => do return { r with id := ← Reader.text }⟩,
   ⟨"severity", true, fun r => do return { r with severity := ← Reader.text }⟩,
   ⟨"status", true, fun r => do return { r with status := ← Reader.text }⟩,
   ⟨"trigger_time", true, fun r => do return { r with triggerTime := ← instantReader }⟩,
   ⟨"desktop_notified", false, fun r => do return { r with desktopNotified := ← Reader.bool }⟩,
   ⟨"email_notified", false, fun r => do return { r with emailNotified := ← Reader.bool }⟩]

/-- What the fields are filled into. -/
def blank : AlarmRecord := ⟨"", "", "", Instant.epoch, false, false⟩

def reader : Reader AlarmRecord := ofFields "struct AlarmRecord" slots blank

def ofJson (document : String) : Except Json.Error AlarmRecord := decode reader (glyphs document)

/-- The members of the written object: name and written value. -/
def writtenMembers (r : AlarmRecord) : List (String × List Char) :=
  [("id", writeString r.id), ("severity", writeString r.severity),
   ("status", writeString r.status), ("trigger_time", writeString r.triggerTime.written),
   ("desktop_notified", writeBool r.desktopNotified),
   ("email_notified", writeBool r.emailNotified)]

def toJson (r : AlarmRecord) : String := String.ofList (writeObject r.writtenMembers)

end AlarmEscalation.AlarmRecord
