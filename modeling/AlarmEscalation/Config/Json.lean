import AlarmEscalation.Config.Schema
import AlarmEscalation.Json.Decode
import AlarmEscalation.Json.Written

/-!
Configurations as JSON documents.
-/
namespace AlarmEscalation.Config

open Json

def Kind.reader : (kind : Kind) → Reader kind.Value
  | .port => do return (← Reader.natural 65535 "u16").toUInt16
  | .seconds => do return (← Reader.natural 4294967295 "u32").toUInt32
  | .count => do return (← Reader.natural 18446744073709551615 "u64").toUInt64
  | .text => Reader.text
  | .optionalText => Reader.optional Reader.text
  | .texts => Reader.list Reader.text

def Setting.slot (s : Setting S) : Json.Slot S :=
  ⟨s.name, false, fun content => do return s.set content (← s.kind.reader)⟩

def Section.slot (s : Section) : Json.Slot Config :=
  ⟨s.name, false, fun c => do
    return s.set c (← ofFields s.title (s.settings.map Setting.slot) s.unset)⟩

/-- Reads a configuration; it may have flaws. -/
def ofJson (document : String) : Except Json.Error Config :=
  Json.decode (ofFields title (sections.map Section.slot) {}) (glyphs document)

def Kind.write : (kind : Kind) → kind.Value → List Char
  | .port, v => writeNat v.toNat
  | .seconds, v => writeNat v.toNat
  | .count, v => writeNat v.toNat
  | .text, v => writeString v
  | .optionalText, v => writeOptional writeString v
  | .texts, v => writeList (v.map writeString)

def Section.write (s : Section) (c : Config) : List Char :=
  writeObject (s.settings.map fun setting =>
    (setting.name, setting.kind.write (setting.get (s.get c))))

/-- The configuration with all its settings. -/
def toJson (c : Config) : String :=
  String.ofList (writeObject (sections.map fun s => (s.name, s.write c)))

end AlarmEscalation.Config
