import AlarmEscalation.Config.Schema
import AlarmEscalation.Yaml.Decode

/-!
Configurations as YAML documents. What is read this way is also checked for flaws.
-/
namespace AlarmEscalation.Config

open Yaml

def Kind.decoder : (kind : Kind) → Decoder kind.Value
  | .port => fun d path node => (Decoder.natural 65535 "u16" d path node).map Nat.toUInt16
  | .seconds => fun d path node => (Decoder.natural 4294967295 "u32" d path node).map Nat.toUInt32
  | .count => fun d path node =>
    (Decoder.natural 18446744073709551615 "u64" d path node).map Nat.toUInt64
  | .text => Decoder.text
  | .optionalText => Decoder.optional Decoder.text
  | .texts => Decoder.list Decoder.text

def Setting.entry (s : Setting S) : Yaml.Slot S :=
  ⟨s.name, fun content d path node => (s.kind.decoder d path node).map (s.set content)⟩

def Section.entry (s : Section) : Yaml.Slot Config :=
  ⟨s.name, fun c d path node =>
    (ofFields s.title (s.settings.map Setting.entry) s.unset d path node).map (s.set c)⟩

/-- Reads a configuration from a node of a document; it may have flaws. -/
def decoder : Decoder Config := ofFields title (sections.map Section.entry) {}

/-- Reads a configuration and checks it. -/
def ofYaml (text : String) : Except AlarmError Config := do
  let c ← (Yaml.decode decoder text).mapError (·.report)
  c.validate.mapError (·.report)
  return c

end AlarmEscalation.Config
