import AlarmEscalation.Record.Basic
import AlarmEscalation.Json.Decode

/-!
Messages of the alarm server. A message is a set of named fields. Those that announce a state carry
`STATE` as their `TEXT`; of these, name, severity and status make an alarm record.
-/
namespace AlarmEscalation

/-- Fields by name; of several fields of one name the last one counts. -/
structure StateMessage where
  fields : List (String × String) := []
deriving DecidableEq, Repr

namespace StateMessage

def empty : StateMessage := {}

def field? (m : StateMessage) (name : String) : Option String :=
  (m.fields.find? fun f => f.1 == name).map Prod.snd

def withField (m : StateMessage) (name value : String) : StateMessage :=
  ⟨(name, value) :: m.fields.filter fun f => f.1 != name⟩

def ofFields (fields : List (String × String)) : StateMessage :=
  fields.foldl (fun m f => m.withField f.1 f.2) empty

def ofPayload (payload : List Json.Glyph) : Except Json.Error StateMessage :=
  (Json.decode (Json.Reader.object Json.Reader.text) payload).map ofFields

/-- The name of a process variable, without the address scheme in front of it. -/
def withoutScheme (name : String) : String :=
  let scheme := "epics://".toList
  if scheme.isPrefixOf name.toList then String.ofList (name.toList.drop scheme.length) else name

/-- The event that the message announces, triggered when it was received. -/
def toRecord? (m : StateMessage) (received : Instant) : Option AlarmRecord :=
  if m.field? "TEXT" = some "STATE" then do
    let name ← m.field? "NAME"
    let severity ← m.field? "SEVERITY"
    let status ← m.field? "STATUS"
    some { id := withoutScheme name, severity, status, triggerTime := received }
  else none

theorem field?_withField (m : StateMessage) (name value other : String) :
    (m.withField name value).field? other =
      if other = name then some value else m.field? other := by
  by_cases h : name = other
  · subst h; simp [withField, field?]
  · simp only [withField, field?, List.find?_cons, List.find?_filter]
    rw [if_neg (Ne.symm h), beq_eq_false_iff_ne.2 h]
    simp only
    congr 2; funext f
    by_cases hf : f.1 = other <;> simp [hf, Ne.symm h]

end StateMessage

end AlarmEscalation
