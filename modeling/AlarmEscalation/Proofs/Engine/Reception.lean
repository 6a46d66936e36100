import AlarmEscalation.BusClient
import AlarmEscalation.Proofs.Engine.Frame
import Mathlib.Data.List.Induction

/-! # What a message from the bus does to an engine

A payload is read into named fields, of which four make an event: the kind of the message, and the
name, severity and status of a process variable. `Announces` reads them off the payload. A payload
that announces nothing leaves the engine as it is, one that does is as good as its event, and the
address scheme in front of a name is of no account. -/
namespace AlarmEscalation

namespace StateMessage

/-! ## Fields -/

/-- The value of a name among fields of which the last one of a name counts. -/
def lastOf (name : String) (fields : List (String × String)) : Option String :=
  fields.reverse.lookup name

theorem field?_ofFields (fields : List (String × String)) (name : String) :
    (ofFields fields).field? name = lastOf name fields := by
  induction fields using List.reverseRecOn with
  | nil => rfl
  | append_singleton fields field ih =>
    obtain ⟨key, value⟩ := field
    have hsnoc : ofFields (fields ++ [(key, value)]) = (ofFields fields).withField key value := by
      rw [ofFields, List.foldl_append]
      rfl
    rw [hsnoc, field?_withField, ih, lastOf, lastOf, List.reverse_concat, List.lookup_cons]
    by_cases h : name = key
    · simp [h]
    · rw [if_neg h, beq_eq_false_iff_ne.mpr h]

/-- Nothing but these fields makes a message an event. -/
def eventFields : List String := ["TEXT", "NAME", "SEVERITY", "STATUS"]

theorem toRecord?_congr {m m' : StateMessage}
    (h : ∀ name ∈ eventFields, m'.field? name = m.field? name) (received : Instant) :
    m'.toRecord? received = m.toRecord? received := by
  obtain ⟨htext, hname, hseverity, hstatus⟩ :
      m'.field? "TEXT" = m.field? "TEXT" ∧ m'.field? "NAME" = m.field? "NAME" ∧
        m'.field? "SEVERITY" = m.field? "SEVERITY" ∧ m'.field? "STATUS" = m.field? "STATUS" := by
    simpa [eventFields] using h
  rw [toRecord?, toRecord?, htext, hname, hseverity, hstatus]

/-! ## Names -/

def HasScheme (name : String) : Prop := "epics://".toList <+: name.toList

/-- A name stands for an identifier with one address scheme in front of it, or without any. -/
def Spells (id name : String) : Prop := name = "epics://" ++ id ∨ ¬ HasScheme name ∧ name = id

theorem Spells.withoutScheme_eq {id name : String} (h : Spells id name) :
    withoutScheme name = id := by
  unfold withoutScheme
  rcases h with rfl | ⟨hnone, rfl⟩
  · simp
  · rw [if_neg]
    simpa [HasScheme] using hnone

theorem spells_withoutScheme (name : String) : Spells (withoutScheme name) name := by
  unfold withoutScheme
  dsimp only
  split
  · rename_i h
    obtain ⟨rest, hrest⟩ := List.isPrefixOf_iff_prefix.mp h
    refine .inl (String.toList_injective ?_)
    rw [← hrest, String.toList_append]
    simp
  · rename_i h
    exact .inr ⟨fun hscheme => h (List.isPrefixOf_iff_prefix.mpr hscheme), rfl⟩

/-! ## Payloads -/

/-- The members of a payload, which has to be an object of strings. -/
def membersOf (payload : List Json.Glyph) : Except Json.Error (List (String × String)) :=
  Json.decode (Json.Reader.object Json.Reader.text) payload

/-- A payload that announces the state of a process variable. -/
def Announces (payload : List Json.Glyph) (name severity status : String) : Prop :=
  ∃ fields, membersOf payload = .ok fields ∧ lastOf "TEXT" fields = some "STATE" ∧
    lastOf "NAME" fields = some name ∧ lastOf "SEVERITY" fields = some severity ∧
    lastOf "STATUS" fields = some status

/-- Two payloads whose messages have the same to say in the fields that count. -/
def Alike (payload payload' : List Json.Glyph) : Prop :=
  ∃ fields fields', membersOf payload = .ok fields ∧ membersOf payload' = .ok fields' ∧
    ∀ name ∈ eventFields, lastOf name fields' = lastOf name fields

theorem ofPayload_eq (payload : List Json.Glyph) :
    ofPayload payload = (membersOf payload).map ofFields := rfl

end StateMessage

namespace Engine

open StateMessage

variable (e : Engine) {payload : List Json.Glyph}

/-- What an engine answers when it takes in an event, and the engine after it. -/
def receives (event : AlarmRecord) : Except Json.Error (Option IngestOutcome) × Engine :=
  (.ok (some (e.ingest event).1), (e.ingest event).2)

theorem receive_of_error {fault : Json.Error} (h : membersOf payload = .error fault)
    (now : Instant) : e.receive payload now = (.error fault, e) := by
  rw [receive, ofPayload_eq, h]
  rfl

theorem receive_of_members {fields : List (String × String)} (h : membersOf payload = .ok fields)
    (now : Instant) :
    e.receive payload now =
      match (ofFields fields).toRecord? now with
      | none => (.ok none, e)
      | some event => e.receives event := by
  rw [receive, ofPayload_eq, h]
  rfl

theorem receive_of_announces {name severity status id : String}
    (h : Announces payload name severity status) (spells : Spells id name) (now : Instant) :
    e.receive payload now = e.receives ⟨id, severity, status, now, false, false⟩ := by
  obtain ⟨fields, hmembers, htext, hname, hseverity, hstatus⟩ := h
  rw [← field?_ofFields] at htext hname hseverity hstatus
  rw [e.receive_of_members hmembers, toRecord?, if_pos htext, hname, hseverity, hstatus]
  simp only [Option.bind_eq_bind, Option.bind_some, spells.withoutScheme_eq]

theorem receive_of_incomplete {fields : List (String × String)}
    (h : membersOf payload = .ok fields)
    (incomplete : lastOf "TEXT" fields ≠ some "STATE" ∨
      ∃ name ∈ eventFields, lastOf name fields = none) (now : Instant) :
    e.receive payload now = (.ok none, e) := by
  have hnone : (ofFields fields).toRecord? now = none := by
    simp only [← field?_ofFields] at incomplete
    unfold toRecord?
    split
    · rename_i htext
      rcases incomplete with hother | ⟨name, hmem, hmissing⟩
      · exact absurd htext hother
      · simp only [eventFields, List.mem_cons, List.not_mem_nil, or_false] at hmem
        rcases hmem with rfl | rfl | rfl | rfl
        · rw [htext] at hmissing
          cases hmissing
        · simp [hmissing]
        · simp [hmissing]
        · simp [hmissing]
    · rfl
  rw [e.receive_of_members h, hnone]

/-- A message is as good as any other that has the same to say. -/
theorem receive_of_alike {payload' : List Json.Glyph} (h : Alike payload payload')
    (now : Instant) : e.receive payload' now = e.receive payload now := by
  obtain ⟨fields, fields', hmembers, hmembers', hsame⟩ := h
  simp only [← field?_ofFields] at hsame
  rw [e.receive_of_members hmembers, e.receive_of_members hmembers', toRecord?_congr hsame]

/-- The client of the bus does no more to the engine than hand over the message. -/
theorem deliver_engine (payload : List Json.Glyph) (now : Instant) :
    (BusClient.deliver e payload now).1 = (e.receive payload now).2 := by
  unfold BusClient.deliver
  split <;> rename_i h <;> rw [h]

/-- What a payload does to an engine, whichever of the two it is handed to. -/
structure Received (payload : List Json.Glyph) (now : Instant) : Prop where
  unread : ∀ fault, membersOf payload = .error fault → e.receive payload now = (.error fault, e)
  dropped : ∀ fields, membersOf payload = .ok fields →
    (lastOf "TEXT" fields ≠ some "STATE" ∨ ∃ name ∈ eventFields, lastOf name fields = none) →
    e.receive payload now = (.ok none, e)
  announced : ∀ name severity status, Announces payload name severity status →
    ∃ id, Spells id name ∧
      e.receive payload now = e.receives ⟨id, severity, status, now, false, false⟩
  alike : ∀ payload', Alike payload payload' → e.receive payload' now = e.receive payload now
  delivered : (BusClient.deliver e payload now).1 = (e.receive payload now).2

theorem received (payload : List Json.Glyph) (now : Instant) : e.Received payload now where
  unread _ h := e.receive_of_error h now
  dropped _ h incomplete := e.receive_of_incomplete h incomplete now
  announced name _ _ h :=
    ⟨withoutScheme name, spells_withoutScheme name,
      e.receive_of_announces h (spells_withoutScheme name) now⟩
  alike _ h := e.receive_of_alike h now
  delivered := e.deliver_engine payload now

/-- An alarm is raised by one payload and cleared by another. -/
structure RaisedAndCleared (id : String) (raising clearing : List Json.Glyph)
    (now now' : Instant) : Prop where
  raised : ((e.receive raising now).2.store.get? id).isSome
  removed : ((e.receive raising now).2.receive clearing now').1 = .ok (some .removed)
  cleared : ((e.receive raising now).2.receive clearing now').2.store.get? id = none
  others : ∀ other ≠ id, ((e.receive raising now).2.receive clearing now').2.store.get? other =
    e.store.get? other

theorem raisedAndCleared {id name name' severity severity' status status' : String}
    {raising clearing : List Json.Glyph} (raises : Announces raising name severity status)
    (clears : Announces clearing name' severity' status') (spells : Spells id name)
    (spells' : Spells id name') (active : isClearingSeverity severity = false)
    (ends : isClearingSeverity severity' = true) (now now' : Instant) :
    e.RaisedAndCleared id raising clearing now now' := by
  have hraise := e.receive_of_announces raises spells now
  have hclear := (e.receive raising now).2.receive_of_announces clears spells' now'
  generalize hevent : (⟨id, severity, status, now, false, false⟩ : AlarmRecord) = event at hraise
  generalize hevent' : (⟨id, severity', status', now', false, false⟩ : AlarmRecord) = event'
    at hclear
  have hid : event.id = id := by rw [← hevent]
  have hid' : event'.id = id := by rw [← hevent']
  have hactive : event.isClearing = false := by rw [← hevent]; exact active
  have hover : event'.isClearing = true := by rw [← hevent']; exact ends
  have hstore : (e.receive raising now).2.store = (e.store.ingest event).2 := by
    rw [hraise]
    exact e.store_ingest event
  have hsome : ((e.receive raising now).2.store.get? id).isSome := by
    rw [hstore, ← hid, AlarmStore.get?_ingest_self]
    unfold AlarmRecord.takenIn
    rw [hactive]
    cases e.store.get? event.id <;> rfl
  have hgone : ((e.receive raising now).2.receive clearing now').2.store =
      ((e.receive raising now).2.store.ingest event').2 := by
    rw [hclear]
    exact store_ingest _ event'
  refine ⟨hsome, ?_, ?_, fun other hne => ?_⟩
  · obtain ⟨r, hr⟩ := Option.isSome_iff_exists.mp hsome
    rw [hclear, receives, outcome_ingest, AlarmStore.outcome_ingest, hid', hr]
    simp only [AlarmRecord.outcome, hover, if_pos]
  · rw [hgone, ← hid', AlarmStore.get?_ingest_self]
    simp only [AlarmRecord.takenIn, hover, if_pos]
  · rw [hgone, AlarmStore.get?_ingest_of_ne _ _ (hid' ▸ hne), hstore,
      AlarmStore.get?_ingest_of_ne _ _ (hid ▸ hne)]

/-- **A message is taken in as a whole or not at all, and four of its fields say what it is.** A
payload that is no object of strings, or is of another kind, or has no name, severity or status,
leaves every engine as it is. Any other is taken in as the new event that the last values of these
fields make, triggered when it is received; payloads that agree in them are as good as each other.
So whether the name has an address scheme in front of it or not, the alarm is the same one, and what
is raised under one name is cleared under the other. -/
theorem messages_all_or_nothing (e : Engine) :
    (∀ payload now, e.Received payload now) ∧
    ∀ (id severity severity' status status' : String) (raising clearing : List Json.Glyph)
      (now now' : Instant), ¬ HasScheme id → isClearingSeverity severity = false →
      isClearingSeverity severity' = true →
      (Announces raising ("epics://" ++ id) severity status →
        Announces clearing id severity' status' →
        e.RaisedAndCleared id raising clearing now now') ∧
      (Announces raising id severity status →
        Announces clearing ("epics://" ++ id) severity' status' →
        e.RaisedAndCleared id raising clearing now now') := by
  refine ⟨e.received, ?_⟩
  intro id severity severity' status status' raising clearing now now' bare active ends
  have hwith : Spells id ("epics://" ++ id) := .inl rfl
  have hwithout : Spells id id := .inr ⟨bare, rfl⟩
  exact ⟨fun raises clears => e.raisedAndCleared raises clears hwith hwithout active ends now now',
    fun raises clears => e.raisedAndCleared raises clears hwithout hwith active ends now now'⟩

/-- An alarm as the server of the bus raises it. -/
def raisedOnBus : List Json.Glyph :=
  Json.glyphs ("\x7b\"TEXT\":\"STATE\",\"NAME\":\"epics://HV\"," ++
    "\"SEVERITY\":\"MAJOR\",\"STATUS\":\"HIHI\"\x7d")

/-- Someone has taken notice of it: there is no scheme, another order, a field that does not count
and a severity that is said twice. -/
def acknowledgedOnBus : List Json.Glyph :=
  Json.glyphs ("\x7b\"SEVERITY\":\"MAJOR\",\"HOST\":\"ioc1\",\"STATUS\":\"HIHI\"," ++
    "\"SEVERITY\":\"MAJOR_ACK\",\"NAME\":\"HV\",\"TEXT\":\"STATE\"\x7d")

theorem messages_all_or_nothing_acknowledged :
    (¬ HasScheme "HV" ∧ isClearingSeverity "MAJOR" = false ∧
      isClearingSeverity "MAJOR_ACK" = true ∧
      Announces raisedOnBus ("epics://" ++ "HV") "MAJOR" "HIHI" ∧
      Announces acknowledgedOnBus "HV" "MAJOR_ACK" "HIHI") ∧
    RaisedAndCleared { settings := { role := .server }, attached := {} } "HV" raisedOnBus
      acknowledgedOnBus .epoch .epoch := by
  have bare : ¬ HasScheme "HV" := by unfold HasScheme; decide
  have raises : Announces raisedOnBus ("epics://" ++ "HV") "MAJOR" "HIHI" :=
    ⟨[("TEXT", "STATE"), ("NAME", "epics://HV"), ("SEVERITY", "MAJOR"), ("STATUS", "HIHI")],
      by rfl, by decide, by decide, by decide, by decide⟩
  have clears : Announces acknowledgedOnBus "HV" "MAJOR_ACK" "HIHI" :=
    ⟨[("SEVERITY", "MAJOR"), ("HOST", "ioc1"), ("STATUS", "HIHI"), ("SEVERITY", "MAJOR_ACK"),
      ("NAME", "HV"), ("TEXT", "STATE")], by rfl, by decide, by decide, by decide, by decide⟩
  obtain ⟨-, hacts⟩ := messages_all_or_nothing { settings := { role := .server }, attached := {} }
  exact ⟨⟨bare, by decide, by decide, raises, clears⟩,
    (hacts "HV" "MAJOR" "MAJOR_ACK" "HIHI" "HIHI" _ _ _ _ bare (by decide) (by decide)).1 raises
      clears⟩

end Engine

end AlarmEscalation
