import AlarmEscalation.Proofs.Json.Structures
import AlarmEscalation.Proofs.Json.Writing
import AlarmEscalation.Proofs.Time.Written
import AlarmEscalation.Record.Json

/-! # Written records are read back

A written record is an object of texts and truth values, and its reader finds in it what was
written. The marks may be taken out of it: they are then unset. The trigger time is read as its
written form shows it, which is another time only for a leap second in the middle of a minute. -/
namespace AlarmEscalation.AlarmRecord

open Json

/-- The written record, without the mark for the desktop or the one for e-mail if so chosen. -/
def jsonWithout (desktop email : Bool) (r : AlarmRecord) : String :=
  String.ofList <| writeObject <| r.writtenMembers.filter fun (name, _) =>
    !(desktop && name == "desktop_notified") && !(email && name == "email_notified")

/-- A written member: its name, its content and its written value. -/
abbrev Member := String × Content × List Char

def flagMember (name : String) (b : Bool) : Member := (name, .bool b, writeBool b)

def textMember (name value : String) : Member := (name, .text value, writeString value)

/-- The members that are left in. -/
def kept (desktop email : Bool) (r : AlarmRecord) : List Member :=
  textMember "id" r.id :: textMember "severity" r.severity :: textMember "status" r.status ::
    textMember "trigger_time" r.triggerTime.written ::
    ((if desktop then [] else [flagMember "desktop_notified" r.desktopNotified]) ++
      if email then [] else [flagMember "email_notified" r.emailNotified])

theorem writtenMembers_kept (desktop email : Bool) (r : AlarmRecord) :
    r.writtenMembers.filter (fun (name, _) =>
      !(desktop && name == "desktop_notified") && !(email && name == "email_notified")) =
    (kept desktop email r).map fun m => (m.1, m.2.2) := by
  cases desktop <;> cases email <;> rfl

theorem written_of_mem_kept {desktop email : Bool} {r : AlarmRecord} {m : Member}
    (h : m ∈ kept desktop email r) : Written m.2.1 m.2.2 := by
  have hm : (∃ name value, m = textMember name value) ∨ ∃ name b, m = flagMember name b := by
    cases desktop <;> cases email <;> simp only [kept] at h <;> grind
  rcases hm with ⟨name, value, rfl⟩ | ⟨name, b, rfl⟩
  · exact written_writeString value
  · exact written_writeBool b

/-- The record with its trigger time as the written form shows it. -/
def shown (r : AlarmRecord) : AlarmRecord := { r with triggerTime := r.triggerTime.shown }

theorem shown_eq_iff {r : AlarmRecord} : r.shown = r ↔ ¬ r.triggerTime.IsUnnamed := by
  rw [← Instant.shown_eq_iff]
  constructor
  · intro h
    exact congrArg triggerTime h
  · intro h
    rw [shown, h]

/-! ## What they store -/

theorem means_instantReader (t : Instant) : Means instantReader (.text t.written) t.shown :=
  means_textAs (by rw [Instant.read_written])

/-- A member stores what its slot finds in its value. -/
theorem stores_of_means {α : Type} (set : AlarmRecord → α → AlarmRecord) {name : String}
    {value : Content} {s : AlarmRecord} {required : Bool} {r : Reader α} {a : α}
    (hslot : slots.find? (fun slot => slot.name == name) =
      some ⟨name, required, fun s => do return set s (← r)⟩) (h : Means r value a) :
    Stores slots name value s (set s a) :=
  ⟨_, hslot, h.bind_pure (set s)⟩

section Stored
variable (r s : AlarmRecord)

theorem stores_id : Stores slots "id" (.text r.id) s { s with id := r.id } :=
  stores_of_means (fun s v => { s with id := v }) rfl (means_text r.id)

theorem stores_severity :
    Stores slots "severity" (.text r.severity) s { s with severity := r.severity } :=
  stores_of_means (fun s v => { s with severity := v }) rfl (means_text r.severity)

theorem stores_status : Stores slots "status" (.text r.status) s { s with status := r.status } :=
  stores_of_means (fun s v => { s with status := v }) rfl (means_text r.status)

theorem stores_triggerTime : Stores slots "trigger_time" (.text r.triggerTime.written) s
    { s with triggerTime := r.triggerTime.shown } :=
  stores_of_means (fun s v => { s with triggerTime := v }) rfl (means_instantReader r.triggerTime)

theorem stores_desktopNotified : Stores slots "desktop_notified" (.bool r.desktopNotified) s
    { s with desktopNotified := r.desktopNotified } :=
  stores_of_means (fun s v => { s with desktopNotified := v }) rfl (means_bool r.desktopNotified)

theorem stores_emailNotified : Stores slots "email_notified" (.bool r.emailNotified) s
    { s with emailNotified := r.emailNotified } :=
  stores_of_means (fun s v => { s with emailNotified := v }) rfl (means_bool r.emailNotified)

end Stored

theorem fills_kept (desktop email : Bool) (r : AlarmRecord) :
    Content.Fills (slots.map Slot.name) (Stores slots)
      ((kept desktop email r).map fun m => (m.1, m.2.1)) [] blank
      { r.shown with desktopNotified := r.desktopNotified && !desktop
                     emailNotified := r.emailNotified && !email } := by
  simp only [kept, textMember, List.map_cons, List.map_append]
  refine .stored (by decide) (by decide) (stores_id r _) ?_
  refine .stored (by decide) (by decide) (stores_severity r _) ?_
  refine .stored (by decide) (by decide) (stores_status r _) ?_
  refine .stored (by decide) (by decide) (stores_triggerTime r _) ?_
  cases desktop <;> cases email <;>
    simp only [Bool.false_eq_true, if_false, if_true, flagMember, List.map_cons, List.map_nil,
      List.nil_append, List.cons_append, Bool.not_true, Bool.not_false, Bool.and_false,
      Bool.and_true]
  · refine .stored (by decide) (by decide) (stores_desktopNotified r _) ?_
    exact .stored (by decide) (by decide) (stores_emailNotified r _) .nil
  · exact .stored (by decide) (by decide) (stores_desktopNotified r _) .nil
  · exact .stored (by decide) (by decide) (stores_emailNotified r _) .nil
  · exact .nil

theorem means_reader (desktop email : Bool) (r : AlarmRecord) :
    Means reader (.mapping ((kept desktop email r).map fun m => (m.1, m.2.1)))
      { r.shown with desktopNotified := r.desktopNotified && !desktop
                     emailNotified := r.emailNotified && !email } := by
  refine means_ofFields (fills_kept desktop email r) fun slot hslot hrequired => ?_
  simp only [slots, List.mem_cons, List.not_mem_nil, or_false] at hslot
  rcases hslot with rfl | rfl | rfl | rfl | rfl | rfl
  any_goals cases hrequired
  all_goals simp [Content.names, kept, textMember]

/-- Without one of its marks a written record is read with that mark unset. -/
theorem ofJson_jsonWithout (desktop email : Bool) (r : AlarmRecord) :
    ofJson (r.jsonWithout desktop email) =
      .ok { r.shown with desktopNotified := r.desktopNotified && !desktop
                         emailNotified := r.emailNotified && !email } := by
  have hwritten : Written (.mapping ((kept desktop email r).map fun m => (m.1, m.2.1)))
      (writeObject ((kept desktop email r).map fun m => (m.1, m.2.2))) :=
    written_writeObject fun m hm => written_of_mem_kept hm
  have hdecode := decode_of_means (means_reader desktop email r) hwritten.document
  rw [ofJson, jsonWithout, writtenMembers_kept, glyphs, String.toList_ofList]
  exact hdecode

theorem ofJson_toJson (r : AlarmRecord) : ofJson r.toJson = .ok r.shown := by
  have hall := ofJson_jsonWithout false false r
  simp only [Bool.not_false, Bool.and_true] at hall
  exact hall

/-- **Written records are read back.** A written record is read as it was, whatever its texts and
whatever its time, unless that is a leap second in the middle of a minute, which is read as the
second behind it. Without one of its marks it is read with that mark unset. -/
theorem ofJson_written (r : AlarmRecord) :
    ofJson r.toJson = .ok r.shown ∧
      (∀ desktop email, ofJson (r.jsonWithout desktop email) =
        .ok { r.shown with desktopNotified := r.desktopNotified && !desktop
                           emailNotified := r.emailNotified && !email }) ∧
      (r.shown = r ↔ ¬ r.triggerTime.IsUnnamed) :=
  ⟨r.ofJson_toJson, fun desktop email => ofJson_jsonWithout desktop email r, shown_eq_iff⟩

/-- Half a second into a leap second in the middle of a minute. -/
def offMinute : AlarmRecord where
  id := "PV1"
  severity := "MAJOR"
  status := "HIHI"
  triggerTime := ⟨100, nanosPerSecond + 500000000, by decide, by decide, by decide⟩

/-- It is written as half a second into the second behind, and cannot be told from it any more. -/
theorem offMinute_not_read_back :
    offMinute.triggerTime.written = "1970-01-01T00:01:41.500Z" ∧
    ofJson offMinute.toJson ≠ .ok offMinute ∧
    ofJson offMinute.toJson = .ok { offMinute with
      triggerTime := ⟨101, 500000000, by decide, by decide, by decide⟩ } := by
  have hunnamed : offMinute.triggerTime.IsUnnamed := by decide
  rw [ofJson_toJson]
  refine ⟨by decide, ?_, rfl⟩
  intro h
  exact shown_eq_iff.mp (Except.ok.inj h) hunnamed

end AlarmEscalation.AlarmRecord
