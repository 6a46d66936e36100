import AlarmEscalation.Config.Json
import AlarmEscalation.Proofs.Config.Shape
import AlarmEscalation.Proofs.Json.Structures
import AlarmEscalation.Proofs.Json.Writing

/-! # Configurations in JSON documents

The reader of a document finds the configuration that its entries make up, in every form in which
the document can be written, and rejects it if a number is too large for its setting. -/
namespace AlarmEscalation.Config

open Json

/-! ## Settings -/

section Settings
variable {kind : Kind}

theorem means_reader (v : kind.Value) : Means kind.reader (kind.content v) v := by
  cases kind with
  | port =>
    have hread : Means (Reader.natural 65535 "u16") (.integer v.toNat) v.toNat :=
      means_natural (Nat.le_of_lt_succ v.toNat_lt) (by decide)
    have hvalue := hread.bind_pure Nat.toUInt16
    rwa [show v.toNat.toUInt16 = v from UInt16.ofNat_toNat] at hvalue
  | seconds =>
    have hread : Means (Reader.natural 4294967295 "u32") (.integer v.toNat) v.toNat :=
      means_natural (Nat.le_of_lt_succ v.toNat_lt) (by decide)
    have hvalue := hread.bind_pure Nat.toUInt32
    rwa [show v.toNat.toUInt32 = v from UInt32.ofNat_toNat] at hvalue
  | count =>
    have hread : Means (Reader.natural 18446744073709551615 "u64") (.integer v.toNat) v.toNat :=
      means_natural (Nat.le_of_lt_succ v.toNat_lt) (by decide)
    have hvalue := hread.bind_pure Nat.toUInt64
    rwa [show v.toNat.toUInt64 = v from UInt64.ofNat_toNat] at hvalue
  | text => exact means_text v
  | optionalText =>
    cases v with
    | none => exact means_optional_null
    | some v => exact means_optional nofun (means_text v)
  | texts => exact means_list fun v _ => means_text v

theorem judges_reader (content : Content) : Judges kind.reader content := by
  cases kind with
  | port => exact (judges_natural (by decide) content).bind_pure Nat.toUInt16
  | seconds => exact (judges_natural (by decide) content).bind_pure Nat.toUInt32
  | count => exact (judges_natural (by decide) content).bind_pure Nat.toUInt64
  | text => exact judges_text content
  | optionalText => exact judges_optional (judges_text content)
  | texts => exact judges_list judges_text content

/-- A number that does not fit is rejected, not cut to size. -/
theorem rejects_reader {limit : Nat} (hlimit : kind.limit? = some limit) {n : Int}
    (h : ¬ (0 ≤ n ∧ n ≤ limit)) : Rejects kind.reader (.integer n) := by
  cases kind with
  | port =>
    cases hlimit
    exact (rejects_natural_of_integer h).bind _
  | seconds =>
    cases hlimit
    exact (rejects_natural_of_integer h).bind _
  | count =>
    cases hlimit
    exact (rejects_natural_of_integer h).bind _
  | text | optionalText | texts => cases hlimit

theorem written_write (v : kind.Value) : Written (kind.content v) (kind.write v) := by
  cases kind with
  | port | seconds | count => exact written_writeNat _
  | text => exact written_writeString v
  | optionalText =>
    cases v with
    | none => simp only [Kind.content, Written]; rfl
    | some v => exact written_writeString v
  | texts => exact written_writeList fun v _ => written_writeString v

end Settings

/-! ## Sections -/

section Sections
variable {s : Section} (hs : s ∈ sections) {inner : Entries}
include hs

theorem find?_slot {st : Setting s.Content} (hst : st ∈ s.settings) :
    (s.settings.map Setting.slot).find? (fun slot => slot.name == st.name) = some st.slot :=
  Field.find?_map_of_nodup Setting.slot Slot.name (fun _ => rfl) (nodup_settings hs) hst

theorem means_section {x : s.Content} (h : s.Fills inner x) :
    Means (ofFields s.title (s.settings.map Setting.slot) s.unset) (.mapping inner) x := by
  have hfills : Content.Fills (s.fields.map Field.name) (Stores (s.settings.map Setting.slot)) inner
      [] s.unset x := by
    refine h.mono fun name _ value y z hstores => ?_
    obtain ⟨f, hf, rfl, v, hmeans, rfl⟩ := hstores
    obtain ⟨st, hst, rfl⟩ := List.mem_map.mp hf
    obtain rfl : value = st.kind.content v := hmeans
    exact ⟨st.slot, find?_slot hs hst, (means_reader v).bind_pure (st.set y)⟩
  have hnames : s.fields.map Field.name = (s.settings.map Setting.slot).map Slot.name := by
    simp [names_fields, Function.comp_def, Setting.slot]
  rw [hnames] at hfills
  refine means_ofFields hfills fun slot hslot hrequired => ?_
  obtain ⟨st, -, rfl⟩ := List.mem_map.mp hslot
  cases hrequired

omit hs in
theorem judges_slot : ∀ slot ∈ s.settings.map Setting.slot, ∀ x content,
    Judges (slot.store x) content := by
  intro slot hslot x content
  obtain ⟨st, -, rfl⟩ := List.mem_map.mp hslot
  exact (judges_reader content).bind_pure _

/-- A section is spoiled by a number that does not fit, whatever else it gives. -/
theorem rejects_section {st : Setting s.Content} (hst : st ∈ s.settings) {limit : Nat}
    (hlimit : st.kind.limit? = some limit) {n : Int} (hn : ¬ (0 ≤ n ∧ n ≤ limit))
    (hmem : (st.name, .integer n) ∈ inner) :
    Rejects (ofFields s.title (s.settings.map Setting.slot) s.unset) (.mapping inner) :=
  rejects_ofFields judges_slot
    ⟨st.name, .integer n, st.slot, hmem, find?_slot hs hst,
      fun _ => (rejects_reader hlimit hn).bind _⟩

end Sections

/-! ## Documents -/

theorem find?_section {s : Section} (hs : s ∈ sections) :
    (sections.map Section.slot).find? (fun slot => slot.name == s.name) = some s.slot :=
  Field.find?_map_of_nodup Section.slot Slot.name (fun _ => rfl) nodup_sections hs

theorem means_config {entries : Entries} {c : Config} (h : Fills entries c) :
    Means (ofFields title (sections.map Section.slot) {}) (.mapping entries) c := by
  have hfills : Content.Fills (fields.map Field.name) (Stores (sections.map Section.slot)) entries
      [] {} c := by
    refine h.mono fun name _ value c c' hstores => ?_
    obtain ⟨f, hf, rfl, x, hmeans, rfl⟩ := hstores
    obtain ⟨s, hs, rfl⟩ := List.mem_map.mp hf
    obtain ⟨inner, rfl, hinner⟩ := hmeans
    exact ⟨s.slot, find?_section hs, (means_section hs hinner).bind_pure (s.set c)⟩
  have hnames : fields.map Field.name = (sections.map Section.slot).map Slot.name := by
    simp [names_sections, Function.comp_def, Section.slot]
  rw [hnames] at hfills
  refine means_ofFields hfills fun slot hslot hrequired => ?_
  obtain ⟨s, -, rfl⟩ := List.mem_map.mp hslot
  cases hrequired

theorem ofJson_of_fills {entries : Entries} {c : Config} (h : Fills entries c) {text : List Char}
    (hwritten : WrittenDocument (.mapping entries) text) : ofJson (String.ofList text) = .ok c := by
  rw [ofJson, glyphs, String.toList_ofList]
  exact decode_of_means (means_config h) hwritten

theorem written_toJson (c : Config) : WrittenDocument (.mapping c.entries) c.toJson.toList := by
  rw [toJson, String.toList_ofList]
  refine Written.document (written_writeObject fun s _ => ?_)
  exact written_writeObject fun st _ => written_write _

theorem ofJson_of_too_large {s : Section} (hs : s ∈ sections) {st : Setting s.Content}
    (hst : st ∈ s.settings) {limit : Nat} (hlimit : st.kind.limit? = some limit) {n : Int}
    (hn : ¬ (0 ≤ n ∧ n ≤ limit)) {entries inner : Entries}
    (hinner : (s.name, .mapping inner) ∈ entries) (hmem : (st.name, .integer n) ∈ inner)
    {text : List Char} (hwritten : WrittenDocument (.mapping entries) text) :
    ∃ e, ofJson (String.ofList text) = .error e := by
  rw [ofJson, glyphs, String.toList_ofList]
  refine decode_of_rejects (rejects_ofFields ?_ ?_) hwritten
  · intro slot hslot c content
    obtain ⟨s, -, rfl⟩ := List.mem_map.mp hslot
    exact (judges_ofFields judges_slot content).bind_pure _
  · exact ⟨s.name, _, s.slot, hinner, find?_section hs, fun _ =>
      (rejects_section hs hst hlimit hn hmem).bind _⟩

end AlarmEscalation.Config
