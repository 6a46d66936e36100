import AlarmEscalation.Config.Yaml
import AlarmEscalation.Proofs.Config.Shape
import AlarmEscalation.Proofs.Yaml.Contents

/-! # Configurations in YAML documents

The decoder finds the configuration that the entries make up in every node that shows them, and
rejects the node if a number is too large for its setting. Whether the configuration is usable is
looked at afterwards. -/
namespace AlarmEscalation.Config

open Yaml

/-! ## Settings -/

section Settings
variable {kind : Kind}

theorem decodes_decoder (v : kind.Value) : Decodes kind.decoder (kind.content v) v := by
  cases kind with
  | port =>
    have hread : Decodes (Decoder.natural 65535 "u16") (.integer v.toNat) v.toNat :=
      decodes_natural (Nat.le_of_lt_succ v.toNat_lt)
    have hvalue := hread.map Nat.toUInt16
    rwa [show v.toNat.toUInt16 = v from UInt16.ofNat_toNat] at hvalue
  | seconds =>
    have hread : Decodes (Decoder.natural 4294967295 "u32") (.integer v.toNat) v.toNat :=
      decodes_natural (Nat.le_of_lt_succ v.toNat_lt)
    have hvalue := hread.map Nat.toUInt32
    rwa [show v.toNat.toUInt32 = v from UInt32.ofNat_toNat] at hvalue
  | count =>
    have hread : Decodes (Decoder.natural 18446744073709551615 "u64") (.integer v.toNat) v.toNat :=
      decodes_natural (Nat.le_of_lt_succ v.toNat_lt)
    have hvalue := hread.map Nat.toUInt64
    rwa [show v.toNat.toUInt64 = v from UInt64.ofNat_toNat] at hvalue
  | text => exact decodes_text v
  | optionalText =>
    cases v with
    | none => exact decodes_optional_null _
    | some v => exact decodes_optional_text v
  | texts => exact decodes_list fun v _ => decodes_text v

/-- A number that does not fit is rejected, not cut to size. -/
theorem rejects_decoder {limit : Nat} (hlimit : kind.limit? = some limit) {n : Int}
    (h : ¬ (0 ≤ n ∧ n ≤ limit)) : Rejects kind.decoder (.integer n) := by
  cases kind with
  | port =>
    cases hlimit
    exact (rejects_natural h).map _
  | seconds =>
    cases hlimit
    exact (rejects_natural h).map _
  | count =>
    cases hlimit
    exact (rejects_natural h).map _
  | text | optionalText | texts => cases hlimit

end Settings

/-! ## Sections -/

section Sections
variable {s : Section} (hs : s ∈ sections) {inner : Entries}
include hs

theorem find?_entry {st : Setting s.Content} (hst : st ∈ s.settings) :
    (s.settings.map Setting.entry).find? (fun slot => slot.name == st.name) = some st.entry :=
  Field.find?_map_of_nodup Setting.entry Slot.name (fun _ => rfl) (nodup_settings hs) hst

theorem decodes_section {x : s.Content} (h : s.Fills inner x) :
    Decodes (ofFields s.title (s.settings.map Setting.entry) s.unset) (.mapping inner) x := by
  have hfills : Content.Fills (s.fields.map Field.name) (Stores (s.settings.map Setting.entry))
      inner [] s.unset x := by
    refine h.mono fun name _ value y z hstores => ?_
    obtain ⟨f, hf, rfl, v, hmeans, rfl⟩ := hstores
    obtain ⟨st, hst, rfl⟩ := List.mem_map.mp hf
    obtain rfl : value = st.kind.content v := hmeans
    exact ⟨st.entry, find?_entry hs hst, (decodes_decoder v).map (st.set y)⟩
  have hnames : s.fields.map Field.name = (s.settings.map Setting.entry).map Slot.name := by
    simp [names_fields, Function.comp_def, Setting.entry]
  rw [hnames] at hfills
  exact decodes_ofFields hfills

theorem rejects_sectionNode {st : Setting s.Content} (hst : st ∈ s.settings) {limit : Nat}
    (hlimit : st.kind.limit? = some limit) {n : Int} (hn : ¬ (0 ≤ n ∧ n ≤ limit))
    (hmem : (st.name, .integer n) ∈ inner) :
    Rejects (ofFields s.title (s.settings.map Setting.entry) s.unset) (.mapping inner) :=
  rejects_ofFields hmem (find?_entry hs hst) fun _ => (rejects_decoder hlimit hn).map _

end Sections

/-! ## Documents -/

theorem find?_sectionEntry {s : Section} (hs : s ∈ sections) :
    (sections.map Section.entry).find? (fun slot => slot.name == s.name) = some s.entry :=
  Field.find?_map_of_nodup Section.entry Slot.name (fun _ => rfl) nodup_sections hs

theorem decodes_config {entries : Entries} {c : Config} (h : Fills entries c) :
    Decodes decoder (.mapping entries) c := by
  have hfills : Content.Fills (fields.map Field.name) (Stores (sections.map Section.entry)) entries
      [] {} c := by
    refine h.mono fun name _ value c c' hstores => ?_
    obtain ⟨f, hf, rfl, x, hmeans, rfl⟩ := hstores
    obtain ⟨s, hs, rfl⟩ := List.mem_map.mp hf
    obtain ⟨inner, rfl, hinner⟩ := hmeans
    exact ⟨s.entry, find?_sectionEntry hs, (decodes_section hs hinner).map (s.set c)⟩
  have hnames : fields.map Field.name = (sections.map Section.entry).map Slot.name := by
    simp [names_sections, Function.comp_def, Section.entry]
  rw [hnames] at hfills
  exact decodes_ofFields hfills

theorem rejects_config {s : Section} (hs : s ∈ sections) {st : Setting s.Content}
    (hst : st ∈ s.settings) {limit : Nat} (hlimit : st.kind.limit? = some limit) {n : Int}
    (hn : ¬ (0 ≤ n ∧ n ≤ limit)) {entries inner : Entries}
    (hinner : (s.name, .mapping inner) ∈ entries) (hmem : (st.name, .integer n) ∈ inner) :
    Rejects decoder (.mapping entries) :=
  rejects_ofFields hinner (find?_sectionEntry hs) fun _ =>
    (rejects_sectionNode hs hst hlimit hn hmem).map _

end AlarmEscalation.Config
