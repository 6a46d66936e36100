import AlarmEscalation.Config.Schema
import AlarmEscalation.Proofs.Field

/-! # What documents say about a configuration

The defaults are written down twice: in the configuration `{}`, which counts where a section is left
out, and setting by setting for sections that are given in part. They agree, and so a document that
gives some settings makes a configuration that has these values and the defaults in all other
places, however the settings are spread over it. -/
namespace AlarmEscalation.Config

open Content

/-- What a document says where it gives a setting a value. -/
def Kind.content : (kind : Kind) → kind.Value → Content
  | .port, v => .integer v.toNat
  | .seconds, v => .integer v.toNat
  | .count, v => .integer v.toNat
  | .text, v => .text v
  | .optionalText, none => .null
  | .optionalText, some v => .text v
  | .texts, v => .list (v.map .text)

/-- The largest value of a setting that is a number. -/
def Kind.limit? : Kind → Option Nat
  | .port => some 65535
  | .seconds => some 4294967295
  | .count => some 18446744073709551615
  | _ => none

/-- Of the settings of a section the entries give just those that are chosen, with their values in
`c`. Other entries do not matter. -/
def Section.Gives (s : Section) (c : Config) (chosen : String → Bool) (entries : Entries) :
    Prop :=
  ∀ st ∈ s.settings,
    if chosen st.name then HasOnly entries st.name (st.kind.content (st.get (s.get c)))
    else st.name ∉ names entries

/-- The entries give just the chosen settings, by the names of section and setting, with their
values in `c`. A section without any of them may be left out. Other entries do not matter. -/
def Gives (c : Config) (chosen : String → String → Bool) (entries : Entries) : Prop :=
  ∀ s ∈ sections,
    (∃ inner, HasOnly entries s.name (.mapping inner) ∧ s.Gives c (chosen s.name) inner) ∨
      s.name ∉ names entries ∧ ∀ st ∈ s.settings, chosen s.name st.name = false

/-- What a document says that gives all settings of a section. -/
def Section.content (s : Section) (c : Config) : AlarmEscalation.Content :=
  .mapping (s.settings.map fun st => (st.name, st.kind.content (st.get (s.get c))))

/-- The entries of a document that gives all settings. -/
def entries (c : Config) : Entries := sections.map fun s => (s.name, s.content c)

/-! ## Fields -/

def Setting.field {S : Type} (st : Setting S) : Field S :=
  ⟨st.name, st.kind.Value, st.get, st.set, fun content v => content = st.kind.content v⟩

def Section.fields (s : Section) : List (Field s.Content) := s.settings.map Setting.field

/-- The entries of a section make up its content. -/
def Section.Fills (s : Section) (entries : Entries) (x : s.Content) : Prop :=
  Field.Fill s.fields entries s.unset x

def Section.field (s : Section) : Field Config :=
  ⟨s.name, s.Content, s.get, s.set, fun content x =>
    ∃ entries, content = .mapping entries ∧ s.Fills entries x⟩

def fields : List (Field Config) := sections.map Section.field

/-- The entries of a document make up a configuration. -/
def Fills (entries : Entries) (c : Config) : Prop := Field.Fill fields entries {} c

theorem names_fields (s : Section) : s.fields.map Field.name = s.settings.map Setting.name := by
  simp [Section.fields, Function.comp_def, Setting.field]

theorem names_sections : fields.map Field.name = sections.map Section.name := by
  simp [fields, Function.comp_def, Section.field]

theorem lawful_fields {s : Section} (hs : s ∈ sections) : Field.Lawful s.fields := by
  simp only [sections, List.mem_cons, List.not_mem_nil, or_false] at hs
  rcases hs with rfl | rfl | rfl | rfl | rfl | rfl
  all_goals
    refine ⟨by decide, ?_, ?_⟩
    · repeat refine List.forall_mem_cons.mpr ⟨fun _ _ => rfl, ?_⟩
      exact List.forall_mem_nil _
    · repeat' refine List.forall_mem_cons.mpr ⟨?_, ?_⟩
      any_goals exact List.forall_mem_nil _
      all_goals first | exact fun h => absurd rfl h | exact fun _ _ _ => rfl

theorem lawful : Field.Lawful fields := by
  refine ⟨by decide, ?_, ?_⟩
  · repeat refine List.forall_mem_cons.mpr ⟨fun _ _ => rfl, ?_⟩
    exact List.forall_mem_nil _
  · repeat' refine List.forall_mem_cons.mpr ⟨?_, ?_⟩
    any_goals exact List.forall_mem_nil _
    all_goals first | exact fun h => absurd rfl h | exact fun _ _ _ => rfl

/-- The two tables of defaults agree. -/
theorem unset_eq {s : Section} (hs : s ∈ sections) : s.unset = s.get {} := by
  simp only [sections, List.mem_cons, List.not_mem_nil, or_false] at hs
  rcases hs with rfl | rfl | rfl | rfl | rfl | rfl <;> rfl

theorem exists_config {P : (s : Section) → s.Content → Prop} (h : ∀ s ∈ sections, ∃ x, P s x) :
    ∃ c : Config, ∀ s ∈ sections, P s (s.get c) := by
  simp only [sections, List.mem_cons, List.not_mem_nil, or_false, forall_eq_or_imp,
    forall_eq] at h ⊢
  obtain ⟨⟨n, hn⟩, ⟨b, hb⟩, ⟨e, he⟩, ⟨f, hf⟩, ⟨d, hd⟩, ⟨m, hm⟩⟩ := h
  exact ⟨⟨n, b, e, f, d, m⟩, hn, hb, he, hf, hd, hm⟩

/-- A configuration is known by its sections. -/
theorem ext_sections {c c' : Config} (h : ∀ s ∈ sections, s.get c = s.get c') : c = c' := by
  simp only [sections, List.mem_cons, List.not_mem_nil, or_false, forall_eq_or_imp, forall_eq] at h
  obtain ⟨hn, hb, he, hf, hd, hm⟩ := h
  obtain ⟨n, b, e, f, d, m⟩ := c
  obtain ⟨n', b', e', f', d', m'⟩ := c'
  cases hn; cases hb; cases he; cases hf; cases hd; cases hm
  rfl

/-- A section is known by its settings. -/
theorem ext_settings {s : Section} (hs : s ∈ sections) {x y : s.Content}
    (h : ∀ st ∈ s.settings, st.get x = st.get y) : x = y := by
  have hget (i : Nat) (hi : i < s.settings.length) := h s.settings[i] (List.getElem_mem hi)
  simp only [sections, List.mem_cons, List.not_mem_nil, or_false] at hs
  rcases hs with rfl | rfl | rfl | rfl | rfl | rfl
  · exact (Notifications.mk.injEq ..).mpr ⟨hget 0 (by decide), hget 1 (by decide),
      hget 2 (by decide), hget 3 (by decide)⟩
  · exact (Bus.mk.injEq ..).mpr ⟨hget 0 (by decide), hget 1 (by decide), hget 2 (by decide),
      hget 3 (by decide), hget 4 (by decide), hget 5 (by decide), hget 6 (by decide)⟩
  · exact (Email.mk.injEq ..).mpr ⟨hget 0 (by decide), hget 1 (by decide), hget 2 (by decide),
      hget 3 (by decide)⟩
  · exact (Flashlight.mk.injEq ..).mpr (hget 0 (by decide))
  · exact (Desktop.mk.injEq ..).mpr ⟨hget 0 (by decide), hget 1 (by decide)⟩
  · exact (Daemon.mk.injEq ..).mpr (hget 0 (by decide))

/-! ## Sections and documents -/

section Documents
variable {c : Config} {entries : Entries}

theorem Section.Gives.exists_fills {s : Section} (hs : s ∈ sections) {chosen : String → Bool}
    (h : s.Gives c chosen entries) : ∃ x, s.Fills entries x ∧
      ∀ st ∈ s.settings,
        st.get x = if chosen st.name then st.get (s.get c) else st.get (s.get {}) := by
  have hagrees : ∀ f ∈ s.fields, f.Agrees entries (f.get (s.get c)) := by
    intro f hf
    obtain ⟨st, hst, rfl⟩ := List.mem_map.mp hf
    have hgiven := h st hst
    split at hgiven
    · exact .inr ⟨_, hgiven, rfl⟩
    · exact .inl hgiven
  obtain ⟨x, hfills, hget⟩ := (lawful_fields hs).exists_fills (fun f => f.get (s.get c)) [] s.unset
    hagrees (by simp)
  refine ⟨x, hfills, fun st hst => ?_⟩
  have hvalue : st.get x = if st.name ∈ names entries then st.get (s.get c) else st.get s.unset :=
    hget st.field (List.mem_map_of_mem hst)
  have hgiven := h st hst
  rw [unset_eq hs] at hvalue
  split at hgiven
  · next hchosen =>
    rw [if_pos hchosen]
    rwa [if_pos hgiven.mem_names] at hvalue
  · next hchosen =>
    rw [if_neg hchosen]
    rwa [if_neg hgiven] at hvalue

/-- A document that gives some settings makes up a configuration: the chosen settings are those of
`c`, and all others have their defaults. -/
theorem Gives.exists_fills {chosen : String → String → Bool} (h : Gives c chosen entries) :
    ∃ c', Fills entries c' ∧ ∀ s ∈ sections, ∀ st ∈ s.settings, st.get (s.get c') =
      if chosen s.name st.name then st.get (s.get c) else st.get (s.get {}) := by
  have hsections : ∀ s ∈ sections, ∃ x : s.Content, s.field.Agrees entries x ∧
      (s.name ∉ names entries → x = s.get {}) ∧ ∀ st ∈ s.settings, st.get x =
        if chosen s.name st.name then st.get (s.get c) else st.get (s.get {}) := by
    intro s hs
    rcases h s hs with ⟨inner, honly, hgives⟩ | ⟨hnot, hnone⟩
    · obtain ⟨x, hfills, hget⟩ := hgives.exists_fills hs
      exact ⟨x, .inr ⟨_, honly, inner, rfl, hfills⟩, fun hnot => absurd honly.mem_names hnot, hget⟩
    · exact ⟨s.get {}, .inl hnot, fun _ => rfl, fun st hst => by simp [hnone st hst]⟩
  obtain ⟨c', hc'⟩ := exists_config hsections
  refine ⟨c', ?_, fun s hs => (hc' s hs).2.2⟩
  have hagrees : ∀ f ∈ fields, f.Agrees entries (f.get c') := by
    intro f hf
    obtain ⟨s, hs, rfl⟩ := List.mem_map.mp hf
    exact (hc' s hs).1
  obtain ⟨t, hfills, hget⟩ := lawful.exists_fills (fun f => f.get c') [] {} hagrees (by simp)
  have ht : t = c' := by
    refine ext_sections fun s hs => ?_
    have hvalue := hget s.field (List.mem_map_of_mem hs)
    split at hvalue
    · exact hvalue
    · next hnot => exact hvalue.trans ((hc' s hs).2.1 hnot).symm
  exact ht ▸ hfills

theorem nodup_settings {s : Section} (hs : s ∈ sections) :
    (s.settings.map Setting.name).Nodup :=
  names_fields s ▸ (lawful_fields hs).nodup

theorem nodup_sections : (sections.map Section.name).Nodup := by decide

theorem gives_entries (c : Config) : Gives c (fun _ _ => true) c.entries := by
  intro s hs
  refine .inl ⟨_, hasOnly_map nodup_sections hs, fun st hst => ?_⟩
  exact hasOnly_map (nodup_settings hs) hst

end Documents

end AlarmEscalation.Config
