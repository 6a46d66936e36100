import AlarmEscalation.Proofs.Config.Json
import AlarmEscalation.Proofs.Config.Yaml

/-! # Configurations and their documents

A document gives some of the settings, in either format, and the rest is filled up from one set of
defaults. That a section is left out, empty or given in part makes no difference to the settings
that it does not give. -/
namespace AlarmEscalation.Config

/-- The chosen settings of `c'` are those of `c`, and the others have their defaults. -/
def Completes (c : Config) (chosen : String → String → Bool) (c' : Config) : Prop :=
  ∀ s ∈ sections, ∀ st ∈ s.settings, st.get (s.get c') =
    if chosen s.name st.name then st.get (s.get c) else st.get (s.get {})

/-- Documents of both formats with these entries are read as `c`. -/
def Decode (entries : Entries) (c : Config) : Prop :=
  (∀ text, Json.WrittenDocument (.mapping entries) text → ofJson (String.ofList text) = .ok c) ∧
    Yaml.Decodes decoder (.mapping entries) c

/-- No document of either format with these entries is read. -/
def Refused (entries : Entries) : Prop :=
  (∀ text, Json.WrittenDocument (.mapping entries) text →
      ∃ e, ofJson (String.ofList text) = .error e) ∧
    Yaml.Rejects decoder (.mapping entries)

theorem decode_of_fills {entries : Entries} {c : Config} (h : Fills entries c) : Decode entries c :=
  ⟨fun _ hwritten => ofJson_of_fills h hwritten, decodes_config h⟩

/-- A configuration is known by its settings. -/
theorem Completes.unique {c c' : Config} (h : Completes c (fun _ _ => true) c') : c' = c :=
  ext_sections fun s hs => ext_settings hs fun st hst => h s hs st hst

theorem decode_entries (c : Config) : Decode c.entries c := by
  obtain ⟨c', hfills, hget⟩ := (gives_entries c).exists_fills
  obtain rfl : c' = c := Completes.unique hget
  exact decode_of_fills hfills

/-- A document that gives some settings their values in `c` is read as these values and the defaults
for all other settings; one that gives all of them, such as the written one, is read as `c`; and one
that gives a setting a number outside its range is not read at all. The keys of a document in YAML,
those that nobody knows among them, are scalars. -/
theorem decode_documents :
    (∀ c chosen entries, Gives c chosen entries → ∃ c', Completes c chosen c' ∧ Decode entries c') ∧
      (∀ c : Config, Decode c.entries c ∧
        Json.WrittenDocument (.mapping c.entries) c.toJson.toList ∧ ofJson c.toJson = .ok c) ∧
      ∀ s ∈ sections, ∀ st ∈ s.settings, ∀ limit, st.kind.limit? = some limit →
        ∀ n : Int, ¬ (0 ≤ n ∧ n ≤ limit) → ∀ entries inner : Entries,
          (s.name, .mapping inner) ∈ entries → (st.name, .integer n) ∈ inner → Refused entries := by
  refine ⟨fun c chosen entries h => ?_, fun c => ?_, ?_⟩
  · obtain ⟨c', hfills, hget⟩ := h.exists_fills
    exact ⟨c', hget, decode_of_fills hfills⟩
  · have hdecode := decode_entries c
    have hread := hdecode.1 _ (written_toJson c)
    rw [String.ofList_toList] at hread
    exact ⟨hdecode, written_toJson c, hread⟩
  · intro s hs st hst limit hlimit n hn entries inner hinner hmem
    exact ⟨fun _ hwritten => ofJson_of_too_large hs hst hlimit hn hinner hmem hwritten,
      rejects_config hs hst hlimit hn hinner hmem⟩

/-- A document with one setting, among entries that nobody knows. -/
theorem decode_documents_port : ∃ c : Config,
    Decode [("theme", .text "dark"), ("email", .mapping []),
      ("bus", .mapping [("tls", .bool true), ("broker_port", .integer 8883)])] c ∧
    c.bus.port = 8883 ∧ c.bus.host = "localhost" ∧
    Refused [("bus", .mapping [("broker_port", .integer 65536)])] := by
  have hgives : Gives { bus := { port := 8883 } }
      (fun s st => s == "bus" && st == "broker_port")
      [("theme", .text "dark"), ("email", .mapping []),
        ("bus", .mapping [("tls", .bool true), ("broker_port", .integer 8883)])] := by
    intro s hs
    simp only [sections, List.mem_cons, List.not_mem_nil, or_false] at hs
    rcases hs with rfl | rfl | rfl | rfl | rfl | rfl
    · exact .inr ⟨by decide, fun _ _ => rfl⟩
    · refine .inl ⟨_, rfl, ?_⟩
      repeat' refine List.forall_mem_cons.mpr ⟨?_, ?_⟩
      any_goals exact List.forall_mem_nil _
      all_goals first | rfl | (show _ ∉ Content.names _; decide)
    · exact .inl ⟨[], rfl, fun _ _ => List.not_mem_nil⟩
    · exact .inr ⟨by decide, fun _ _ => rfl⟩
    · exact .inr ⟨by decide, fun _ _ => rfl⟩
    · exact .inr ⟨by decide, fun _ _ => rfl⟩
  obtain ⟨c, hcompletes, hdecode⟩ := decode_documents.1 _ _ _ hgives
  have hbus : busSection ∈ sections := .tail _ (.head _)
  refine ⟨c, hdecode, ?_, ?_, ?_⟩
  · exact hcompletes busSection hbus _ (.tail _ (.head _))
  · exact hcompletes busSection hbus _ (.head _)
  · exact decode_documents.2.2 busSection hbus _ (.tail _ (.head _)) 65535 rfl 65536 (by decide)
      _ _ (.head _) (.head _)

end AlarmEscalation.Config
