import Mathlib.Data.List.Nodup
import AlarmEscalation.Proofs.Content

/-! # Structures and their fields

A field says where in a structure a value stands and what contents mean for it. Where the fields do
not get in each other's way, the entries of a mapping can be stored in any order: each field ends up
with what its entry means, or stays as it was. -/
namespace AlarmEscalation

/-- A part of a structure that an entry can give: the name of the entry, and what its content means
for the part. -/
structure Field (S : Type) where
  name : String
  Value : Type
  get : S → Value
  set : S → Value → S
  means : Content → Value → Prop

namespace Field

open Content

universe u v

variable {S : Type} {fields : List (Field S)}

/-- The entry with the name of a field sets the field to what its content means. -/
def Stores (fields : List (Field S)) (name : String) (value : Content) (s t : S) : Prop :=
  ∃ f ∈ fields, f.name = name ∧ ∃ v, f.means value v ∧ t = f.set s v

/-- The entries make `s` into `t`. -/
def Fill (fields : List (Field S)) (entries : Entries) (s t : S) : Prop :=
  Fills (fields.map Field.name) (Stores fields) entries [] s t

/-- The fields are told apart by their names, and setting one of them leaves the others alone. -/
structure Lawful (fields : List (Field S)) : Prop where
  nodup : (fields.map Field.name).Nodup
  get_set : ∀ f ∈ fields, ∀ s v, f.get (f.set s v) = v
  get_set_of_ne : ∀ f ∈ fields, ∀ g ∈ fields, g.name ≠ f.name → ∀ s v, g.get (f.set s v) = g.get s

theorem Lawful.eq_of_name_eq (h : Lawful fields) {f g : Field S} (hf : f ∈ fields) (hg : g ∈ fields)
    (hname : f.name = g.name) : f = g :=
  List.inj_on_of_nodup_map h.nodup hf hg hname

/-- What the entries give for the field, if they give anything. -/
def Agrees (entries : List (String × Content)) (f : Field S) (v : f.Value) : Prop :=
  f.name ∉ names entries ∨ ∃ value, HasOnly entries f.name value ∧ f.means value v

theorem Agrees.tail {name : String} {value : Content} {entries : List (String × Content)}
    {f : Field S} {v : f.Value} (h : Agrees ((name, value) :: entries) f v) :
    Agrees entries f v := by
  by_cases hname : name = f.name
  · subst hname
    rcases h with hnot | ⟨_, honly, _⟩
    · exact absurd (.inl rfl) (mem_names_cons.not.mp hnot)
    · exact .inl (hasOnly_cons_self.mp honly).2
  · rcases h with hnot | ⟨value', honly, hmeans⟩
    · exact .inl fun hmem => hnot (mem_names_cons.mpr (.inr hmem))
    · exact .inr ⟨value', (hasOnly_cons_of_ne hname).mp honly, hmeans⟩

theorem Agrees.head {value : Content} {entries : List (String × Content)} {f : Field S}
    {v : f.Value} (h : Agrees ((f.name, value) :: entries) f v) :
    f.means value v ∧ f.name ∉ names entries := by
  rcases h with hnot | ⟨_, honly, hmeans⟩
  · exact absurd (.inl rfl) (mem_names_cons.not.mp hnot)
  · obtain ⟨rfl, hnot⟩ := hasOnly_cons_self.mp honly
    exact ⟨hmeans, hnot⟩

/-- Every field gets what its entry means, and the others stay as they were. -/
theorem Lawful.exists_fills (h : Lawful fields) (target : (f : Field S) → f.Value)
    {entries : List (String × Content)} (seen : List String) (s : S)
    (hagrees : ∀ f ∈ fields, Agrees entries f (target f))
    (hseen : ∀ f ∈ fields, f.name ∈ names entries → f.name ∉ seen) :
    ∃ t, Fills (fields.map Field.name) (Stores fields) entries seen s t ∧
      ∀ f ∈ fields, f.get t = if f.name ∈ names entries then target f else f.get s := by
  induction entries generalizing seen s with
  | nil => exact ⟨s, .nil, fun f _ => by simp [names]⟩
  | cons entry entries ih =>
    obtain ⟨name, value⟩ := entry
    have htail : ∀ f ∈ fields, Agrees entries f (target f) := fun f hf => (hagrees f hf).tail
    by_cases hknown : name ∈ fields.map Field.name
    · obtain ⟨f, hf, rfl⟩ := List.mem_map.mp hknown
      obtain ⟨hmeans, hnot⟩ := (hagrees f hf).head
      have hnew : ∀ g ∈ fields, g.name ∈ names entries → g.name ∉ f.name :: seen := by
        intro g hg hmem hg'
        rcases List.mem_cons.mp hg' with heq | hg'
        · exact hnot (heq ▸ hmem)
        · exact hseen g hg (mem_names_cons.mpr (.inr hmem)) hg'
      obtain ⟨t, hfills, hget⟩ := ih (f.name :: seen) (f.set s (target f)) htail hnew
      refine ⟨t, .stored hknown (hseen f hf (mem_names_cons.mpr (.inl rfl)))
        ⟨f, hf, rfl, target f, hmeans, rfl⟩ hfills, fun g hg => ?_⟩
      rw [hget g hg]
      by_cases hname : g.name = f.name
      · obtain rfl := h.eq_of_name_eq hg hf hname
        rw [if_neg hnot, if_pos (mem_names_cons.mpr (.inl rfl)), h.get_set g hg]
      · simp only [mem_names_cons, hname, false_or, h.get_set_of_ne f hf g hg hname]
    · have hne : ∀ f ∈ fields, f.name ≠ name := fun f hf heq =>
        hknown (heq ▸ List.mem_map_of_mem hf)
      obtain ⟨t, hfills, hget⟩ := ih seen s htail fun f hf hmem =>
        hseen f hf (List.mem_cons_of_mem _ hmem)
      refine ⟨t, .passed hknown hfills, fun f hf => ?_⟩
      rw [hget f hf]
      simp only [mem_names_cons, hne f hf, false_or]

/-- What is looked for by its name among things with different names is found. -/
theorem find?_map_of_nodup {ι : Type u} {σ : Type v} {items : List ι} {key : ι → String} (f : ι → σ)
    (name : σ → String) (hname : ∀ x, name (f x) = key x) (h : (items.map key).Nodup) {x : ι}
    (hx : x ∈ items) : (items.map f).find? (fun slot => name slot == key x) = some (f x) := by
  induction items with
  | nil => simp at hx
  | cons y items ih =>
    obtain ⟨hy, hitems⟩ := List.nodup_cons.mp h
    rcases List.mem_cons.mp hx with rfl | hx
    · simp [hname]
    · have hne : key y ≠ key x := fun heq => hy (heq ▸ List.mem_map_of_mem hx)
      simpa [hname, hne] using ih hitems hx

end Field

end AlarmEscalation
