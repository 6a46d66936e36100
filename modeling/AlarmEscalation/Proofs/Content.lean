/-! # What documents say

`Content` is what a document says, apart from the format it is written in: a tree of values. A
structure that is filled from the entries of a mapping takes those it knows, each at most once, and
passes over the others; `Fills` describes that for all formats. -/
namespace AlarmEscalation

inductive Content where
  | null
  | bool (b : Bool)
  | integer (n : Int)
  /-- A number that is no integer. Which one it is is of no account. -/
  | fraction
  | text (s : String)
  | list (items : List Content)
  | mapping (entries : List (String × Content))

/-- The entries of a mapping, in their order. -/
abbrev Entries := List (String × Content)

namespace Content

/-- What holds of a list or a mapping if it holds of what is in it holds of all contents. -/
@[elab_as_elim]
theorem induction {motive : Content → Prop} (null : motive .null) (bool : ∀ b, motive (.bool b))
    (integer : ∀ n, motive (.integer n)) (fraction : motive .fraction)
    (text : ∀ s, motive (.text s)) (list : ∀ items, (∀ x ∈ items, motive x) → motive (.list items))
    (mapping : ∀ entries, (∀ e ∈ entries, motive e.2) → motive (.mapping entries)) :
    ∀ content, motive content
  | .null => null
  | .bool b => bool b
  | .integer n => integer n
  | .fraction => fraction
  | .text s => text s
  | .list items => list items fun x _ =>
    induction null bool integer fraction text list mapping x
  | .mapping entries => mapping entries fun e _ =>
    induction null bool integer fraction text list mapping e.2
termination_by content => sizeOf content
decreasing_by
  · have hx := List.sizeOf_lt_of_mem ‹x ∈ items›
    simp only [Content.list.sizeOf_spec]
    omega
  · have he := List.sizeOf_lt_of_mem ‹e ∈ entries›
    have hvalue : sizeOf e.2 < sizeOf e := by
      cases e
      simp only [Prod.mk.sizeOf_spec]
      omega
    simp only [Content.mapping.sizeOf_spec]
    omega

/-- The names of the entries. -/
def names (entries : List (String × Content)) : List String := entries.map Prod.fst

/-- One of the entries has the name, no other one has it, and this is its content. -/
def HasOnly (entries : List (String × Content)) (name : String) (value : Content) : Prop :=
  entries.filter (fun e => e.1 == name) = [(name, value)]

universe u

section Entries
variable {entries : List (String × Content)} {name n : String} {value v : Content}

@[simp] theorem mem_names_cons :
    name ∈ names ((n, v) :: entries) ↔ name = n ∨ name ∈ names entries :=
  List.mem_cons

theorem mem_names_of_mem (h : (name, value) ∈ entries) : name ∈ names entries :=
  List.mem_map_of_mem h

theorem filter_eq_nil_iff : entries.filter (fun e => e.1 == name) = [] ↔ name ∉ names entries := by
  simp only [List.filter_eq_nil_iff, beq_iff_eq, names, List.mem_map, not_exists, not_and]

theorem hasOnly_cons_of_ne (h : n ≠ name) :
    HasOnly ((n, v) :: entries) name value ↔ HasOnly entries name value := by
  rw [HasOnly, HasOnly, List.filter_cons_of_neg (by simpa using h)]

theorem hasOnly_cons_self :
    HasOnly ((name, v) :: entries) name value ↔ v = value ∧ name ∉ names entries := by
  rw [HasOnly, List.filter_cons_of_pos (by simp), List.cons.injEq, filter_eq_nil_iff]
  simp

theorem HasOnly.mem_names (h : HasOnly entries name value) : name ∈ names entries := by
  have hmem : (name, value) ∈ entries.filter (fun e => e.1 == name) := h ▸ List.mem_singleton_self _
  exact mem_names_of_mem (List.mem_filter.mp hmem).1

/-- Entries with different names: each name has the one entry. -/
theorem hasOnly_map {ι : Type u} {items : List ι} {key : ι → String} {content : ι → Content}
    (h : (items.map key).Nodup) {x : ι} (hx : x ∈ items) :
    HasOnly (items.map fun x => (key x, content x)) (key x) (content x) := by
  induction items with
  | nil => simp at hx
  | cons y items ih =>
    obtain ⟨hy, hitems⟩ := List.nodup_cons.mp h
    have hnames : names (items.map fun x => (key x, content x)) = items.map key := by
      simp [names, Function.comp_def]
    rcases List.mem_cons.mp hx with rfl | hx
    · exact hasOnly_cons_self.mpr ⟨rfl, hnames ▸ hy⟩
    · have hne : key y ≠ key x := fun heq => hy (heq ▸ List.mem_map_of_mem hx)
      exact (hasOnly_cons_of_ne hne).mpr (ih hitems hx)

end Entries

section Fills
variable {S : Type} (known : List String) (stores : String → Content → S → S → Prop)

/-- The entries make `s` into `t`, where `stores` says what becomes of a structure by an entry with
one of the known names. The names in `seen` were there before. -/
inductive Fills : List (String × Content) → List String → S → S → Prop
  | nil {seen : List String} {s : S} : Fills [] seen s s
  | passed {name : String} {value : Content} {entries : List (String × Content)}
      {seen : List String} {s t : S} : name ∉ known → Fills entries seen s t →
      Fills ((name, value) :: entries) seen s t
  | stored {name : String} {value : Content} {entries : List (String × Content)}
      {seen : List String} {s s' t : S} : name ∈ known → name ∉ seen → stores name value s s' →
      Fills entries (name :: seen) s' t → Fills ((name, value) :: entries) seen s t

variable {known stores}

theorem Fills.mono {stores' : String → Content → S → S → Prop}
    {entries : List (String × Content)} {seen : List String} {s t : S}
    (hfills : Fills known stores entries seen s t)
    (h : ∀ name ∈ known, ∀ value s t, stores name value s t → stores' name value s t) :
    Fills known stores' entries seen s t := by
  induction hfills with
  | nil => exact .nil
  | passed hunknown _ ih => exact .passed hunknown ih
  | stored hknown hnew hstores _ ih => exact .stored hknown hnew (h _ hknown _ _ _ hstores) ih

end Fills

end Content

end AlarmEscalation
