import AlarmEscalation.Proofs.Content
import AlarmEscalation.Yaml.Decode

/-! # What nodes show

A document in YAML says something with its nodes. What a plain scalar shows is what it stands for,
other scalars show their text, and an alias shows what its target shows. `Shows` is the relation of
contents and nodes; the decoders of all types find in a node what it shows. -/
namespace AlarmEscalation.Yaml

/-- The scalar shows the integer. One without a minus is that of a natural number. -/
def ShowsInteger (n : Int) (text : String) : Prop :=
  if 0 ≤ n then natural? text.toList = some n.toNat else integer? text.toList = some n

/-- The scalar shows the text: it is tagged as a text, or without a tag it is quoted or stands for
nothing else. -/
def ShowsText (text : String) (tag : Option String) (style : ScalarStyle) : Prop :=
  tag = some (coreTag "str") ∨ tag = none ∧ (style = .plain → resolve text = .text text)

section Shows
variable (d : Document)

mutual

/-- The node shows the content. -/
def Shows : Content → Node → Prop
  | .null, node => ∃ mark text, d.follow node = .scalar mark none text .plain ∧
      (text = "" ∨ isNull text = true)
  | .bool b, node => ∃ mark text, d.follow node = .scalar mark none text .plain ∧
      boolean? text = some b
  | .integer n, node => ∃ mark text, d.follow node = .scalar mark none text .plain ∧
      ShowsInteger n text
  | .fraction, node => ∃ mark text x, d.follow node = .scalar mark none text .plain ∧
      resolve text = .float x
  | .text s, node => ∃ mark tag style, d.follow node = .scalar mark tag s style ∧
      ShowsText s tag style
  | .list items, node => ∃ mark nodes, d.follow node = .sequence mark nodes ∧ ShowItems items nodes
  | .mapping entries, node => ∃ mark nodes, d.follow node = .mapping mark nodes ∧
      ShowEntries entries nodes

/-- The nodes show the contents, one by one. -/
def ShowItems : List Content → List Node → Prop
  | [], nodes => nodes = []
  | item :: items, nodes =>
    ∃ node more, nodes = node :: more ∧ Shows item node ∧ ShowItems items more

/-- The nodes show the entries, one by one. A key is a scalar with the name as its text. -/
def ShowEntries : Entries → List (Node × Node) → Prop
  | [], nodes => nodes = []
  | (name, value) :: entries, nodes => ∃ key node more mark tag style, nodes = (key, node) :: more ∧
      d.follow key = .scalar mark tag name style ∧ Shows value node ∧ ShowEntries entries more

end

end Shows

section Meanings
variable {α β : Type}

/-- The decoder finds `a` in every node that shows the content. -/
def Decodes (r : Decoder α) (content : Content) (a : α) : Prop :=
  ∀ d path node, Shows d content node → r d path node = .ok a

/-- The decoder reports an error in every node that shows the content. -/
def Rejects (r : Decoder α) (content : Content) : Prop :=
  ∀ d path node, Shows d content node → ∃ e, r d path node = .error e

theorem Decodes.map {r : Decoder α} {content : Content} {a : α} (h : Decodes r content a)
    (f : α → β) : Decodes (fun d path node => (r d path node).map f) content (f a) := by
  intro d path node hshows
  simp only [h d path node hshows, Except.map]

theorem Rejects.map {r : Decoder α} {content : Content} (h : Rejects r content) (f : α → β) :
    Rejects (fun d path node => (r d path node).map f) content := by
  intro d path node hshows
  obtain ⟨e, he⟩ := h d path node hshows
  exact ⟨e, by simp only [he, Except.map]⟩

end Meanings

/-! ## Scalars -/

theorem decodes_text (s : String) : Decodes Decoder.text (.text s) s := by
  intro d path node h
  simp only [Shows] at h
  obtain ⟨mark, tag, style, hnode, -⟩ := h
  simp only [Decoder.text, Decoder.textAs, hnode]

theorem refuse_eq_error {α : Type} (expected : String) (d : Document) (path : Path) (node : Node) :
    ∃ e, Decoder.refuse (α := α) expected d path node = .error e := by
  cases node <;> exact ⟨_, rfl⟩

section Natural
variable {limit : Nat} {expected : String}

theorem decodes_natural {n : Nat} (h : n ≤ limit) :
    Decodes (Decoder.natural limit expected) (.integer n) n := by
  intro d path node hshows
  simp only [Shows, ShowsInteger] at hshows
  obtain ⟨mark, text, hnode, hvalue⟩ := hshows
  rw [if_pos (Int.natCast_nonneg n), Int.toNat_natCast] at hvalue
  simp [Decoder.natural, hnode, Decoder.mayBeInteger, hvalue, h]

/-- What begins with a minus is no natural number. -/
theorem natural?_of_negative {n : Int} (h : n < 0) {text : List Char}
    (hvalue : integer? text = some n) : natural? text = none := by
  unfold integer? at hvalue
  split at hvalue
  · rename_i rest
    cases rest <;> rfl
  · obtain ⟨m, -, hm⟩ := Option.map_eq_some_iff.mp hvalue
    have hnonneg := Int.natCast_nonneg m
    rw [Int.ofNat_eq_natCast] at hm
    omega

theorem rejects_natural {n : Int} (h : ¬ (0 ≤ n ∧ n ≤ limit)) :
    Rejects (Decoder.natural limit expected) (.integer n) := by
  intro d path node hshows
  simp only [Shows, ShowsInteger] at hshows
  obtain ⟨mark, text, hnode, hvalue⟩ := hshows
  by_cases hnegative : n < 0
  · rw [if_neg (by omega)] at hvalue
    simp only [Decoder.natural, hnode, natural?_of_negative hnegative hvalue, ite_self]
    exact refuse_eq_error expected d path _
  · rw [if_pos (by omega)] at hvalue
    have hlarge : ¬ n.toNat ≤ limit := by omega
    simp only [Decoder.natural, hnode, Decoder.mayBeInteger, decide_true, Bool.true_or, if_true,
      hvalue, hlarge, if_false]
    split
    · exact ⟨_, rfl⟩
    · exact refuse_eq_error expected d path _

end Natural

/-! ## Values that may be null, and lists -/

theorem decodes_optional_null {α : Type} (r : Decoder α) :
    Decodes (Decoder.optional r) .null none := by
  intro d path node h
  simp only [Shows] at h
  obtain ⟨mark, text, hnode, hnull⟩ := h
  simp only [Decoder.optional, hnode, if_pos hnull]

/-- What stands for nothing shows no text. -/
theorem not_isNull_of_resolve {text : String} (h : resolve text = .text text) :
    ¬ (text = "" ∨ isNull text = true) := by
  intro hnull
  rw [resolve, if_pos hnull] at h
  cases h

theorem decodes_optional_text (s : String) :
    Decodes (Decoder.optional Decoder.text) (.text s) (some s) := by
  intro d path node h
  simp only [Shows] at h
  obtain ⟨mark, tag, style, hnode, htext⟩ := h
  have hpresent : (Decoder.text d path (.scalar mark tag s style)).map some = .ok (some s) := rfl
  simp only [Decoder.optional, hnode]
  rcases htext with rfl | ⟨rfl, hplain⟩
  · have hnull : coreTag "str" ≠ coreTag "null" := by decide
    split
    · rename_i heq
      cases heq
    · rename_i heq
      cases heq
      rw [if_pos hnull]
      exact hpresent
    · exact hpresent
  · split
    · rename_i heq
      cases heq
      rw [if_neg (not_isNull_of_resolve (hplain rfl))]
      exact hpresent
    · rename_i heq
      cases heq
    · exact hpresent

theorem decodes_list {α : Type} {r : Decoder α} {content : α → Content} {values : List α}
    (h : ∀ a ∈ values, Decodes r (content a) a) :
    Decodes (Decoder.list r) (.list (values.map content)) values := by
  intro d path node hshows
  simp only [Shows] at hshows
  obtain ⟨mark, nodes, hnode, hitems⟩ := hshows
  have hread (index : Nat) : Decoder.items r d path index nodes = .ok values := by
    clear hnode
    induction values generalizing index nodes with
    | nil =>
      simp only [List.map_nil, ShowItems] at hitems
      subst hitems
      rfl
    | cons a values ih =>
      simp only [List.map_cons, ShowItems] at hitems
      obtain ⟨item, more, rfl, hitem, hmore⟩ := hitems
      have hrest := ih (fun b hb => h b (by simp [hb])) more hmore (index + 1)
      simp only [Decoder.items, h a (by simp) d _ item hitem, hrest]
      rfl
  simp only [Decoder.list, hnode, hread]
  rfl

/-! ## Structures -/

theorem isWhole_of_follow {d : Document} {node : Node} (h : (d.follow node).isWhole = true) :
    node.isWhole = true := by
  cases node <;> first | rfl | exact h

/-- The nodes that show the content are nowhere cut off. -/
def Whole (d : Document) (content : Content) : Prop :=
  ∀ node, Shows d content node → node.isWhole = true

theorem areWhole_of_showItems {d : Document} {items : List Content} {nodes : List Node}
    (h : ∀ x ∈ items, Whole d x) (hitems : ShowItems d items nodes) :
    Node.areWhole nodes = true := by
  induction items generalizing nodes with
  | nil =>
    simp only [ShowItems] at hitems
    subst hitems
    rfl
  | cons item items ih =>
    simp only [ShowItems] at hitems
    obtain ⟨node, more, rfl, hitem, hmore⟩ := hitems
    have hhead := h item (by simp) node hitem
    have htail := ih (fun x hx => h x (by simp [hx])) hmore
    simp only [Node.areWhole, hhead, htail, Bool.and_self]

theorem entriesWhole_of_showEntries {d : Document} {entries : Entries} {nodes : List (Node × Node)}
    (h : ∀ e ∈ entries, Whole d e.2) (hentries : ShowEntries d entries nodes) :
    Node.entriesWhole nodes = true := by
  induction entries generalizing nodes with
  | nil =>
    simp only [ShowEntries] at hentries
    subst hentries
    rfl
  | cons entry entries ih =>
    obtain ⟨name, value⟩ := entry
    simp only [ShowEntries] at hentries
    obtain ⟨key, node, more, _, _, _, rfl, hkey, hvalue, hmore⟩ := hentries
    have hname : key.isWhole = true := isWhole_of_follow (by rw [hkey, Node.isWhole])
    have hhead := h (name, value) (by simp) node hvalue
    have htail := ih (fun e he => h e (by simp [he])) hmore
    simp only [Node.entriesWhole, hname, hhead, htail, Bool.and_self]

theorem whole (d : Document) (content : Content) : Whole d content := by
  induction content using Content.induction with
  | list items ih =>
    intro node h
    simp only [Shows] at h
    obtain ⟨mark, nodes, hnode, hitems⟩ := h
    exact isWhole_of_follow (by rw [hnode, Node.isWhole, areWhole_of_showItems ih hitems])
  | mapping entries ih =>
    intro node h
    simp only [Shows] at h
    obtain ⟨mark, nodes, hnode, hentries⟩ := h
    exact isWhole_of_follow (by rw [hnode, Node.isWhole, entriesWhole_of_showEntries ih hentries])
  | fraction =>
    intro node h
    simp only [Shows] at h
    obtain ⟨mark, text, x, hnode, -⟩ := h
    exact isWhole_of_follow (by rw [hnode, Node.isWhole])
  | text s =>
    intro node h
    simp only [Shows] at h
    obtain ⟨mark, tag, style, hnode, -⟩ := h
    exact isWhole_of_follow (by rw [hnode, Node.isWhole])
  | null | bool | integer =>
    intro node h
    simp only [Shows] at h
    obtain ⟨mark, text, hnode, -⟩ := h
    exact isWhole_of_follow (by rw [hnode, Node.isWhole])

section Structures
variable {S : Type} {title : String} {slots : List (Slot S)} {s s' : S}

/-- What becomes of a structure by an entry with one of the names of the slots. -/
def Stores (slots : List (Slot S)) (name : String) (value : Content) (s t : S) : Prop :=
  ∃ slot, slots.find? (fun slot => slot.name == name) = some slot ∧ Decodes (slot.store s) value t

theorem textAs_of_follow {d : Document} {key : Node} {mark : Mark} {tag : Option String}
    {name : String} {style : ScalarStyle} (h : d.follow key = .scalar mark tag name style)
    (expected : String) (path : Path) : Decoder.textAs expected d path key = .ok name := by
  simp only [Decoder.textAs, h]

theorem ofEntries_of_fills {entries : Entries} {seen : List String}
    (h : Content.Fills (slots.map Slot.name) (Stores slots) entries seen s s') {d : Document}
    (path : Path) {nodes : List (Node × Node)} (hshows : ShowEntries d entries nodes) :
    Slot.ofEntries slots d path seen s nodes = .ok s' := by
  induction h generalizing nodes with
  | nil =>
    simp only [ShowEntries] at hshows
    subst hshows
    rfl
  | @passed name value entries seen s s' hunknown _ ih =>
    simp only [ShowEntries] at hshows
    obtain ⟨key, node, more, mark, tag, style, rfl, hkey, hvalue, hmore⟩ := hshows
    have hnone : slots.find? (fun slot => slot.name == name) = none := by
      simpa [List.find?_eq_none] using hunknown
    simp only [Slot.ofEntries, textAs_of_follow hkey, bind, Except.bind, hnone,
      whole d _ node hvalue, if_true]
    exact ih hmore
  | @stored name value entries seen s s₁ s' _ hnew hstores _ ih =>
    simp only [ShowEntries] at hshows
    obtain ⟨key, node, more, mark, tag, style, rfl, hkey, hvalue, hmore⟩ := hshows
    obtain ⟨slot, hslot, hdecodes⟩ := hstores
    have hstored := hdecodes d (Slot.stepTo key :: path) node hvalue
    simp only [Slot.ofEntries, textAs_of_follow hkey, bind, Except.bind, hslot,
      List.contains_iff_mem, hnew, if_false, hstored]
    exact ih hmore

theorem decodes_ofFields {entries : Entries}
    (h : Content.Fills (slots.map Slot.name) (Stores slots) entries [] s s') :
    Decodes (ofFields title slots s) (.mapping entries) s' := by
  intro d path node hshows
  simp only [Shows] at hshows
  obtain ⟨mark, nodes, hnode, hentries⟩ := hshows
  simp only [ofFields, hnode, ofEntries_of_fills h path hentries]
  rfl

/-- An entry that its slot takes in no state makes the whole mapping fail, if nothing before it
does. -/
theorem ofEntries_of_rejects {entries : Entries} {name : String} {value : Content} {slot : Slot S}
    (hmem : (name, value) ∈ entries)
    (hslot : slots.find? (fun slot => slot.name == name) = some slot)
    (hrejects : ∀ s, Rejects (slot.store s) value) {d : Document} (path : Path) (seen : List String)
    (s : S) {nodes : List (Node × Node)} (hshows : ShowEntries d entries nodes) :
    ∃ e, Slot.ofEntries slots d path seen s nodes = .error e := by
  induction entries generalizing seen s nodes with
  | nil => simp at hmem
  | cons entry entries ih =>
    obtain ⟨name', value'⟩ := entry
    simp only [ShowEntries] at hshows
    obtain ⟨key, node, more, mark, tag, style, rfl, hkey, hvalue, hmore⟩ := hshows
    simp only [Slot.ofEntries, textAs_of_follow hkey, bind, Except.bind]
    cases hslot' : slots.find? fun slot => slot.name == name' with
    | none =>
      simp only [whole d _ node hvalue, if_true]
      rcases List.mem_cons.mp hmem with heq | hmem
      · cases heq
        simp [hslot] at hslot'
      · exact ih hmem seen s hmore
    | some slot' =>
      dsimp only
      split
      · exact ⟨_, rfl⟩
      · cases hstored : slot'.store s d (Slot.stepTo key :: path) node with
        | error e => exact ⟨e, rfl⟩
        | ok s' =>
          rcases List.mem_cons.mp hmem with heq | hmem
          · cases heq
            obtain rfl : slot = slot' := by simpa [hslot] using hslot'
            obtain ⟨e, he⟩ := hrejects s d (Slot.stepTo key :: path) node hvalue
            rw [hstored] at he
            cases he
          · exact ih hmem (name' :: seen) s' hmore

theorem rejects_ofFields {entries : Entries} {name : String} {value : Content} {slot : Slot S}
    (hmem : (name, value) ∈ entries)
    (hslot : slots.find? (fun slot => slot.name == name) = some slot)
    (hrejects : ∀ s, Rejects (slot.store s) value) :
    Rejects (ofFields title slots s) (.mapping entries) := by
  intro d path node hshows
  simp only [Shows] at hshows
  obtain ⟨mark, nodes, hnode, hentries⟩ := hshows
  obtain ⟨e, he⟩ := ofEntries_of_rejects hmem hslot hrejects path [] s hentries
  exact ⟨e.placed path mark, by simp only [ofFields, hnode, he]; rfl⟩

end Structures

end AlarmEscalation.Yaml
