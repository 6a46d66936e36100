import AlarmEscalation.Proofs.Json.Values

/-! # Lists, structures and whole documents

A list or an object is read element by element, and each of them takes exactly the text it is
written in. What is stored in a structure therefore follows from what its slots make of the contents
alone, and a content that its slot rejects spoils the whole structure, whatever stands around it. -/
namespace AlarmEscalation.Json

open Reader

section Steps
variable {α : Type} {first : Bool} {lead blanks s : List Char}

theorem leads_get_length (f : Nat → Reader α) (s : List Char) :
    Leads (get >>= fun c => f c.rest.length) s (f s.length) s := by
  intro line column
  refine ⟨line, column, ?_⟩
  have hlength : (s.map Glyph.char).length = s.length := List.length_map _
  rw [← hlength]
  rfl

theorem reads_hasElement_end (hblanks : Blanks blanks) :
    Reads (hasElement first) (blanks ++ ']' :: s) false (']' :: s) :=
  (reads_peekToken_cons hblanks (by decide) s).bind (reads_pure _ _)

theorem reads_hasElement {content : Content} {c : Char} (hlead : Lead first lead)
    (hblanks : Blanks blanks) (hopens : Opens content c) :
    Reads (hasElement first) (lead ++ (blanks ++ c :: s)) true (c :: s) := by
  have hc := hopens.ne_end.1
  cases first with
  | true =>
    obtain rfl : lead = [] := hlead
    refine (reads_peekToken_cons hblanks hopens.isBlank s).bind ?_
    simp only [Glyph.char.injEq, hc, if_false, if_true]
    exact reads_pure _ _
  | false =>
    obtain ⟨gap, hgap, rfl⟩ : ∃ gap, Blanks gap ∧ lead = gap ++ [','] := hlead
    rw [List.append_assoc]
    refine (reads_peekToken_cons hgap (by decide) _).bind ((reads_skip _ _).bind ?_)
    refine (reads_peekToken_cons hblanks hopens.isBlank s).bind ?_
    simp only [Glyph.char.injEq, hc, if_false]
    exact reads_pure _ _

theorem reads_hasMember_end (hblanks : Blanks blanks) :
    Reads (hasMember first) (blanks ++ '\x7d' :: s) false ('\x7d' :: s) :=
  (reads_peekToken_cons hblanks (by decide) s).bind (reads_pure _ _)

theorem reads_hasMember (hlead : Lead first lead) (hblanks : Blanks blanks) :
    Reads (hasMember first) (lead ++ (blanks ++ '\x22' :: s)) true ('\x22' :: s) := by
  cases first with
  | true =>
    obtain rfl : lead = [] := hlead
    exact (reads_peekToken_cons hblanks (by decide) s).bind (reads_pure _ _)
  | false =>
    obtain ⟨gap, hgap, rfl⟩ : ∃ gap, Blanks gap ∧ lead = gap ++ [','] := hlead
    rw [List.append_assoc]
    refine (reads_peekToken_cons hgap (by decide) _).bind ((reads_skip _ _).bind ?_)
    exact (reads_peekToken_cons hblanks (by decide) s).bind (reads_pure _ _)

theorem reads_colon (hblanks : Blanks blanks) : Reads colon (blanks ++ ':' :: s) () s :=
  (reads_peekToken_cons hblanks (by decide) s).bind (reads_skip _ _)

theorem reads_closeList (hblanks : Blanks blanks) : Reads closeList (blanks ++ ']' :: s) () s :=
  (reads_peekToken_cons hblanks (by decide) s).bind (reads_skip _ _)

theorem reads_closeObject (hblanks : Blanks blanks) :
    Reads closeObject (blanks ++ '\x7d' :: s) () s :=
  (reads_peekToken_cons hblanks (by decide) s).bind (reads_skip _ _)

/-- A list that goes on is not at its end. -/
theorem fails_closeList {content : Content} {c : Char} (hlead : Lead first lead)
    (hblanks : Blanks blanks) (hopens : Opens content c) :
    Fails closeList (lead ++ (blanks ++ c :: s)) := by
  obtain ⟨hend, -, hcomma⟩ := hopens.ne_end
  cases first with
  | true =>
    obtain rfl : lead = [] := hlead
    refine (reads_peekToken_cons hblanks hopens.isBlank s).bind_fails ?_
    simp only [Glyph.char.injEq, hend, hcomma, if_false]
    exact (refuses_failWith _).fails _
  | false =>
    obtain ⟨gap, hgap, rfl⟩ : ∃ gap, Blanks gap ∧ lead = gap ++ [','] := hlead
    rw [List.append_assoc]
    refine (reads_peekToken_cons hgap (by decide) _).bind_fails ?_
    refine Refuses.fails (Refuses.bind _ fun _ => Refuses.bind _ fun g => ?_) _
    split <;> exact refuses_failWith _

end Steps

/-! ## Lists -/

section Lists
variable {α : Type} {element : Reader α} {inside : List Char}

theorem reads_elements {content : α → Content} {values : List α}
    (h : ∀ a ∈ values, Means element (content a) a) {first : Bool}
    (hinside : WrittenItems first (values.map content) inside) (read : List α) (s : List Char)
    (fuel : Nat) (hfuel : values.length < fuel) :
    Reads (elements element fuel first read) (inside ++ s) (read.reverse ++ values) (']' :: s) := by
  induction values generalizing first inside read fuel with
  | nil =>
    obtain ⟨fuel, rfl⟩ : ∃ n, fuel = n + 1 := ⟨fuel - 1, by omega⟩
    simp only [List.map_nil, WrittenItems] at hinside
    obtain ⟨blanks, hblanks, rfl⟩ := hinside
    rw [List.append_assoc, List.append_nil]
    exact (reads_hasElement_end hblanks).bind (reads_pure _ _)
  | cons value values ih =>
    obtain ⟨fuel, rfl⟩ : ∃ n, fuel = n + 1 := ⟨fuel - 1, by omega⟩
    simp only [List.map_cons, WrittenItems] at hinside
    obtain ⟨lead, blanks, text, more, hlead, hblanks, hwritten, hmore, rfl⟩ := hinside
    have hread := h value (by simp) hwritten blanks_nil (closed_of_items hmore s)
    have hrest := ih (fun a ha => h a (by simp [ha])) hmore (value :: read) fuel
      (by simpa using hfuel)
    rw [List.reverse_cons, List.append_assoc, List.singleton_append] at hrest
    obtain ⟨c, rest, rfl, hopens⟩ := starts_of_written hwritten
    simp only [List.append_assoc, List.cons_append, List.nil_append] at hread ⊢
    exact (reads_hasElement hlead hblanks hopens).bind (hread.bind hrest)

theorem settles_elements {items : List Content} (h : ∀ x ∈ items, Judges element x) {first : Bool}
    (hinside : WrittenItems first items inside) (read : List α) (s : List Char) (fuel : Nat)
    (hfuel : items.length < fuel) :
    Settles (elements element fuel first read) (inside ++ s) (']' :: s) := by
  induction items generalizing first inside read fuel with
  | nil =>
    obtain ⟨fuel, rfl⟩ : ∃ n, fuel = n + 1 := ⟨fuel - 1, by omega⟩
    simp only [WrittenItems] at hinside
    obtain ⟨blanks, hblanks, rfl⟩ := hinside
    rw [List.append_assoc]
    exact .inr ⟨read.reverse, (reads_hasElement_end hblanks).bind (reads_pure _ _)⟩
  | cons item items ih =>
    obtain ⟨fuel, rfl⟩ : ∃ n, fuel = n + 1 := ⟨fuel - 1, by omega⟩
    simp only [WrittenItems] at hinside
    obtain ⟨lead, blanks, text, more, hlead, hblanks, hwritten, hmore, rfl⟩ := hinside
    have hitem := h item (by simp) hwritten blanks_nil (closed_of_items hmore s)
    have hrest := fun a => ih (fun x hx => h x (by simp [hx])) hmore (a :: read) fuel
      (by simpa using hfuel)
    obtain ⟨c, rest, rfl, hopens⟩ := starts_of_written hwritten
    simp only [List.append_assoc, List.cons_append, List.nil_append] at hitem ⊢
    exact (reads_hasElement hlead hblanks hopens).bind_settles (hitem.bind hrest)

/-- Every element takes a character at least. -/
theorem length_lt_of_items {items : List Content} {first : Bool}
    (h : WrittenItems first items inside) : items.length < inside.length := by
  induction items generalizing first inside with
  | nil =>
    simp only [WrittenItems] at h
    obtain ⟨blanks, -, rfl⟩ := h
    simp
  | cons item items ih =>
    simp only [WrittenItems] at h
    obtain ⟨lead, blanks, text, more, -, -, hwritten, hmore, rfl⟩ := h
    have hmore := ih hmore
    obtain ⟨c, rest, rfl, -⟩ := starts_of_written hwritten
    simp only [List.length_append, List.length_cons]
    omega

theorem leads_list {blanks s : List Char} (hblanks : Blanks blanks) :
    Leads (list element) (blanks ++ '[' :: s) (do
      let read ← elements element (s.length + 1) true []
      closeList
      return read) s := by
  refine ((reads_valueStart hblanks (by decide) s).leads _).trans ?_
  refine ((reads_skip _ s).leads _).trans ?_
  exact leads_get_length (fun n => do
    let read ← elements element (n + 1) true []
    closeList
    return read) s

theorem length_lt_of_items_append {items : List Content} {first : Bool}
    (h : WrittenItems first items inside) (s : List Char) :
    items.length < (inside ++ s).length + 1 := by
  have hlength := length_lt_of_items h
  rw [List.length_append]
  omega

theorem means_list {content : α → Content} {values : List α}
    (h : ∀ a ∈ values, Means element (content a) a) :
    Means (list element) (.list (values.map content)) values := by
  intro text blanks s hwritten hblanks _
  simp only [Written] at hwritten
  obtain ⟨inside, hinside, rfl⟩ := hwritten
  have hfuel := length_lt_of_items_append hinside s
  rw [List.length_map] at hfuel
  refine (leads_list hblanks).reads ((reads_elements h hinside [] s _ hfuel).bind ?_)
  exact (reads_closeList blanks_nil).bind (reads_pure _ s)

theorem rejects_list {content : Content} (h : ∀ items, content ≠ .list items) :
    Rejects (list element) content := by
  refine rejects_of_start fun c hopens => ?_
  have hbracket : c ≠ '[' := by
    rintro rfl
    cases content <;> simp_all [Opens]
  simp only [Glyph.char.injEq, hbracket, if_false]
  exact refuses_unexpected _

theorem judges_list (h : ∀ x, Judges element x) (content : Content) :
    Judges (list element) content := by
  cases content with
  | list items =>
    intro text blanks s hwritten hblanks _
    simp only [Written] at hwritten
    obtain ⟨inside, hinside, rfl⟩ := hwritten
    refine (leads_list hblanks).settles ?_
    have hfuel := length_lt_of_items_append hinside s
    refine (settles_elements (fun x _ => h x) hinside [] s _ hfuel).bind ?_
    exact fun read => .inr ⟨read, (reads_closeList blanks_nil).bind (reads_pure _ s)⟩
  | _ => exact (rejects_list (by simp)).judges

end Lists

/-! ## Objects -/

section Objects
variable {S : Type} (slots : List (Slot S))

/-- What becomes of a structure by a member with one of the names of the slots. -/
def Stores (name : String) (value : Content) (s t : S) : Prop :=
  ∃ slot, slots.find? (fun slot => slot.name == name) = some slot ∧ Means (slot.store s) value t

/-- What is made of the members of an object when its end is reached. -/
def ending (found : Except Decoding.Mismatch (List String × S)) : Reader S :=
  closeWith closeObject <| found.bind fun (seen, s) =>
    match Slot.firstMissing? slots seen with
    | some slot => .error (.missingField slot.name)
    | none => .ok s

theorem refuses_closeWith {α : Type} (close : Reader Unit) (m : Decoding.Mismatch) :
    Refuses (closeWith (α := α) close (.error m)) :=
  Refuses.bind _ fun _ => refuses_mismatch m

theorem refuses_ending (m : Decoding.Mismatch) : Refuses (ending slots (.error m)) :=
  refuses_closeWith _ m

variable {slots}

theorem reads_ofObject_end {blanks : List Char} (hblanks : Blanks blanks) {first : Bool}
    {seen : List String} {s : S} {fuel : Nat} (t : List Char) :
    Reads (Slot.ofObject slots (fuel + 1) first seen s) (blanks ++ '\x7d' :: t) (.ok (seen, s))
      ('\x7d' :: t) :=
  (reads_hasMember_end hblanks).bind (reads_pure _ _)

section Member
variable {name : String} {value : Content} {lead blanks key gap before text : List Char}
  {first : Bool} (more : List Char) (seen : List String) (s : S) (fuel : Nat)
  (hlead : Lead first lead) (hblanks : Blanks blanks) (hkey : WrittenString name key)
  (hgap : Blanks gap)
include hlead hblanks hkey

/-- A member is looked for by its name. -/
theorem leads_ofObject :
    Leads (Slot.ofObject slots (fuel + 1) first seen s) (lead ++ (blanks ++ (key ++ more)))
      (match slots.find? fun slot => slot.name == name with
      | none => do
        colon
        skipValue
        Slot.ofObject slots fuel false seen s
      | some slot =>
        if seen.contains name then return .error (.duplicateField name)
        else do
          colon
          Slot.ofObject slots fuel false (name :: seen) (← slot.store s)) more := by
  obtain ⟨chars, hchars, rfl⟩ := hkey
  rw [List.cons_append, List.append_assoc, List.singleton_append]
  refine ((reads_hasMember hlead hblanks).leads _).trans ?_
  refine Leads.trans (Reads.leads ?_ _) fun line column => ⟨line, column, rfl⟩
  exact (reads_skip _ _).bind (reads_string hchars more)

theorem reads_ofObject_duplicate {slot : Slot S}
    (hslot : slots.find? (fun slot => slot.name == name) = some slot) (hseen : name ∈ seen) :
    Reads (Slot.ofObject slots (fuel + 1) first seen s) (lead ++ (blanks ++ (key ++ more)))
      (.error (.duplicateField name)) more := by
  refine (leads_ofObject _ seen s fuel hlead hblanks hkey).reads ?_
  simp only [hslot, List.contains_iff_mem, hseen, if_true]
  exact reads_pure _ _

include hgap

theorem leads_ofObject_unknown (hunknown : name ∉ slots.map Slot.name)
    (hvalue : Written value text) (hbefore : Blanks before) (hmore : Closed more) :
    Leads (Slot.ofObject slots (fuel + 1) first seen s)
      (lead ++ (blanks ++ (key ++ (gap ++ ':' :: (before ++ (text ++ more))))))
      (Slot.ofObject slots fuel false seen s) more := by
  have hnone : slots.find? (fun slot => slot.name == name) = none := by
    simpa [List.find?_eq_none] using hunknown
  refine (leads_ofObject _ seen s fuel hlead hblanks hkey).trans ?_
  rw [hnone]
  refine ((reads_colon hgap).leads _).trans ?_
  exact (means_skipValue value hvalue hbefore hmore).leads _

theorem leads_ofObject_known {slot : Slot S}
    (hslot : slots.find? (fun slot => slot.name == name) = some slot) (hnew : name ∉ seen) :
    Leads (Slot.ofObject slots (fuel + 1) first seen s)
      (lead ++ (blanks ++ (key ++ (gap ++ ':' :: more))))
      (slot.store s >>= Slot.ofObject slots fuel false (name :: seen)) more := by
  refine (leads_ofObject _ seen s fuel hlead hblanks hkey).trans ?_
  simp only [hslot, List.contains_iff_mem, hnew, if_false]
  exact (reads_colon hgap).leads _

end Member

/-- The members store what they mean, each in its slot. -/
theorem reads_ofObject {entries : List (String × Content)} {seen : List String} {s s' : S}
    (h : Content.Fills (slots.map Slot.name) (Stores slots) entries seen s s') {first : Bool}
    {inside : List Char} (hinside : WrittenMembers first entries inside) (t : List Char)
    (fuel : Nat) (hfuel : entries.length < fuel) :
    ∃ seen', (∀ name ∈ slots.map Slot.name, name ∈ seen ∨ name ∈ Content.names entries →
        name ∈ seen') ∧
      Reads (Slot.ofObject slots fuel first seen s) (inside ++ t) (.ok (seen', s'))
        ('\x7d' :: t) := by
  induction h generalizing first inside fuel with
  | @nil seen s =>
    obtain ⟨fuel, rfl⟩ : ∃ n, fuel = n + 1 := ⟨fuel - 1, by omega⟩
    simp only [WrittenMembers] at hinside
    obtain ⟨blanks, hblanks, rfl⟩ := hinside
    rw [List.append_assoc]
    exact ⟨seen, by simp [Content.names], reads_ofObject_end hblanks t⟩
  | @passed name value entries seen s s' hunknown _ ih =>
    obtain ⟨fuel, rfl⟩ : ∃ n, fuel = n + 1 := ⟨fuel - 1, by omega⟩
    simp only [WrittenMembers] at hinside
    obtain ⟨lead, blanks, key, gap, before, text, more, hlead, hblanks, hkey, hgap, hbefore, hvalue,
      hmore, rfl⟩ := hinside
    obtain ⟨seen', hseen, hreads⟩ := ih hmore fuel (by simpa using hfuel)
    refine ⟨seen', fun known hknown hmem => hseen known hknown ?_, ?_⟩
    · simp only [Content.names, List.map_cons, List.mem_cons] at hmem ⊢
      rcases hmem with hmem | rfl | hmem
      · exact .inl hmem
      · exact absurd hknown hunknown
      · exact .inr hmem
    · have hleads := leads_ofObject_unknown (more ++ t) seen s fuel hlead hblanks hkey hgap hunknown
        hvalue hbefore (closed_of_members hmore t)
      simp only [List.append_assoc, List.cons_append] at hleads ⊢
      exact hleads.reads hreads
  | @stored name value entries seen s s₁ s' hknown hnew hstores _ ih =>
    obtain ⟨fuel, rfl⟩ : ∃ n, fuel = n + 1 := ⟨fuel - 1, by omega⟩
    simp only [WrittenMembers] at hinside
    obtain ⟨lead, blanks, key, gap, before, text, more, hlead, hblanks, hkey, hgap, hbefore, hvalue,
      hmore, rfl⟩ := hinside
    obtain ⟨slot, hslot, hmeans⟩ := hstores
    obtain ⟨seen', hseen, hreads⟩ := ih hmore fuel (by simpa using hfuel)
    refine ⟨seen', fun known hknown hmem => hseen known hknown ?_, ?_⟩
    · simp only [Content.names, List.map_cons, List.mem_cons] at hmem ⊢
      rcases hmem with hmem | rfl | hmem
      · exact .inl (.inr hmem)
      · exact .inl (.inl rfl)
      · exact .inr hmem
    · have hleads := leads_ofObject_known (before ++ (text ++ (more ++ t))) seen s fuel hlead
        hblanks hkey hgap hslot hnew
      simp only [List.append_assoc, List.cons_append] at hleads ⊢
      exact hleads.reads ((hmeans hvalue hbefore (closed_of_members hmore t)).bind hreads)

/-- The entries give one of the slots a content that it takes in no state. -/
def Spoiled (slots : List (Slot S)) (entries : List (String × Content)) : Prop :=
  ∃ name value slot, (name, value) ∈ entries ∧
    slots.find? (fun slot => slot.name == name) = some slot ∧ ∀ s, Rejects (slot.store s) value

theorem spoiled_cons {name : String} {value : Content} {entries : List (String × Content)} :
    Spoiled slots ((name, value) :: entries) ↔
      (∃ slot, slots.find? (fun slot => slot.name == name) = some slot ∧
        ∀ s, Rejects (slot.store s) value) ∨ Spoiled slots entries := by
  constructor
  · rintro ⟨name', value', slot, hmem, hfound, hrejects⟩
    rcases List.mem_cons.mp hmem with heq | hmem
    · cases heq
      exact .inl ⟨slot, hfound, hrejects⟩
    · exact .inr ⟨name', value', slot, hmem, hfound, hrejects⟩
  · rintro (⟨slot, hfound, hrejects⟩ | ⟨name', value', slot, hmem, hfound, hrejects⟩)
    · exact ⟨name, value, slot, by simp, hfound, hrejects⟩
    · exact ⟨name', value', slot, by simp [hmem], hfound, hrejects⟩

theorem settles_ending (found : Except Decoding.Mismatch (List String × S)) (t : List Char) :
    Settles (ending slots found) ('\x7d' :: t) t := by
  cases found with
  | error m => exact .inl ((refuses_ending slots m).fails _)
  | ok found =>
    obtain ⟨seen, s⟩ := found
    simp only [ending, Except.bind]
    split
    · exact .inl ((refuses_closeWith _ _).fails _)
    · exact .inr ⟨s, (reads_closeObject blanks_nil).bind (reads_pure s t)⟩

variable (hslots : ∀ slot ∈ slots, ∀ s content, Judges (slot.store s) content)
include hslots

/-- An object is read to its end unless an error is found, and an error is found if it is spoiled.
-/
theorem settles_ofObject {entries : List (String × Content)} (seen : List String) (s : S)
    {first : Bool} {inside : List Char} (hinside : WrittenMembers first entries inside)
    (t : List Char) (fuel : Nat) (hfuel : entries.length < fuel) :
    Settles (Slot.ofObject slots fuel first seen s >>= ending slots) (inside ++ t) t ∧
      (Spoiled slots entries →
        Fails (Slot.ofObject slots fuel first seen s >>= ending slots) (inside ++ t)) := by
  induction entries generalizing seen s first inside fuel with
  | nil =>
    obtain ⟨fuel, rfl⟩ : ∃ n, fuel = n + 1 := ⟨fuel - 1, by omega⟩
    simp only [WrittenMembers] at hinside
    obtain ⟨blanks, hblanks, rfl⟩ := hinside
    rw [List.append_assoc]
    exact ⟨(reads_ofObject_end hblanks t).bind_settles (settles_ending _ t), by simp [Spoiled]⟩
  | cons entry entries ih =>
    obtain ⟨name, value⟩ := entry
    obtain ⟨fuel, rfl⟩ : ∃ n, fuel = n + 1 := ⟨fuel - 1, by omega⟩
    simp only [WrittenMembers] at hinside
    obtain ⟨lead, blanks, key, gap, before, text, more, hlead, hblanks, hkey, hgap, hbefore, hvalue,
      hmore, rfl⟩ := hinside
    have hclosed := closed_of_members hmore t
    have hrest := fun seen s => ih seen s hmore fuel (by simpa using hfuel)
    simp only [List.append_assoc, List.cons_append]
    cases hslot : slots.find? fun slot => slot.name == name with
    | none =>
      have hunknown : name ∉ slots.map Slot.name := by simpa [List.find?_eq_none] using hslot
      have hleads := (leads_ofObject_unknown (more ++ t) seen s fuel hlead hblanks hkey hgap
        hunknown hvalue hbefore hclosed).bind (ending slots)
      refine ⟨hleads.settles (hrest seen s).1, fun hspoiled => hleads.fails ((hrest seen s).2 ?_)⟩
      simpa [spoiled_cons, hslot] using hspoiled
    | some slot =>
      by_cases hseen : name ∈ seen
      · have hall := (reads_ofObject_duplicate (gap ++ ':' :: (before ++ (text ++ (more ++ t))))
          seen s fuel hlead hblanks hkey hslot hseen).bind_fails ((refuses_ending slots _).fails _)
        exact ⟨.inl hall, fun _ => hall⟩
      · have hleads := (leads_ofObject_known (before ++ (text ++ (more ++ t))) seen s fuel hlead
          hblanks hkey hgap hslot hseen).bind (ending slots)
        have hmem : slot ∈ slots := List.mem_of_find?_eq_some hslot
        rcases hslots slot hmem s value hvalue hbefore hclosed with hfails | ⟨s', hreads⟩
        · have hall := hleads.fails ((hfails.bind _).bind _)
          exact ⟨.inl hall, fun _ => hall⟩
        · have hleads' := hleads.trans ((hreads.leads _).bind (ending slots))
          refine ⟨hleads'.settles (hrest _ s').1, fun hspoiled => ?_⟩
          rcases spoiled_cons.mp hspoiled with ⟨slot', hfound, hrejects⟩ | hspoiled
          · obtain rfl : slot = slot' := by simpa [hslot] using hfound
            exact hleads.fails (((hrejects s hvalue hbefore hclosed).bind _).bind _)
          · exact hleads'.fails ((hrest _ s').2 hspoiled)

omit hslots in
/-- Every member takes a character at least. -/
theorem length_lt_of_members {entries : List (String × Content)} {first : Bool} {inside : List Char}
    (h : WrittenMembers first entries inside) (t : List Char) :
    entries.length < (inside ++ t).length + 1 := by
  induction entries generalizing first inside with
  | nil => simp
  | cons entry entries ih =>
    obtain ⟨name, value⟩ := entry
    simp only [WrittenMembers] at h
    obtain ⟨lead, blanks, key, gap, before, text, more, -, -, -, -, -, -, hmore, rfl⟩ := h
    have hmore := ih hmore
    simp only [List.length_append, List.length_cons] at hmore ⊢
    omega

end Objects

/-! ## Structures -/

section Structures
variable {S : Type} {title : String} {slots : List (Slot S)} {s s' : S}

theorem leads_ofFields_object {blanks t : List Char} (hblanks : Blanks blanks) :
    Leads (ofFields title slots s) (blanks ++ '\x7b' :: t)
      (Slot.ofObject slots (t.length + 1) true [] s >>= ending slots) t := by
  refine ((reads_valueStart hblanks (by decide) t).leads _).trans ?_
  refine ((reads_skip _ t).leads _).trans ?_
  exact leads_get_length (fun n => Slot.ofObject slots (n + 1) true [] s >>= ending slots) t

/-- A structure is what its slots make of the members of an object, if none of those it needs is
missing. -/
theorem means_ofFields {entries : List (String × Content)}
    (h : Content.Fills (slots.map Slot.name) (Stores slots) entries [] s s')
    (hrequired : ∀ slot ∈ slots, slot.required = true → slot.name ∈ Content.names entries) :
    Means (ofFields title slots s) (.mapping entries) s' := by
  intro text blanks t hwritten hblanks _
  simp only [Written] at hwritten
  obtain ⟨inside, hinside, rfl⟩ := hwritten
  obtain ⟨seen, hseen, hreads⟩ := reads_ofObject h hinside t _ (length_lt_of_members hinside t)
  refine (leads_ofFields_object hblanks).reads (hreads.bind ?_)
  have hcomplete : Slot.firstMissing? slots seen = none := by
    rw [Slot.firstMissing?, List.find?_eq_none]
    intro slot hslot
    cases hneeded : slot.required with
    | false => simp
    | true =>
      have hmem := hseen slot.name (List.mem_map_of_mem hslot) (.inr (hrequired slot hslot hneeded))
      simpa using hmem
  simp only [ending, Except.bind, hcomplete]
  exact (reads_closeObject blanks_nil).bind (reads_pure s' t)

variable (hslots : ∀ slot ∈ slots, ∀ s content, Judges (slot.store s) content)
include hslots

theorem rejects_ofFields {entries : List (String × Content)} (h : Spoiled slots entries) :
    Rejects (ofFields title slots s) (.mapping entries) := by
  intro text blanks t hwritten hblanks _
  simp only [Written] at hwritten
  obtain ⟨inside, hinside, rfl⟩ := hwritten
  refine (leads_ofFields_object hblanks).fails ?_
  exact (settles_ofObject hslots [] s hinside t _ (length_lt_of_members hinside t)).2 h

/-- The elements of a list are stored in the slots in their order. -/
theorem settles_ofList {shape : String} (items : List Content) (index : Nat) (s : S)
    {inside : List Char} (hinside : WrittenItems (index == 0) items inside) (t : List Char) :
    Settles (Slot.ofList shape slots index s >>= closeWith closeList) (inside ++ t) t := by
  induction slots generalizing items index s inside with
  | nil =>
    refine (reads_pure _ _).bind_settles ?_
    cases items with
    | nil =>
      simp only [WrittenItems] at hinside
      obtain ⟨blanks, hblanks, rfl⟩ := hinside
      rw [List.append_assoc]
      exact .inr ⟨s, (reads_closeList hblanks).bind (reads_pure s t)⟩
    | cons item items =>
      simp only [WrittenItems] at hinside
      obtain ⟨lead, blanks, text, more, hlead, hblanks, hwritten, -, rfl⟩ := hinside
      obtain ⟨c, rest, rfl, hopens⟩ := starts_of_written hwritten
      simp only [List.append_assoc, List.cons_append]
      exact .inl ((fails_closeList hlead hblanks hopens).bind _)
  | cons slot slots ih =>
    have ih := ih fun slot hslot => hslots slot (by simp [hslot])
    cases items with
    | nil =>
      simp only [WrittenItems] at hinside
      obtain ⟨blanks, hblanks, rfl⟩ := hinside
      rw [List.append_assoc]
      refine (((reads_hasElement_end hblanks).leads _).bind _).settles ?_
      by_cases hneeded : slot.required = true
      · simp only [Bool.false_eq_true, if_false, hneeded, if_true]
        exact .inl ((reads_pure _ _).bind_fails ((refuses_closeWith _ _).fails _))
      · simp only [Bool.false_eq_true, if_false, hneeded]
        have hend : WrittenItems (index == 0) [] [']'] := by
          simpa only [WrittenItems] using ⟨[], blanks_nil, rfl⟩
        exact ih [] index s hend
    | cons item items =>
      simp only [WrittenItems] at hinside
      obtain ⟨lead, blanks, text, more, hlead, hblanks, hwritten, hmore, rfl⟩ := hinside
      have hitem := hslots slot (by simp) s item hwritten blanks_nil (closed_of_items hmore t)
      obtain ⟨c, rest, rfl, hopens⟩ := starts_of_written hwritten
      simp only [List.append_assoc, List.cons_append, List.nil_append] at hitem ⊢
      refine (((reads_hasElement hlead hblanks hopens).leads _).bind _).settles ?_
      rcases hitem with hfails | ⟨s', hreads⟩
      · exact .inl ((hfails.bind _).bind _)
      · exact ((hreads.leads _).bind _).settles (ih items (index + 1) s' hmore)

theorem judges_ofFields (content : Content) : Judges (ofFields title slots s) content := by
  cases content with
  | mapping entries =>
    intro text blanks t hwritten hblanks _
    simp only [Written] at hwritten
    obtain ⟨inside, hinside, rfl⟩ := hwritten
    refine (leads_ofFields_object hblanks).settles ?_
    exact (settles_ofObject hslots [] s hinside t _ (length_lt_of_members hinside t)).1
  | list items =>
    intro text blanks t hwritten hblanks _
    simp only [Written] at hwritten
    obtain ⟨inside, hinside, rfl⟩ := hwritten
    refine ((reads_valueStart hblanks (by decide) _).leads _).settles ?_
    refine ((reads_skip _ _).leads _).settles ?_
    exact settles_ofList hslots items 0 s hinside t
  | _ =>
    refine Rejects.judges (rejects_of_start fun c hopens => ?_)
    have hbrackets : c ≠ '\x7b' ∧ c ≠ '[' := by
      constructor <;> (rintro rfl; simp [Opens] at hopens)
    simp only [Glyph.char.injEq, hbrackets.1, hbrackets.2, if_false]
    exact refuses_unexpected title

end Structures

/-! ## Documents -/

section Documents
variable {α : Type} {r : Reader α} {content : Content} {text : List Char}

theorem fst_run_of_reads {a : α} {s t : List Char} (h : Reads r s a t) :
    (r.run (Cursor.ofGlyphs (s.map .char))).1 = .ok a := by
  obtain ⟨line, column, hrun⟩ := h 1 0
  exact congrArg Prod.fst hrun

theorem fst_run_of_fails {s : List Char} (h : Fails r s) :
    ∃ e, (r.run (Cursor.ofGlyphs (s.map .char))).1 = .error e := by
  obtain ⟨e, c, hrun⟩ := h 1 0
  exact ⟨e, congrArg Prod.fst hrun⟩

theorem decode_of_means {a : α} (h : Means r content a) (hwritten : WrittenDocument content text) :
    decode r (text.map .char) = .ok a := by
  obtain ⟨before, value, after, hbefore, hvalue, hafter, rfl⟩ := hwritten
  have hend : Reads Reader.peekToken after none [] := by
    simpa using reads_peekToken hafter (s := []) (by simp)
  have hclosed : Closed after := by simpa using closed_nil.blanks_append hafter
  exact fst_run_of_reads ((h hvalue hbefore hclosed).bind (hend.bind (reads_pure a [])))

theorem decode_of_rejects (h : Rejects r content) (hwritten : WrittenDocument content text) :
    ∃ e, decode r (text.map .char) = .error e := by
  obtain ⟨before, value, after, hbefore, hvalue, hafter, rfl⟩ := hwritten
  have hclosed : Closed after := by simpa using closed_nil.blanks_append hafter
  exact fst_run_of_fails ((h hvalue hbefore hclosed).bind _)

end Documents

end AlarmEscalation.Json
