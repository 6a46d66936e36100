import AlarmEscalation.Proofs.Content
import AlarmEscalation.Proofs.Json.Numbers
import AlarmEscalation.Proofs.Json.Strings

/-! # Documents and how they are written

What a document says has many written forms: blanks may stand between all tokens, and strings have
forms of their own. `Written` is the relation of contents and texts. A value that nobody asks for is
passed over in every form. -/
namespace AlarmEscalation.Json

open Reader

/-- What stands before an element or a member of which `first` tells whether it is the first. -/
def Lead (first : Bool) (s : List Char) : Prop :=
  if first then s = [] else ∃ blanks, Blanks blanks ∧ s = blanks ++ [',']

mutual

/-- The text is a written form of the content. -/
def Written : Content → List Char → Prop
  | .null, s => s = "null".toList
  | .bool b, s => s = writeBool b
  | .integer n, s => s = writtenInteger n
  | .fraction, s => WrittenFraction s
  | .text value, s => WrittenString value s
  | .list items, s => ∃ inside, WrittenItems true items inside ∧ s = '[' :: inside
  | .mapping entries, s => ∃ inside, WrittenMembers true entries inside ∧ s = '\x7b' :: inside

/-- The text is a written form of the elements of a list, with the bracket at its end. -/
def WrittenItems (first : Bool) : List Content → List Char → Prop
  | [], s => ∃ blanks, Blanks blanks ∧ s = blanks ++ [']']
  | item :: items, s => ∃ lead blanks value more, Lead first lead ∧ Blanks blanks ∧
      Written item value ∧ WrittenItems false items more ∧ s = lead ++ (blanks ++ (value ++ more))

/-- The text is a written form of the members of an object, with the brace at its end. -/
def WrittenMembers (first : Bool) : List (String × Content) → List Char → Prop
  | [], s => ∃ blanks, Blanks blanks ∧ s = blanks ++ ['\x7d']
  | (name, value) :: entries, s => ∃ lead blanks key gap before text more, Lead first lead ∧
      Blanks blanks ∧ WrittenString name key ∧ Blanks gap ∧ Blanks before ∧ Written value text ∧
      WrittenMembers false entries more ∧
      s = lead ++ (blanks ++ (key ++ (gap ++ ':' :: (before ++ (text ++ more)))))

end

/-- The text is a whole document with the content. -/
def WrittenDocument (content : Content) (s : List Char) : Prop :=
  ∃ before text after, Blanks before ∧ Written content text ∧ Blanks after ∧
    s = before ++ (text ++ after)

/-! ## Beginnings -/

/-- The written forms of the content can begin with the character. -/
def Opens : Content → Char → Prop
  | .null, c => c = 'n'
  | .bool _, c => c = 't' ∨ c = 'f'
  | .integer _, c | .fraction, c => c = '-' ∨ c.isDigit = true
  | .text _, c => c = '\x22'
  | .list _, c => c = '['
  | .mapping _, c => c = '\x7b'

theorem Opens.isBlank {content : Content} {c : Char} (h : Opens content c) : isBlank c = false := by
  cases content with
  | integer | fraction =>
    rcases h with rfl | hdigit
    · decide
    · exact isBlank_of_isDigit hdigit
  | bool => rcases h with rfl | rfl <;> decide
  | _ =>
    cases h
    decide

/-- No content begins with what ends a list or an object, or with what follows an element. -/
theorem Opens.ne_end {content : Content} {c : Char} (h : Opens content c) :
    c ≠ ']' ∧ c ≠ '\x7d' ∧ c ≠ ',' := by
  cases content with
  | integer | fraction =>
    rcases h with rfl | hdigit
    · decide
    · refine ⟨?_, ?_, ?_⟩ <;> (rintro rfl; cases hdigit)
  | bool => rcases h with rfl | rfl <;> decide
  | _ =>
    cases h
    decide

/-- The text begins with a character that the content can begin with. -/
def Starts (content : Content) (s : List Char) : Prop := ∃ c rest, s = c :: rest ∧ Opens content c

theorem starts_of_digits (content : Content) {s : List Char} (h : Digits s)
    (hopens : ∀ c, c.isDigit = true → Opens content c) (t : List Char) :
    Starts content (s ++ t) := by
  obtain ⟨c, rest, rfl⟩ := List.exists_cons_of_ne_nil h.1
  exact ⟨c, rest ++ t, rfl, hopens c (h.2 c (by simp))⟩

theorem starts_of_written {content : Content} {s : List Char} (h : Written content s) :
    Starts content s := by
  cases content with
  | null =>
    simp only [Written] at h
    subst h
    exact ⟨'n', "ull".toList, rfl, rfl⟩
  | bool b =>
    simp only [Written] at h
    subst h
    cases b
    · exact ⟨'f', "alse".toList, rfl, .inr rfl⟩
    · exact ⟨'t', "rue".toList, rfl, .inl rfl⟩
  | integer n =>
    simp only [Written] at h
    subst h
    unfold writtenInteger
    split
    · exact ⟨'-', Nat.toDigits 10 n.natAbs, rfl, .inl rfl⟩
    · have hdigits := starts_of_digits (.integer n) (digits_toDigits n.natAbs)
        (fun _ => Or.inr) []
      rwa [List.append_nil] at hdigits
  | fraction =>
    simp only [Written] at h
    obtain ⟨sign, whole, fraction, exponent, hsign, hwhole, -, -, rfl, -⟩ := h
    rcases hsign with rfl | rfl
    · exact starts_of_digits .fraction hwhole.1 (fun _ => Or.inr) _
    · exact ⟨'-', whole ++ (fraction ++ exponent), rfl, .inl rfl⟩
  | text value =>
    simp only [Written] at h
    obtain ⟨chars, -, rfl⟩ := h
    exact ⟨'\x22', chars ++ ['\x22'], rfl, rfl⟩
  | list items =>
    simp only [Written] at h
    obtain ⟨inside, -, rfl⟩ := h
    exact ⟨'[', inside, rfl, rfl⟩
  | mapping entries =>
    simp only [Written] at h
    obtain ⟨inside, -, rfl⟩ := h
    exact ⟨'\x7b', inside, rfl, rfl⟩

theorem closed_of_items {items : List Content} {s : List Char} (h : WrittenItems false items s)
    (t : List Char) : Closed (s ++ t) := by
  cases items with
  | nil =>
    simp only [WrittenItems] at h
    obtain ⟨blanks, hblanks, rfl⟩ := h
    rw [List.append_assoc]
    exact (closed_cons (by decide)).blanks_append hblanks
  | cons item items =>
    simp only [WrittenItems, Lead, Bool.false_eq_true, if_false] at h
    obtain ⟨lead, blanks, value, more, ⟨gap, hgap, rfl⟩, -, -, -, rfl⟩ := h
    rw [List.append_assoc, List.append_assoc]
    exact (closed_cons (by decide)).blanks_append hgap

theorem closed_of_members {entries : List (String × Content)} {s : List Char}
    (h : WrittenMembers false entries s) (t : List Char) : Closed (s ++ t) := by
  cases entries with
  | nil =>
    simp only [WrittenMembers] at h
    obtain ⟨blanks, hblanks, rfl⟩ := h
    rw [List.append_assoc]
    exact (closed_cons (by decide)).blanks_append hblanks
  | cons entry entries =>
    simp only [WrittenMembers, Lead, Bool.false_eq_true, if_false] at h
    obtain ⟨lead, blanks, key, gap, before, text, more, ⟨gap', hgap, rfl⟩, -, -, -, -, -, -, rfl⟩ :=
      h
    rw [List.append_assoc, List.append_assoc]
    exact (closed_cons (by decide)).blanks_append hgap

/-! ## Passing over a value -/

section Steps
variable {blanks s t : List Char} {fuel : Nat} (hblanks : Blanks blanks)
include hblanks

theorem reads_skipKey {name : String} {key gap : List Char} (hkey : WrittenString name key)
    (hgap : Blanks gap) : Reads skipKey (blanks ++ (key ++ (gap ++ ':' :: s))) () s := by
  obtain ⟨chars, hchars, rfl⟩ := hkey
  rw [List.cons_append, List.append_assoc, List.singleton_append]
  refine (reads_peekToken_cons hblanks (by decide) _).bind ?_
  refine (reads_skip _ _).bind ((reads_skipString hchars _).bind ?_)
  exact (reads_peekToken_cons hgap (by decide) s).bind (reads_skip _ _)

/-- A list that goes on at its first element. -/
theorem reads_skipValueWithin_list {c : Char} (hc : isBlank c = false) (hend : c ≠ ']')
    {before : List Char} (hbefore : Blanks before) (h : Reads (skipElements fuel) (c :: s) () t) :
    Reads (skipValueWithin (fuel + 1)) (blanks ++ '[' :: (before ++ c :: s)) () t := by
  rw [skipValueWithin]
  refine (reads_peekToken_cons hblanks (by decide) _).bind ?_
  refine (reads_skip _ _).bind ((reads_peekToken_cons hbefore hc s).bind ?_)
  simpa [hend] using h

theorem reads_skipValueWithin_object {before : List Char} (hbefore : Blanks before)
    (h : Reads (skipMembers fuel) ('\x22' :: s) () t) :
    Reads (skipValueWithin (fuel + 1)) (blanks ++ '\x7b' :: (before ++ '\x22' :: s)) () t := by
  rw [skipValueWithin]
  refine (reads_peekToken_cons hblanks (by decide) _).bind ?_
  exact (reads_skip _ _).bind ((reads_peekToken_cons hbefore (by decide) _).bind h)

theorem reads_skipValueWithin_number (fuel : Nat) {sign whole fraction exponent : List Char}
    (hsign : sign = [] ∨ sign = ['-']) (hwhole : Whole whole) (hfraction : Fraction fraction)
    (hexponent : Exponent exponent) (hs : Closed s) :
    Reads (skipValueWithin (fuel + 1))
      (blanks ++ (sign ++ (whole ++ (fraction ++ exponent)) ++ s)) () s := by
  have hskip := reads_skipNumber hwhole hfraction hexponent hs
  simp only [List.append_assoc]
  rw [skipValueWithin]
  rcases hsign with rfl | rfl
  · obtain ⟨c, rest, rfl⟩ := List.exists_cons_of_ne_nil hwhole.1.1
    have hc : c.isDigit = true := hwhole.1.2 c (by simp)
    have hquote : c ≠ '\x22' := by rintro rfl; cases hc
    have hminus : c ≠ '-' := by rintro rfl; cases hc
    refine (reads_peekToken_cons hblanks (isBlank_of_isDigit hc) _).bind ?_
    simp only [hquote, hminus, hc, if_true, if_false]
    exact hskip
  · exact (reads_peekToken_cons hblanks (by decide) _).bind ((reads_skip _ _).bind hskip)

end Steps

/-- Each form of the content is passed over. Each level of the nesting takes two characters at
least, so twice their number is fuel enough. -/
def Passes (content : Content) : Prop :=
  ∀ (s : List Char) (fuel : Nat) ⦃text blanks : List Char⦄, Written content text →
    Blanks blanks → Closed s → 2 * text.length ≤ fuel →
      Reads (skipValueWithin fuel) (blanks ++ (text ++ s)) () s

/-- No form is empty. -/
theorem exists_fuel {content : Content} {text : List Char} (h : Written content text) {n fuel : Nat}
    (hfuel : 2 * (text.length + n) ≤ fuel) : ∃ fuel', fuel = fuel' + 1 := by
  obtain ⟨c, rest, rfl, -⟩ := starts_of_written h
  exact ⟨fuel - 1, by rw [List.length_cons] at hfuel; omega⟩

theorem passes_of_reads {content : Content}
    (h : ∀ (s : List Char) (fuel : Nat) ⦃text blanks : List Char⦄, Written content text →
      Blanks blanks → Closed s →
        Reads (skipValueWithin (fuel + 1)) (blanks ++ (text ++ s)) () s) : Passes content := by
  intro s fuel text blanks hwritten hblanks hs hfuel
  obtain ⟨fuel, rfl⟩ := exists_fuel (n := 0) hwritten hfuel
  exact h s fuel hwritten hblanks hs

theorem reads_skipElements {items : List Content} {item : Content} (hitem : Passes item)
    (hitems : ∀ x ∈ items, Passes x) {value more blanks : List Char} (s : List Char) (fuel : Nat)
    (hvalue : Written item value) (hmore : WrittenItems false items more) (hblanks : Blanks blanks)
    (hfuel : 2 * (value.length + more.length) ≤ fuel) :
    Reads (skipElements fuel) (blanks ++ (value ++ (more ++ s))) () s := by
  induction items generalizing item value more blanks fuel with
  | nil =>
    obtain ⟨fuel, rfl⟩ := exists_fuel hvalue hfuel
    have hskip := hitem (more ++ s) fuel hvalue hblanks (closed_of_items hmore s)
    simp only [WrittenItems] at hmore
    obtain ⟨gap, hgap, rfl⟩ := hmore
    simp only [List.append_assoc, List.singleton_append] at hskip hfuel ⊢
    refine (hskip (by grind)).bind ?_
    exact (reads_peekToken_cons hgap (by decide) s).bind (reads_skip _ _)
  | cons next items ih =>
    obtain ⟨fuel, rfl⟩ := exists_fuel hvalue hfuel
    have hskip := hitem (more ++ s) fuel hvalue hblanks (closed_of_items hmore s)
    simp only [WrittenItems, Lead, Bool.false_eq_true, if_false] at hmore
    obtain ⟨lead, before, value', more', ⟨gap, hgap, rfl⟩, hbefore, hvalue', hmore', rfl⟩ := hmore
    have hrest := ih (hitems next (by simp)) (fun x hx => hitems x (by simp [hx])) fuel hvalue'
      hmore' hbefore
    simp only [List.append_assoc, List.cons_append, List.nil_append, List.length_append,
      List.length_cons] at hskip hfuel ⊢
    refine (hskip (by omega)).bind ?_
    exact (reads_peekToken_cons hgap (by decide) _).bind ((reads_skip _ _).bind (hrest (by omega)))

theorem reads_skipMembers {entries : List (String × Content)} {content : Content}
    (hcontent : Passes content) (hentries : ∀ e ∈ entries, Passes e.2) {name : String}
    {key gap before value more blanks : List Char} (s : List Char) (fuel : Nat)
    (hkey : WrittenString name key) (hgap : Blanks gap) (hbefore : Blanks before)
    (hvalue : Written content value)
    (hmore : WrittenMembers false entries more) (hblanks : Blanks blanks)
    (hfuel : 2 * (value.length + more.length) ≤ fuel) :
    Reads (skipMembers fuel)
      (blanks ++ (key ++ (gap ++ ':' :: (before ++ (value ++ (more ++ s)))))) () s := by
  induction entries generalizing content name key gap before value more blanks fuel with
  | nil =>
    obtain ⟨fuel, rfl⟩ := exists_fuel hvalue hfuel
    have hskip := hcontent (more ++ s) fuel hvalue hbefore (closed_of_members hmore s)
    simp only [WrittenMembers] at hmore
    obtain ⟨after, hafter, rfl⟩ := hmore
    simp only [List.append_assoc, List.singleton_append, List.length_append,
      List.length_cons] at hskip hfuel ⊢
    refine (reads_skipKey hblanks hkey hgap).bind ((hskip (by omega)).bind ?_)
    exact (reads_peekToken_cons hafter (by decide) s).bind (reads_skip _ _)
  | cons entry entries ih =>
    obtain ⟨fuel, rfl⟩ := exists_fuel hvalue hfuel
    have hskip := hcontent (more ++ s) fuel hvalue hbefore (closed_of_members hmore s)
    simp only [WrittenMembers, Lead, Bool.false_eq_true, if_false] at hmore
    obtain ⟨lead, start, key', gap', before', value', more', ⟨after, hafter, rfl⟩, hstart, hkey',
      hgap', hbefore', hvalue', hmore', rfl⟩ := hmore
    have hrest := ih (hentries entry (by simp)) (fun e he => hentries e (by simp [he])) fuel hkey'
      hgap' hbefore' hvalue' hmore' hstart
    simp only [List.append_assoc, List.cons_append, List.nil_append, List.length_append,
      List.length_cons] at hskip hfuel ⊢
    refine (reads_skipKey hblanks hkey hgap).bind ((hskip (by omega)).bind ?_)
    exact (reads_peekToken_cons hafter (by decide) _).bind
      ((reads_skip _ _).bind (hrest (by omega)))

theorem passes_list {items : List Content} (h : ∀ x ∈ items, Passes x) :
    Passes (.list items) := by
  intro s fuel text blanks hwritten hblanks hs hfuel
  obtain ⟨fuel, rfl⟩ := exists_fuel (n := 0) hwritten hfuel
  simp only [Written] at hwritten
  obtain ⟨inside, hinside, rfl⟩ := hwritten
  cases items with
  | nil =>
    simp only [WrittenItems] at hinside
    obtain ⟨gap, hgap, rfl⟩ := hinside
    rw [skipValueWithin, List.cons_append, List.append_assoc, List.singleton_append]
    refine (reads_peekToken_cons hblanks (by decide) _).bind ?_
    exact (reads_skip _ _).bind ((reads_peekToken_cons hgap (by decide) s).bind (reads_skip _ _))
  | cons item items =>
    simp only [WrittenItems, Lead, if_true] at hinside
    obtain ⟨lead, gap, value, more, rfl, hgap, hvalue, hmore, rfl⟩ := hinside
    have hskip := reads_skipElements (h item (by simp)) (fun x hx => h x (by simp [hx])) s fuel
      hvalue hmore blanks_nil
    obtain ⟨c, rest, rfl, hopens⟩ := starts_of_written hvalue
    simp only [List.nil_append, List.cons_append, List.append_assoc, List.length_append,
      List.length_cons] at hfuel hskip ⊢
    exact reads_skipValueWithin_list hblanks hopens.isBlank hopens.ne_end.1 hgap (hskip (by omega))

theorem passes_mapping {entries : List (String × Content)} (h : ∀ e ∈ entries, Passes e.2) :
    Passes (.mapping entries) := by
  intro s fuel text blanks hwritten hblanks hs hfuel
  obtain ⟨fuel, rfl⟩ := exists_fuel (n := 0) hwritten hfuel
  simp only [Written] at hwritten
  obtain ⟨inside, hinside, rfl⟩ := hwritten
  cases entries with
  | nil =>
    simp only [WrittenMembers] at hinside
    obtain ⟨gap, hgap, rfl⟩ := hinside
    rw [skipValueWithin, List.cons_append, List.append_assoc, List.singleton_append]
    refine (reads_peekToken_cons hblanks (by decide) _).bind ?_
    exact (reads_skip _ _).bind ((reads_peekToken_cons hgap (by decide) s).bind (reads_skip _ _))
  | cons entry entries =>
    simp only [WrittenMembers, Lead, if_true] at hinside
    obtain ⟨lead, start, key, gap, before, value, more, rfl, hstart, hkey, hgap, hbefore, hvalue,
      hmore, rfl⟩ := hinside
    have hskip := reads_skipMembers (h entry (by simp)) (fun e he => h e (by simp [he])) s fuel hkey
      hgap hbefore hvalue hmore blanks_nil
    obtain ⟨chars, -, rfl⟩ := hkey
    simp only [List.nil_append, List.cons_append, List.append_assoc, List.length_append,
      List.length_cons] at hfuel hskip ⊢
    exact reads_skipValueWithin_object hblanks hstart (hskip (by omega))

theorem passes (content : Content) : Passes content := by
  induction content using Content.induction with
  | list items ih => exact passes_list ih
  | mapping entries ih => exact passes_mapping ih
  | null =>
    refine passes_of_reads fun s fuel text blanks h hblanks _ => ?_
    simp only [Written] at h
    subst h
    rw [skipValueWithin]
    exact (reads_peekToken_cons hblanks (by decide) _).bind ((reads_skip _ _).bind (reads_word _ _))
  | bool b =>
    refine passes_of_reads fun s fuel text blanks h hblanks _ => ?_
    simp only [Written] at h
    subst h
    rw [skipValueWithin]
    cases b <;>
      exact (reads_peekToken_cons hblanks (by decide) _).bind
        ((reads_skip _ _).bind (reads_word _ _))
  | integer n =>
    refine passes_of_reads fun s fuel text blanks h hblanks hs => ?_
    simp only [Written] at h
    subst h
    have hsign : (if n < 0 then ['-'] else []) = [] ∨ (if n < 0 then ['-'] else []) = ['-'] := by
      split <;> simp
    have hread := reads_skipValueWithin_number hblanks fuel hsign
      (whole_toDigits n.natAbs) (.inl rfl) (.inl rfl) hs
    rwa [List.append_nil, List.append_nil] at hread
  | fraction =>
    refine passes_of_reads fun s fuel text blanks h hblanks hs => ?_
    simp only [Written] at h
    obtain ⟨sign, whole, fraction, exponent, hsign, hwhole, hfraction, hexponent, rfl, -⟩ := h
    exact reads_skipValueWithin_number hblanks fuel hsign hwhole hfraction hexponent hs
  | text value =>
    refine passes_of_reads fun s fuel text blanks h hblanks _ => ?_
    simp only [Written] at h
    obtain ⟨chars, hchars, rfl⟩ := h
    rw [skipValueWithin, List.cons_append, List.append_assoc, List.singleton_append]
    exact (reads_peekToken_cons hblanks (by decide) _).bind
      ((reads_skip _ _).bind (reads_skipString hchars s))

/-- A value is passed over, whatever it is. -/
theorem reads_skipValue {content : Content} {text : List Char} (h : Written content text)
    {blanks s : List Char} (hblanks : Blanks blanks) (hs : Closed s) :
    Reads skipValue (blanks ++ (text ++ s)) () s := by
  refine reads_get fun line column => ?_
  refine passes content s _ h hblanks hs ?_
  simp only [List.map_append, List.length_append, List.length_map]
  omega

end AlarmEscalation.Json
