import AlarmEscalation.Proofs.Json.Contents

/-! # What readers make of contents

A reader of a type takes some contents for values of the type and rejects the others, whatever the
form they are written in. In either case it goes no further than the content reaches. -/
namespace AlarmEscalation.Json

open Reader

section Meanings
variable {α β : Type}

/-- The reader finds `a` in every form of the content. -/
def Means (r : Reader α) (content : Content) (a : α) : Prop :=
  ∀ ⦃text blanks s : List Char⦄, Written content text → Blanks blanks → Closed s →
    Reads r (blanks ++ (text ++ s)) a s

/-- The reader reports an error in every form of the content. -/
def Rejects (r : Reader α) (content : Content) : Prop :=
  ∀ ⦃text blanks s : List Char⦄, Written content text → Blanks blanks → Closed s →
    Fails r (blanks ++ (text ++ s))

/-- In every form of the content the reader reports an error or finds something. -/
def Judges (r : Reader α) (content : Content) : Prop :=
  ∀ ⦃text blanks s : List Char⦄, Written content text → Blanks blanks → Closed s →
    Settles r (blanks ++ (text ++ s)) s

variable {r : Reader α} {content : Content} {a : α}

theorem Means.bind_pure (h : Means r content a) (f : α → β) :
    Means (do return f (← r)) content (f a) :=
  fun _ _ _ hwritten hblanks hs => (h hwritten hblanks hs).bind (reads_pure _ _)

theorem Rejects.bind (h : Rejects r content) (f : α → Reader β) : Rejects (r >>= f) content :=
  fun _ _ _ hwritten hblanks hs => (h hwritten hblanks hs).bind f

theorem Means.judges (h : Means r content a) : Judges r content :=
  fun _ _ _ hwritten hblanks hs => .inr ⟨a, h hwritten hblanks hs⟩

theorem Rejects.judges (h : Rejects r content) : Judges r content :=
  fun _ _ _ hwritten hblanks hs => .inl (h hwritten hblanks hs)

theorem Judges.bind_pure (h : Judges r content) (f : α → β) :
    Judges (do return f (← r)) content :=
  fun _ _ _ hwritten hblanks hs => (h hwritten hblanks hs).bind fun _ => .inr ⟨_, reads_pure _ _⟩

theorem means_skipValue (content : Content) : Means skipValue content () :=
  fun _ _ _ hwritten hblanks hs => reads_skipValue hwritten hblanks hs

/-- A reader that begins by looking at the first character. -/
theorem rejects_of_start {f : Glyph → Reader α}
    (h : ∀ c, Opens content c → Refuses (f (.char c))) : Rejects (valueStart >>= f) content := by
  intro text blanks s hwritten hblanks _
  obtain ⟨c, rest, rfl, hopens⟩ := starts_of_written hwritten
  exact (reads_valueStart hblanks hopens.isBlank _).bind_fails ((h c hopens).fails _)

theorem refuses_unexpected (expected : String) : Refuses (unexpected (α := α) expected) := by
  refine Refuses.bind _ fun g => ?_
  split
  · exact refuses_failWith _
  · exact refuses_failWith _
  · split
    · exact Refuses.bind _ fun _ => Refuses.bind _ fun _ => refuses_mismatch _
    split
    · exact Refuses.bind _ fun _ => Refuses.bind _ fun _ => refuses_mismatch _
    split
    · exact Refuses.bind _ fun _ => refuses_mismatch _
    split
    · exact refuses_mismatch _
    split
    · exact refuses_mismatch _
    split
    · exact refuses_failWith _
    · exact Refuses.bind _ fun _ => Refuses.bind _ fun _ => refuses_mismatch _

end Meanings

/-! ## Texts and truth values -/

section Text
variable {α : Type} {expected : String} {make : String → Except Decoding.Mismatch α}

theorem means_textAs {value : String} {a : α} (h : make value = .ok a) :
    Means (textAs expected make) (.text value) a := by
  intro text blanks s hwritten hblanks _
  simp only [Written] at hwritten
  obtain ⟨chars, hchars, rfl⟩ := hwritten
  rw [List.cons_append, List.append_assoc, List.singleton_append]
  refine (reads_valueStart hblanks (by decide) _).bind ?_
  refine (reads_skip _ _).bind ((reads_string hchars s).bind ?_)
  rw [h]
  exact reads_pure a s

theorem rejects_textAs {content : Content} (h : ∀ value, content ≠ .text value) :
    Rejects (textAs expected make) content := by
  refine rejects_of_start fun c hopens => ?_
  have hquote : c ≠ '\x22' := by
    rintro rfl
    cases content <;> simp_all [Opens]
  simp only [Glyph.char.injEq, hquote, if_false]
  exact refuses_unexpected expected

theorem means_text (value : String) : Means Reader.text (.text value) value := means_textAs rfl

theorem judges_text (content : Content) : Judges Reader.text content := by
  cases content with
  | text value => exact (means_text value).judges
  | _ => exact (rejects_textAs (by simp)).judges

theorem means_bool (b : Bool) : Means Reader.bool (.bool b) b := by
  intro text blanks s hwritten hblanks _
  simp only [Written] at hwritten
  subst hwritten
  cases b <;>
    exact (reads_valueStart hblanks (by decide) _).bind
      ((reads_skip _ _).bind ((reads_word _ _).bind (reads_pure _ s)))

end Text

/-! ## Numbers -/

section Natural
variable {limit : Nat} {expected : String}

theorem means_natural {n : Nat} (h : n ≤ limit) (hlimit : limit ≤ wordLimit) :
    Means (natural limit expected) (.integer n) n := by
  intro text blanks s hwritten hblanks hs
  simp only [Written] at hwritten
  subst hwritten
  exact reads_natural hblanks expected h hlimit hs

theorem rejects_natural_of_integer {n : Int} (h : ¬ (0 ≤ n ∧ n ≤ limit)) :
    Rejects (natural limit expected) (.integer n) := by
  intro text blanks s hwritten hblanks hs
  simp only [Written] at hwritten
  subst hwritten
  exact fails_natural_of_integer hblanks expected h hs

theorem rejects_natural {content : Content} (h : ∀ n, content ≠ .integer n) :
    Rejects (natural limit expected) content := by
  by_cases hfraction : content = .fraction
  · subst hfraction
    intro text blanks s hwritten hblanks hs
    simp only [Written] at hwritten
    exact fails_natural_of_fraction hblanks expected hwritten hs
  · refine rejects_of_start fun c hopens => ?_
    have hnumber : ¬ (Glyph.char c = .char '-' ∨ (Glyph.char c).isDigit = true) := by
      rintro (hminus | hdigit)
      · cases hminus
        cases content <;> simp_all [Opens]
      · simp only [Glyph.isDigit] at hdigit
        have hletters : c ≠ 'n' ∧ c ≠ 't' ∧ c ≠ 'f' ∧ c ≠ '\x22' ∧ c ≠ '[' ∧ c ≠ '\x7b' := by
          refine ⟨?_, ?_, ?_, ?_, ?_, ?_⟩ <;> (rintro rfl; cases hdigit)
        cases content <;> simp_all [Opens]
    rw [if_neg hnumber]
    exact refuses_unexpected expected

theorem judges_natural (hlimit : limit ≤ wordLimit) (content : Content) :
    Judges (natural limit expected) content := by
  cases content with
  | integer n =>
    by_cases h : 0 ≤ n ∧ n ≤ limit
    · obtain ⟨k, rfl⟩ := Int.eq_ofNat_of_zero_le h.1
      exact (means_natural (Int.ofNat_le.mp h.2) hlimit).judges
    · exact (rejects_natural_of_integer h).judges
  | _ => exact (rejects_natural (by simp)).judges

end Natural

/-! ## Values that may be missing -/

section Optional
variable {α : Type} {r : Reader α} {content : Content}

theorem means_optional_null : Means (optional r) .null none := by
  intro text blanks s hwritten hblanks _
  simp only [Written] at hwritten
  subst hwritten
  refine (reads_peekToken_cons hblanks (by decide) _).bind ?_
  exact (reads_skip _ _).bind ((reads_word _ s).bind (reads_pure _ s))

/-- In front of anything else a missing value is not missing. -/
theorem leads_optional (h : content ≠ .null) {text blanks s : List Char}
    (hwritten : Written content text) (hblanks : Blanks blanks) :
    Leads (optional r) (blanks ++ (text ++ s)) (some <$> r) (text ++ s) := by
  obtain ⟨c, rest, rfl, hopens⟩ := starts_of_written hwritten
  refine ((reads_peekToken_cons hblanks hopens.isBlank _).leads _).trans ?_
  have hc : c ≠ 'n' := by
    rintro rfl
    cases content <;> simp_all [Opens]
  split
  · simp_all
  · exact fun line column => ⟨line, column, rfl⟩

theorem means_optional {a : α} (h : content ≠ .null) (hmeans : Means r content a) :
    Means (optional r) content (some a) := by
  intro text blanks s hwritten hblanks hs
  refine (leads_optional h hwritten hblanks).reads ?_
  exact (hmeans hwritten blanks_nil hs).bind (reads_pure _ s)

theorem judges_optional (h : Judges r content) : Judges (optional r) content := by
  by_cases hnull : content = .null
  · subst hnull
    exact means_optional_null.judges
  · intro text blanks s hwritten hblanks hs
    refine (leads_optional hnull hwritten hblanks).settles ?_
    exact (h hwritten blanks_nil hs).bind fun a => .inr ⟨some a, reads_pure _ s⟩

end Optional

end AlarmEscalation.Json
