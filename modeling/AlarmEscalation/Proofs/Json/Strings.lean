import AlarmEscalation.Json.Written
import AlarmEscalation.Proofs.Json.Reading

/-! # Strings and how they are written

A string has many written forms: every character may be escaped by its code, and some by a letter.
`WrittenChars` is the relation of characters and written forms. All of them are read as the
characters, and passed over where nobody asks for them. -/
namespace AlarmEscalation.Json

open Reader

/-- The text is an escape of the character, behind a backslash. -/
inductive Escape : Char → List Char → Prop
  | letter {l c : Char} : simpleEscape? l = some c → Escape c [l]
  | code {digits : List Char} {n : Nat} : digits.length = 4 →
      hexValue? (digits.map .char) = some n → n < 0xD800 ∨ 0xDFFF < n →
      Escape (Char.ofNat n) ('u' :: digits)
  /-- Characters beyond 16 bits take two codes. -/
  | pair {high low : List Char} {n m : Nat} : high.length = 4 → low.length = 4 →
      hexValue? (high.map .char) = some n → hexValue? (low.map .char) = some m →
      0xD800 ≤ n ∧ n ≤ 0xDBFF → 0xDC00 ≤ m ∧ m ≤ 0xDFFF →
      Escape (Char.ofNat ((n - 0xD800) * 1024 + (m - 0xDC00) + 0x10000))
        ('u' :: high ++ '\\' :: 'u' :: low)

/-- The text is a written form of the characters. -/
inductive WrittenChars : List Char → List Char → Prop
  | nil : WrittenChars [] []
  | plain {c : Char} {cs text : List Char} : c ≠ '\x22' → c ≠ '\\' → 0x20 ≤ c.toNat →
      WrittenChars cs text → WrittenChars (c :: cs) (c :: text)
  | escaped {c : Char} {cs code text : List Char} : Escape c code → WrittenChars cs text →
      WrittenChars (c :: cs) ('\\' :: (code ++ text))

/-- The text is a written form of the string, between quotes. -/
def WrittenString (s : String) (text : List Char) : Prop :=
  ∃ chars, WrittenChars s.toList chars ∧ text = '\x22' :: (chars ++ ['\x22'])

/-! ## Escapes -/

section Escapes
variable {digits : List Char} {n : Nat} (s : List Char)

theorem length_le_widthOf (s : List Char) : s.length ≤ widthOf (s.map .char) := by
  induction s with
  | nil => exact Nat.zero_le _
  | cons c rest ih =>
    have hc := c.utf8Size_pos
    simp only [List.map_cons, widthOf, Glyph.width, List.length_cons]
    omega

theorem reads_hexEscape (hlength : digits.length = 4)
    (hvalue : hexValue? (digits.map .char) = some n) :
    Reads hexEscape (digits ++ s) n s := by
  refine reads_get fun line column => ?_
  have hwide : ¬ widthOf ((digits ++ s).map .char) < 4 := by
    have h := length_le_widthOf (digits ++ s)
    rw [List.length_append, hlength] at h
    omega
  have htake : ((digits ++ s).map Glyph.char).take 4 = digits.map .char := by
    rw [List.map_append, List.take_left' (by simpa using hlength)]
  rw [if_neg hwide, htake]
  intro line' column'
  refine ⟨line, column + 4, ?_⟩
  have hdrop : ((digits ++ s).map Glyph.char).drop 4 = s.map .char := by
    rw [List.map_append, List.drop_left' (by simpa using hlength)]
  simp only [hvalue, ← hdrop]
  rfl

theorem reads_pairLetter (c : Char) : Reads (pairLetter c) (c :: s) () s := by
  refine (reads_peek _).bind ?_
  simp only [List.head?_cons, Option.map_some, if_true]
  exact reads_skip c s

theorem reads_unicodeEscape (hlength : digits.length = 4)
    (hvalue : hexValue? (digits.map .char) = some n) (h : n < 0xD800 ∨ 0xDFFF < n) :
    Reads unicodeEscape (digits ++ s) (Char.ofNat n) s := by
  refine (reads_hexEscape s hlength hvalue).bind ?_
  rw [if_neg (by omega), if_pos (by omega)]
  exact reads_pure _ s

theorem reads_unicodeEscape_pair {low : List Char} {m : Nat} (hlength : digits.length = 4)
    (hlow : low.length = 4) (hvalue : hexValue? (digits.map .char) = some n)
    (hlowValue : hexValue? (low.map .char) = some m) (hn : 0xD800 ≤ n ∧ n ≤ 0xDBFF)
    (hm : 0xDC00 ≤ m ∧ m ≤ 0xDFFF) :
    Reads unicodeEscape (digits ++ '\\' :: 'u' :: (low ++ s))
      (Char.ofNat ((n - 0xD800) * 1024 + (m - 0xDC00) + 0x10000)) s := by
  refine (reads_hexEscape _ hlength hvalue).bind ?_
  rw [if_neg (by omega), if_neg (by omega)]
  refine (reads_pairLetter _ '\\').bind ((reads_pairLetter _ 'u').bind ?_)
  refine (reads_hexEscape s hlow hlowValue).bind ?_
  rw [if_neg (by omega)]
  exact reads_pure _ s

theorem simpleEscape?_u : simpleEscape? 'u' = none := by decide

theorem ne_u_of_simpleEscape? {l c : Char} (h : simpleEscape? l = some c) :
    Glyph.char l ≠ .char 'u' := by
  intro hu
  cases hu
  simp [simpleEscape?_u] at h

theorem reads_escape {c : Char} {code : List Char} (h : Escape c code) :
    Reads escape (code ++ s) c s := by
  refine (reads_peek _).bind ?_
  cases h with
  | letter hletter =>
    simp only [List.cons_append, List.head?_cons, Option.map_some, ne_u_of_simpleEscape? hletter,
      if_false, Glyph.char?, Option.bind_some, hletter]
    exact (reads_skip _ _).bind (reads_pure _ _)
  | code hlength hvalue hn =>
    simp only [List.cons_append, List.head?_cons, Option.map_some, if_true]
    exact (reads_skip _ _).bind (reads_unicodeEscape s hlength hvalue hn)
  | pair hhigh hlow hvalue hlowValue hn hm =>
    simp only [List.cons_append, List.append_assoc, List.head?_cons, Option.map_some, if_true]
    exact (reads_skip _ _).bind (reads_unicodeEscape_pair s hhigh hlow hvalue hlowValue hn hm)

theorem reads_skipEscape_letter {l c : Char} (h : simpleEscape? l = some c) :
    Reads skipEscape (l :: s) () s := by
  refine (reads_peek _).bind ?_
  simp only [List.head?_cons, Option.map_some, ne_u_of_simpleEscape? h, if_false, Glyph.char?,
    Option.bind_some, h, Option.isSome_some, if_true]
  exact reads_skip _ _

theorem reads_skipEscape_code (hlength : digits.length = 4)
    (hvalue : hexValue? (digits.map .char) = some n) :
    Reads skipEscape ('u' :: (digits ++ s)) () s := by
  refine (reads_peek _).bind ?_
  simp only [List.head?_cons, Option.map_some, if_true]
  exact (reads_skip _ _).bind ((reads_hexEscape s hlength hvalue).bind (reads_pure _ _))

end Escapes

/-! ## Strings -/

section Steps
variable {fuel : Nat} {before t s : List Char} {a : String}

theorem reads_stringFrom_quote :
    Reads (stringFrom (fuel + 1) before none) ('\x22' :: s) (String.ofList before.reverse) s := by
  refine (reads_peek _).bind ?_
  simp only [List.head?_cons, Option.map_some, if_true]
  exact (reads_skip _ _).bind (reads_pure _ _)

theorem reads_stringFrom_plain {c : Char} (hquote : c ≠ '\x22') (hslash : c ≠ '\\')
    (hprints : 0x20 ≤ c.toNat) (h : Reads (stringFrom fuel (c :: before) none) t a s) :
    Reads (stringFrom (fuel + 1) before none) (c :: t) a s := by
  refine (reads_peek _).bind ?_
  simp only [List.head?_cons, Option.map_some, hquote, hslash, Nat.not_lt.mpr hprints, if_false]
  exact (reads_skip _ _).bind h

theorem reads_stringFrom_escaped {c : Char} {code : List Char} (hescape : Escape c code)
    (h : Reads (stringFrom fuel (c :: before) none) t a s) :
    Reads (stringFrom (fuel + 1) before none) ('\\' :: (code ++ t)) a s := by
  refine (reads_peek _).bind ?_
  simp only [List.head?_cons, Option.map_some, if_true]
  exact (reads_skip _ _).bind ((reads_escape t hescape).bind h)

theorem reads_skipStringFrom_quote : Reads (skipStringFrom (fuel + 1)) ('\x22' :: s) () s := by
  refine (reads_peek _).bind ?_
  simp only [List.head?_cons, Option.map_some, if_true]
  exact reads_skip _ _

theorem reads_skipStringFrom_plain {c : Char} (hquote : c ≠ '\x22') (hslash : c ≠ '\\')
    (hprints : 0x20 ≤ c.toNat) (h : Reads (skipStringFrom fuel) t () s) :
    Reads (skipStringFrom (fuel + 1)) (c :: t) () s := by
  refine (reads_peek _).bind ?_
  simp only [List.head?_cons, Option.map_some, Glyph.char.injEq, hquote, hslash, if_false,
    Glyph.char?, Option.any_some, decide_eq_true_eq, Nat.not_lt.mpr hprints]
  exact (reads_skip _ _).bind h

theorem reads_skipStringFrom_escape {u : List Char} (hescape : Reads skipEscape u () t)
    (h : Reads (skipStringFrom fuel) t () s) :
    Reads (skipStringFrom (fuel + 1)) ('\\' :: u) () s := by
  refine (reads_peek _).bind ?_
  simp only [List.head?_cons, Option.map_some, Glyph.char.injEq, if_true]
  exact (reads_skip _ _).bind (hescape.bind h)

/-- The two codes of a pair are passed over one after the other. -/
theorem reads_skipStringFrom_escaped {c : Char} {code : List Char} (hescape : Escape c code)
    {needed : Nat} (h : ∀ fuel, needed ≤ fuel → Reads (skipStringFrom (fuel + 1)) t () s)
    (hfuel : code.length + needed ≤ fuel) :
    Reads (skipStringFrom (fuel + 1)) ('\\' :: (code ++ t)) () s := by
  obtain ⟨fuel, rfl⟩ : ∃ n, fuel = n + 1 := ⟨fuel - 1, by cases hescape <;> grind⟩
  cases hescape with
  | letter hletter =>
    exact reads_skipStringFrom_escape (reads_skipEscape_letter t hletter) (h fuel (by grind))
  | code hlength hvalue hn =>
    exact reads_skipStringFrom_escape (reads_skipEscape_code t hlength hvalue) (h fuel (by grind))
  | pair hhigh hlow hvalue hlowValue hn hm =>
    obtain ⟨fuel, rfl⟩ : ∃ n, fuel = n + 1 := ⟨fuel - 1, by grind⟩
    rw [List.cons_append, List.cons_append, List.append_assoc]
    refine reads_skipStringFrom_escape (reads_skipEscape_code _ hhigh hvalue) ?_
    exact reads_skipStringFrom_escape (reads_skipEscape_code _ hlow hlowValue) (h fuel (by grind))

end Steps

section Strings
variable {cs text : List Char}

theorem reads_stringFrom (h : WrittenChars cs text) (s : List Char) (fuel : Nat)
    (before : List Char) (hfuel : text.length ≤ fuel) :
    Reads (stringFrom (fuel + 1) before none) (text ++ '\x22' :: s)
      (String.ofList (before.reverse ++ cs)) s := by
  induction h generalizing fuel before with
  | nil =>
    rw [List.append_nil]
    exact reads_stringFrom_quote
  | @plain c cs text hquote hslash hprints _ ih =>
    obtain ⟨fuel, rfl⟩ : ∃ n, fuel = n + 1 := ⟨fuel - 1, by grind⟩
    have hrest := ih fuel (c :: before) (by grind)
    rw [List.reverse_cons, List.append_assoc, List.singleton_append] at hrest
    exact reads_stringFrom_plain hquote hslash hprints hrest
  | @escaped c cs code text hescape _ ih =>
    obtain ⟨fuel, rfl⟩ : ∃ n, fuel = n + 1 := ⟨fuel - 1, by grind⟩
    have hrest := ih fuel (c :: before) (by grind)
    rw [List.reverse_cons, List.append_assoc, List.singleton_append] at hrest
    rw [List.cons_append, List.append_assoc]
    exact reads_stringFrom_escaped hescape hrest

theorem reads_skipStringFrom (h : WrittenChars cs text) (s : List Char) (fuel : Nat)
    (hfuel : text.length ≤ fuel) :
    Reads (skipStringFrom (fuel + 1)) (text ++ '\x22' :: s) () s := by
  induction h generalizing fuel with
  | nil => exact reads_skipStringFrom_quote
  | plain hquote hslash hprints _ ih =>
    obtain ⟨fuel, rfl⟩ : ∃ n, fuel = n + 1 := ⟨fuel - 1, by grind⟩
    exact reads_skipStringFrom_plain hquote hslash hprints (ih fuel (by grind))
  | @escaped c cs code text hescape _ ih =>
    rw [List.cons_append, List.append_assoc]
    exact reads_skipStringFrom_escaped hescape (fun fuel hfuel => ih fuel hfuel) (by grind)

end Strings

/-- A string is read, behind its opening quote. -/
theorem reads_string {a : String} {chars : List Char} (h : WrittenChars a.toList chars)
    (s : List Char) : Reads string (chars ++ '\x22' :: s) a s := by
  refine reads_get fun line column => ?_
  have hread := reads_stringFrom h s (chars ++ '\x22' :: s).length [] (by simp)
  simpa using hread

theorem reads_skipString {cs chars : List Char} (h : WrittenChars cs chars) (s : List Char) :
    Reads skipString (chars ++ '\x22' :: s) () s := by
  refine reads_get fun line column => ?_
  have hread := reads_skipStringFrom h s (chars ++ '\x22' :: s).length (by simp)
  simpa using hread

/-! ## The form in which strings are written -/

theorem hexValue?_control {n : Nat} (h : n < 0x20) :
    hexValue? (['0', '0', Nat.digitChar (n / 16), Nat.digitChar (n % 16)].map .char) = some n := by
  revert n
  decide

theorem escapedChar_cases (c : Char) :
    escapedChar c = [c] ∧ c ≠ '\x22' ∧ c ≠ '\\' ∧ 0x20 ≤ c.toNat ∨
      ∃ code, escapedChar c = '\\' :: code ∧ Escape c code := by
  by_cases hletter : c ∈ ['\x22', '\\', '\x08', '\x0c', '\n', '\r', '\t']
  · right
    simp only [List.mem_cons, List.not_mem_nil, or_false] at hletter
    rcases hletter with rfl | rfl | rfl | rfl | rfl | rfl | rfl
    · exact ⟨['\x22'], rfl, .letter (by decide)⟩
    · exact ⟨['\\'], rfl, .letter (by decide)⟩
    · exact ⟨['b'], rfl, .letter (by decide)⟩
    · exact ⟨['f'], rfl, .letter (by decide)⟩
    · exact ⟨['n'], rfl, .letter (by decide)⟩
    · exact ⟨['r'], rfl, .letter (by decide)⟩
    · exact ⟨['t'], rfl, .letter (by decide)⟩
  · simp only [List.mem_cons, List.not_mem_nil, or_false, not_or] at hletter
    obtain ⟨hquote, hslash, hback, hfeed, hline, hreturn, htab⟩ := hletter
    by_cases hcontrol : c.toNat < 0x20
    · right
      have hcode := Escape.code (n := c.toNat) rfl (hexValue?_control hcontrol) (.inl (by omega))
      rw [Char.ofNat_toNat] at hcode
      exact ⟨_, by simp [escapedChar, hquote, hslash, hback, hfeed, hline, hreturn, htab, hcontrol],
        hcode⟩
    · left
      exact ⟨by simp [escapedChar, hquote, hslash, hback, hfeed, hline, hreturn, htab, hcontrol],
        hquote, hslash, by omega⟩

theorem writtenChars_escaped (cs : List Char) : WrittenChars cs (cs.flatMap escapedChar) := by
  induction cs with
  | nil => exact .nil
  | cons c rest ih =>
    rw [List.flatMap_cons]
    rcases escapedChar_cases c with ⟨hsame, hquote, hslash, hprints⟩ | ⟨code, hcode, hescape⟩
    · rw [hsame]
      exact .plain hquote hslash hprints ih
    · rw [hcode]
      exact .escaped hescape ih

theorem writtenString_writeString (s : String) : WrittenString s (writeString s) :=
  ⟨_, writtenChars_escaped s.toList, rfl⟩

end AlarmEscalation.Json
