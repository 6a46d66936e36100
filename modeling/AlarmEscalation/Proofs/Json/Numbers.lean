import AlarmEscalation.Proofs.Json.Reading

/-! # Numbers and how they are written

An integer has one written form: its digits without a zero before them, behind a minus if it is
negative. All other numbers have a fraction or an exponent, or are the negative zero. The reader
keeps the two apart, so that nothing but an integer is ever taken for one. -/
namespace AlarmEscalation.Json

open Reader

def Digits (s : List Char) : Prop := s ≠ [] ∧ ∀ c ∈ s, c.isDigit = true

/-- Digits without a leading zero. -/
def Whole (s : List Char) : Prop := Digits s ∧ (s.head? = some '0' → s = ['0'])

def Fraction (s : List Char) : Prop := s = [] ∨ ∃ digits, Digits digits ∧ s = '.' :: digits

def Exponent (s : List Char) : Prop :=
  s = [] ∨ ∃ letter sign digits, (letter = 'e' ∨ letter = 'E') ∧
    (sign = [] ∨ sign = ['+'] ∨ sign = ['-']) ∧ Digits digits ∧ s = letter :: (sign ++ digits)

def writtenInteger (n : Int) : List Char :=
  (if n < 0 then ['-'] else []) ++ Nat.toDigits 10 n.natAbs

/-- The text is a written form of a number that is no integer. -/
def WrittenFraction (s : List Char) : Prop :=
  ∃ sign whole fraction exponent, (sign = [] ∨ sign = ['-']) ∧ Whole whole ∧ Fraction fraction ∧
    Exponent exponent ∧ s = sign ++ (whole ++ (fraction ++ exponent)) ∧
    (fraction ≠ [] ∨ exponent ≠ [] ∨ sign = ['-'] ∧ whole = ['0'])

/-! ## Digits -/

theorem isBlank_of_isDigit {c : Char} (h : c.isDigit = true) : isBlank c = false := by
  cases hblank : isBlank c with
  | false => rfl
  | true =>
    have hcases : c = ' ' ∨ c = '\t' ∨ c = '\r' ∨ c = '\n' := by
      simpa [isBlank, or_assoc] using hblank
    rcases hcases with rfl | rfl | rfl | rfl <;> cases h

/-- No digit stands at the beginning of the text. -/
def NoDigit (s : List Char) : Prop := ∀ c ∈ s.head?, c.isDigit = false

theorem Closed.noDigit {s : List Char} (h : Closed s) : NoDigit s := fun c hc => (h c hc).1

theorem noDigit_cons {c : Char} (h : c.isDigit = false) (s : List Char) : NoDigit (c :: s) := by
  simpa [NoDigit] using h

theorem Exponent.noDigit_append {exponent s : List Char} (h : Exponent exponent)
    (hs : NoDigit s) : NoDigit (exponent ++ s) := by
  rcases h with rfl | ⟨letter, _, _, hletter, -, -, rfl⟩
  · exact hs
  · rcases hletter with rfl | rfl <;> exact noDigit_cons rfl _

theorem Fraction.noDigit_append {fraction s : List Char} (h : Fraction fraction)
    (hs : NoDigit s) : NoDigit (fraction ++ s) := by
  rcases h with rfl | ⟨_, -, rfl⟩
  · exact hs
  · exact noDigit_cons rfl _

theorem takeWhile_isDigit {digits s : List Char} (h : ∀ c ∈ digits, c.isDigit = true)
    (hs : NoDigit s) :
    ((digits ++ s).map Glyph.char).takeWhile Glyph.isDigit = digits.map .char := by
  induction digits with
  | nil =>
    cases s with
    | nil => rfl
    | cons c rest =>
      have hc : c.isDigit = false := hs c (by simp)
      simp [Glyph.isDigit, hc]
  | cons c rest ih =>
    have hc : c.isDigit = true := h c (by simp)
    have hrest := ih fun d hd => h d (by simp [hd])
    simp only [List.cons_append, List.map_cons, List.takeWhile_cons, Glyph.isDigit, hc, if_true]
    rw [hrest]

theorem reads_digits {digits s : List Char} (h : ∀ c ∈ digits, c.isDigit = true)
    (hs : NoDigit s) :
    Reads Reader.digits (digits ++ s) (digits.map fun c => c.toNat - '0'.toNat) s := by
  intro line column
  refine ⟨line, column + digits.length, ?_⟩
  have hrun := takeWhile_isDigit h hs
  have hdrop :
      ((digits ++ s).map Glyph.char).drop (digits.map Glyph.char).length = s.map .char := by
    rw [List.map_append, List.drop_left]
  have hvalues : (digits.map Glyph.char).filterMap
      (fun g => g.char?.map fun c => c.toNat - '0'.toNat) =
        digits.map fun c => c.toNat - '0'.toNat := by
    rw [List.filterMap_map]
    simp [Function.comp_def, Glyph.char?]
  change (Except.ok (List.filterMap _ (List.takeWhile _ _)),
    Cursor.mk (List.drop (List.takeWhile _ _).length _) _ _) = _
  rw [hrun, hdrop, hvalues, List.length_map]

theorem le_foldl_digits (ds : List Nat) (value : Nat) :
    value ≤ ds.foldl (fun n d => n * 10 + d) value := by
  induction ds generalizing value with
  | nil => exact Nat.le_refl _
  | cons d rest ih =>
    have h := ih (value * 10 + d)
    simp only [List.foldl_cons]
    omega

theorem gather_of_le (limit : Nat) {ds : List Nat} {value : Nat}
    (h : ds.foldl (fun n d => n * 10 + d) value ≤ limit) :
    gather limit value ds = (ds.foldl (fun n d => n * 10 + d) value, []) := by
  induction ds generalizing value with
  | nil => rfl
  | cons d rest ih =>
    have hle := le_foldl_digits rest (value * 10 + d)
    rw [List.foldl_cons] at h ⊢
    rw [gather, if_neg (by omega)]
    exact ih h

theorem gather_of_lt (limit : Nat) {ds : List Nat} {value : Nat} (hvalue : value ≤ limit)
    (h : limit < ds.foldl (fun n d => n * 10 + d) value) : (gather limit value ds).2 ≠ [] := by
  induction ds generalizing value with
  | nil =>
    rw [List.foldl_nil] at h
    omega
  | cons d rest ih =>
    rw [gather]
    split
    · exact List.cons_ne_nil _ _
    · exact ih (by omega) h

theorem foldl_toDigits (n : Nat) :
    ((Nat.toDigits 10 n).map fun c => c.toNat - '0'.toNat).foldl (fun n d => n * 10 + d) 0 = n := by
  have h := Nat.ofDigitChars_ten_toDigits (n := n)
  rw [Nat.ofDigitChars_eq_foldl] at h
  rw [List.foldl_map]
  simpa only [Nat.mul_comm] using h

theorem digits_toDigits (n : Nat) : Digits (Nat.toDigits 10 n) :=
  ⟨Nat.toDigits_ne_nil, fun _ h => Nat.isDigit_of_mem_toDigits (by decide) (by decide) h⟩

theorem head?_toDigits {n : Nat} (h : 0 < n) : (Nat.toDigits 10 n).head? ≠ some '0' := by
  induction n using Nat.strongRecOn with
  | _ n ih =>
    rcases Nat.lt_or_ge n 10 with hsmall | hlarge
    · have hdigit : ∀ n < 10, 0 < n → [Nat.digitChar n].head? ≠ some '0' := by decide
      rw [Nat.toDigits_of_lt_base hsmall]
      exact hdigit n hsmall h
    · obtain ⟨c, rest, hrest⟩ :=
        List.exists_cons_of_ne_nil (Nat.toDigits_ne_nil (n := n / 10) (b := 10))
      have hhead := ih (n / 10) (by omega) (by omega)
      rw [Nat.toDigits_of_base_le (by decide) hlarge, hrest]
      rwa [hrest] at hhead

theorem whole_toDigits (n : Nat) : Whole (Nat.toDigits 10 n) := by
  refine ⟨digits_toDigits n, fun hzero => ?_⟩
  rcases Nat.eq_zero_or_pos n with rfl | hpos
  · rfl
  · exact absurd hzero (head?_toDigits hpos)

/-! ## Numbers -/

/-- No integer is found in the text. -/
def NoInteger (r : Reader Number) (s : List Char) : Prop :=
  ∀ line column n c, r.run ⟨s.map .char, line, column⟩ ≠ (.ok (.integer n), c)

theorem Leads.noInteger {r r' : Reader Number} {s t : List Char} (h : Leads r s r' t)
    (h' : NoInteger r' t) : NoInteger r s := by
  intro line column n c hrun
  obtain ⟨line', column', hr⟩ := h line column
  exact h' line' column' n c (hr.symm.trans hrun)

theorem noInteger_float (r : Reader Float) (s : List Char) :
    NoInteger (r >>= fun x => pure (.float x)) s := by
  intro line column n c hrun
  cases hr : r.run ⟨s.map .char, line, column⟩ with
  | mk result c' =>
    cases result with
    | error e =>
      rw [run_bind_of_error hr] at hrun
      cases hrun
    | ok x =>
      rw [run_bind_of_ok hr] at hrun
      cases hrun

section AfterInteger
variable {s : List Char} {positive : Bool} {significand dropped : Nat}

theorem Closed.head (h : Closed s) : s.head?.map Glyph.char ≠ some (.char '.') ∧
    s.head?.map Glyph.char ≠ some (.char 'e') ∧ s.head?.map Glyph.char ≠ some (.char 'E') := by
  cases s with
  | nil => simp
  | cons c rest =>
    obtain ⟨-, hdot, hsmall, hlarge⟩ := h c (by simp)
    simp [hdot, hsmall, hlarge]

/-- Where nothing goes on, the digits are all there is. -/
theorem leads_afterInteger (h : Closed s) (hdropped : dropped = 0) :
    Leads (afterInteger positive significand dropped) s
      (if positive then pure (.integer significand)
        else if significand = 0 ∨ 9223372036854775808 < significand then
          pure (.float (-significand.toUInt64.toFloat))
        else pure (.integer (-significand))) s := by
  obtain ⟨hdot, hsmall, hlarge⟩ := h.head
  refine ((reads_peek s).leads _).trans ?_
  split
  · rename_i heq
    exact absurd heq hdot
  · rename_i heq
    exact absurd heq hsmall
  · rename_i heq
    exact absurd heq hlarge
  · rw [if_neg (by simpa using hdropped)]
    exact fun line column => ⟨line, column, rfl⟩

theorem noInteger_afterInteger_of_dropped (h : Closed s) (hdropped : dropped ≠ 0) :
    NoInteger (afterInteger positive significand dropped) s := by
  obtain ⟨hdot, hsmall, hlarge⟩ := h.head
  refine ((reads_peek s).leads _).noInteger ?_
  split
  · rename_i heq
    exact absurd heq hdot
  · rename_i heq
    exact absurd heq hsmall
  · rename_i heq
    exact absurd heq hlarge
  · rw [if_pos hdropped]
    exact noInteger_float _ s

theorem noInteger_afterInteger_of_continued {c : Char} (h : c = '.' ∨ c = 'e' ∨ c = 'E') :
    NoInteger (afterInteger positive significand dropped) (c :: s) := by
  refine ((reads_peek _).leads _).noInteger ?_
  rcases h with rfl | rfl | rfl <;> exact noInteger_float _ _

end AfterInteger

/-- The digits before the point are gathered, as far as they fit in a word. -/
theorem leads_number {whole s : List Char} (hwhole : Whole whole) (hs : NoDigit s)
    (positive : Bool) :
    let gathered := gather wordLimit 0 (whole.map fun c => c.toNat - '0'.toNat)
    Leads (number positive) (whole ++ s)
      (afterInteger positive gathered.1 gathered.2.length) s := by
  obtain ⟨⟨hne, hdigits⟩, hzero⟩ := hwhole
  obtain ⟨c, rest, rfl⟩ := List.exists_cons_of_ne_nil hne
  have hc : c.isDigit = true := hdigits c (by simp)
  refine ((reads_peek _).leads _).trans ?_
  by_cases hc0 : c = '0'
  · subst hc0
    obtain rfl : rest = [] := by simpa using hzero rfl
    refine ((reads_skip _ _).leads _).trans (((reads_peek s).leads _).trans ?_)
    cases s with
    | nil => exact fun line column => ⟨line, column, rfl⟩
    | cons d s =>
      have hd : d.isDigit = false := hs d (by simp)
      simp only [List.head?_cons, Option.map_some, Glyph.isDigit, hd, Bool.false_eq_true, if_false]
      exact fun line column => ⟨line, column, rfl⟩
  · simp only [List.cons_append, List.head?_cons, Option.map_some]
    split
    · rename_i heq
      simp_all
    · rename_i g _ heq
      obtain rfl : Glyph.char c = g := by simpa using heq
      simp only [Glyph.isDigit, hc, if_true]
      exact (reads_digits hdigits hs).leads _
    · rename_i heq
      cases heq

/-! ## Natural numbers -/

/-- What is made of a number where a natural number is asked for. -/
def asNatural (limit : Nat) (expected : String) : Number → Reader Nat
  | .float value => mismatch (.invalidType (.float value) expected)
  | .integer value =>
    if 0 ≤ value ∧ value ≤ limit then return value.toNat
    else mismatch (.invalidValue (.integer value) expected)

section Natural
variable {blanks s : List Char} (hblanks : Blanks blanks) {limit : Nat} (expected : String)

theorem refuses_asNatural_of_not_le {n : Int} (h : ¬ (0 ≤ n ∧ n ≤ limit)) :
    Refuses (asNatural limit expected (.integer n)) := by
  rw [asNatural, if_neg h]
  exact refuses_mismatch _

theorem NoInteger.fails {r : Reader Number} {s : List Char} (h : NoInteger r s) :
    Fails (r >>= asNatural limit expected) s := by
  intro line column
  cases hr : r.run ⟨s.map .char, line, column⟩ with
  | mk result c =>
    cases result with
    | error e => exact ⟨e, c, run_bind_of_error hr⟩
    | ok found =>
      cases found with
      | integer n => exact absurd hr (h line column n c)
      | float x =>
        obtain ⟨e, c', hrun⟩ := refuses_mismatch (α := Nat) (.invalidType (.float x) expected) c
        exact ⟨e, c', (run_bind_of_ok hr).trans hrun⟩

include hblanks in
theorem leads_natural {sign whole : List Char} (hsign : sign = [] ∨ sign = ['-'])
    (hwhole : Digits whole) :
    Leads (natural limit expected) (blanks ++ (sign ++ (whole ++ s)))
      (number (sign = []) >>= asNatural limit expected) (whole ++ s) := by
  obtain ⟨c, rest, rfl⟩ := List.exists_cons_of_ne_nil hwhole.1
  have hc : c.isDigit = true := hwhole.2 c (by simp)
  rcases hsign with rfl | rfl
  · have hminus : Glyph.char c ≠ .char '-' := by
      rintro ⟨rfl⟩
      cases hc
    refine ((reads_valueStart hblanks (isBlank_of_isDigit hc) _).leads _).trans ?_
    rw [if_pos (.inr hc), if_neg hminus]
    exact fun line column => ⟨line, column, rfl⟩
  · refine ((reads_valueStart hblanks (by decide) _).leads _).trans ?_
    rw [if_pos (.inl rfl), if_pos rfl]
    exact ((reads_skip _ _).leads fun _ => number false).bind _

/-- How the digits of an integer are read, behind its sign. -/
theorem number_toDigits (n : Nat) (hs : Closed s) (positive : Bool) :
    n ≤ wordLimit ∧ Leads (number positive) (Nat.toDigits 10 n ++ s)
      (if positive then pure (.integer n)
        else if n = 0 ∨ 9223372036854775808 < n then pure (.float (-n.toUInt64.toFloat))
        else pure (.integer (-n))) s ∨
      wordLimit < n ∧ NoInteger (number positive) (Nat.toDigits 10 n ++ s) := by
  have hleads := leads_number (whole_toDigits n) hs.noDigit positive
  have hvalue := foldl_toDigits n
  rcases Nat.lt_or_ge wordLimit n with hlarge | hfits
  · right
    have hdropped := gather_of_lt wordLimit (Nat.zero_le _) (hvalue.symm ▸ hlarge)
    refine ⟨hlarge, hleads.noInteger (noInteger_afterInteger_of_dropped hs ?_)⟩
    simpa using hdropped
  · left
    have hgather := gather_of_le wordLimit (hvalue.symm ▸ hfits)
    rw [hvalue] at hgather
    simp only [hgather] at hleads
    exact ⟨hfits, hleads.trans (leads_afterInteger hs rfl)⟩

include hblanks in
theorem reads_natural {n : Nat} (h : n ≤ limit) (hlimit : limit ≤ wordLimit) (hs : Closed s) :
    Reads (natural limit expected) (blanks ++ (writtenInteger n ++ s)) n s := by
  refine (leads_natural hblanks expected (.inl rfl) (digits_toDigits n)).reads ?_
  rcases number_toDigits n hs true with ⟨-, hleads⟩ | ⟨hlarge, -⟩
  · refine (hleads.bind _).reads ((reads_pure _ s).bind ?_)
    rw [asNatural, if_pos (by omega), Int.toNat_natCast]
    exact reads_pure n s
  · omega

include hblanks in
/-- An integer beyond the limit, or below zero, is refused. -/
theorem fails_natural_of_integer {n : Int} (h : ¬ (0 ≤ n ∧ n ≤ limit)) (hs : Closed s) :
    Fails (natural limit expected) (blanks ++ (writtenInteger n ++ s)) := by
  rw [writtenInteger, List.append_assoc]
  have hsign : (if n < 0 then ['-'] else []) = [] ∨ (if n < 0 then ['-'] else []) = ['-'] := by
    split <;> simp
  refine (leads_natural hblanks expected hsign (digits_toDigits n.natAbs)).fails ?_
  rcases number_toDigits n.natAbs hs _ with ⟨-, hleads⟩ | ⟨-, hnone⟩
  · refine (hleads.bind _).fails ?_
    by_cases hnegative : n < 0
    · simp only [hnegative, if_true, List.cons_ne_nil, decide_false, Bool.false_eq_true, if_false]
      split
      · exact (reads_pure _ s).bind_fails ((refuses_mismatch _).fails s)
      · refine (reads_pure _ s).bind_fails ((refuses_asNatural_of_not_le expected ?_).fails s)
        omega
    · simp only [hnegative, if_false, decide_true, if_true]
      refine (reads_pure _ s).bind_fails ((refuses_asNatural_of_not_le expected ?_).fails s)
      omega
  · exact hnone.fails expected

include hblanks in
theorem fails_natural_of_fraction {text : List Char} (h : WrittenFraction text) (hs : Closed s) :
    Fails (natural limit expected) (blanks ++ (text ++ s)) := by
  obtain ⟨sign, whole, fraction, exponent, hsign, hwhole, hfraction, hexponent, rfl, hreally⟩ := h
  simp only [List.append_assoc]
  refine (leads_natural hblanks expected hsign hwhole.1).fails (NoInteger.fails expected ?_)
  rcases hfraction with rfl | ⟨digits, hdigits, rfl⟩
  · rcases hexponent with rfl | ⟨letter, esign, digits, hletter, -, -, rfl⟩
    · -- nothing is left but the negative zero
      obtain ⟨rfl, rfl⟩ : sign = ['-'] ∧ whole = ['0'] := by simpa using hreally
      refine (leads_number hwhole hs.noDigit _).noInteger ?_
      refine (leads_afterInteger hs rfl).noInteger ?_
      rintro line column n c ⟨⟩
    · have hnot : NoDigit (letter :: (esign ++ digits) ++ s) := by
        rcases hletter with rfl | rfl <;> exact noDigit_cons rfl _
      refine (leads_number hwhole hnot _).noInteger ?_
      exact noInteger_afterInteger_of_continued (.inr hletter)
  · refine (leads_number hwhole (noDigit_cons rfl _) _).noInteger ?_
    exact noInteger_afterInteger_of_continued (.inl rfl)

end Natural

/-! ## Numbers that are passed over -/

section Skipped
variable {s : List Char}

/-- Digits are passed over where they have to be some. -/
theorem reads_someDigits {digits : List Char} (h : Digits digits) (hs : NoDigit s)
    {f : List Nat → Reader Unit} {t : List Char} (hf : ∀ d ds, Reads (f (d :: ds)) s () t) :
    Reads (Reader.digits >>= f) (digits ++ s) () t := by
  obtain ⟨c, more, rfl⟩ := List.exists_cons_of_ne_nil h.1
  exact (reads_digits h.2 hs).bind (hf _ _)

theorem reads_skipExponent {letter : Char} {sign digits : List Char}
    (hsign : sign = [] ∨ sign = ['+'] ∨ sign = ['-']) (hdigits : Digits digits) (hs : Closed s) :
    Reads skipExponent (letter :: (sign ++ (digits ++ s))) () s := by
  refine (reads_skip _ _).bind ((reads_peek _).bind ?_)
  rcases hsign with rfl | rfl | rfl
  · have hhead : ∀ c ∈ (digits ++ s).head?, c.isDigit = true := by
      obtain ⟨c, more, rfl⟩ := List.exists_cons_of_ne_nil hdigits.1
      simpa using hdigits.2 c (by simp)
    rw [List.nil_append]
    split
    · rename_i heq
      cases hhead '+' (by simpa using heq)
    · rename_i heq
      cases hhead '-' (by simpa using heq)
    · exact reads_someDigits hdigits hs.noDigit fun _ _ => reads_pure () s
  · exact (reads_skip _ _).bind (reads_someDigits hdigits hs.noDigit fun _ _ => reads_pure () s)
  · exact (reads_skip _ _).bind (reads_someDigits hdigits hs.noDigit fun _ _ => reads_pure () s)

theorem reads_skipExponentIfAny {exponent : List Char} (h : Exponent exponent) (hs : Closed s) :
    Reads skipExponentIfAny (exponent ++ s) () s := by
  refine (reads_peek _).bind ?_
  rcases h with rfl | ⟨letter, sign, digits, hletter, hsign, hdigits, rfl⟩
  · obtain ⟨-, hsmall, hlarge⟩ := hs.head
    split
    · rename_i heq
      exact absurd heq hsmall
    · rename_i heq
      exact absurd heq hlarge
    · exact reads_pure () s
  · rw [List.cons_append, List.append_assoc]
    rcases hletter with rfl | rfl <;> exact reads_skipExponent hsign hdigits hs

theorem reads_skipAfterInteger {fraction exponent : List Char} (hfraction : Fraction fraction)
    (hexponent : Exponent exponent) (hs : Closed s) :
    Reads skipAfterInteger (fraction ++ (exponent ++ s)) () s := by
  have hrest := reads_skipExponentIfAny hexponent hs
  refine (reads_peek _).bind ?_
  rcases hfraction with rfl | ⟨digits, hdigits, rfl⟩
  · have hdot : (exponent ++ s).head?.map Glyph.char ≠ some (.char '.') := by
      rcases hexponent with rfl | ⟨letter, sign, digits, hletter, -, -, rfl⟩
      · exact hs.head.1
      · rcases hletter with rfl | rfl <;> simp
    split
    · rename_i heq
      exact absurd heq hdot
    · exact hrest
  · have hnot := hexponent.noDigit_append hs.noDigit
    exact (reads_skip _ _).bind (reads_someDigits hdigits hnot fun _ _ => hrest)

theorem reads_skipNumber {whole fraction exponent : List Char} (hwhole : Whole whole)
    (hfraction : Fraction fraction) (hexponent : Exponent exponent) (hs : Closed s) :
    Reads skipNumber (whole ++ (fraction ++ (exponent ++ s))) () s := by
  have hafter := reads_skipAfterInteger hfraction hexponent hs
  have hnot := hfraction.noDigit_append (hexponent.noDigit_append hs.noDigit)
  have hend : fraction ++ (exponent ++ s) = [] → s = [] := by simp
  generalize fraction ++ (exponent ++ s) = after at hafter hnot hend
  obtain ⟨⟨hne, hdigits⟩, hzero⟩ := hwhole
  obtain ⟨c, rest, rfl⟩ := List.exists_cons_of_ne_nil hne
  have hc : c.isDigit = true := hdigits c (by simp)
  refine (reads_peek _).bind ?_
  by_cases hc0 : c = '0'
  · subst hc0
    obtain rfl : rest = [] := by simpa using hzero rfl
    refine (reads_skip _ _).bind ((reads_peek after).bind ?_)
    cases after with
    | nil =>
      rw [hend rfl]
      exact reads_pure () []
    | cons d more =>
      have hd : d.isDigit = false := hnot d (by simp)
      simp only [List.head?_cons, Option.map_some, Glyph.isDigit, hd, Bool.false_eq_true, if_false]
      exact hafter
  · simp only [List.cons_append, List.head?_cons, Option.map_some]
    split
    · rename_i heq
      simp_all
    · rename_i g _ heq
      obtain rfl : Glyph.char c = g := by simpa using heq
      simp only [Glyph.isDigit, hc, if_true]
      refine Reads.bind (a := ()) (t := after) ?_ hafter
      exact (reads_digits hdigits hnot).bind (reads_pure _ _)
    · rename_i heq
      cases heq

end Skipped

end AlarmEscalation.Json
