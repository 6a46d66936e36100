import AlarmEscalation.Proofs.Time.Calendar
import AlarmEscalation.Time.Read
import AlarmEscalation.Time.Written

/-! # Written instants are read back

Every part of a written instant ends where no digit follows, so the reader, which takes as many
digits as it can get, takes just that part.

A clock shows a leap second at the end of a minute only, as second 60. The written form has no name
for one in the middle of a minute: it names the second behind it, and that is what is read. -/
namespace AlarmEscalation.Instant

/-- The text does not go on with a digit. -/
def Ends (s : List Char) : Prop := ∀ c ∈ s.head?, c.isDigit = false

theorem ends_cons {c : Char} (h : c.isDigit = false) (s : List Char) : Ends (c :: s) := by
  simpa [Ends] using h

section Steps
variable {α β : Type} {r : Reader α} {f : α → Reader β} {s t : List Char} {a : α}

theorem bind_of_ok (h : r s = .ok (a, t)) : (r >>= f) s = f a t := by
  change (r s >>= fun (a, t) => f a t) = f a t
  rw [h]
  rfl

end Steps

/-! ## Padded numbers -/

theorem length_padded {width n : Nat} (h : (Nat.toDigits 10 n).length ≤ width) :
    (padded width n).length = width := by
  simp only [padded, List.length_append, List.length_replicate]
  omega

theorem isDigit_of_mem_padded {width n : Nat} {c : Char} (h : c ∈ padded width n) :
    c.isDigit = true := by
  rcases List.mem_append.mp h with hzero | hdigit
  · rw [List.eq_of_mem_replicate hzero]
    rfl
  · exact Nat.isDigit_of_mem_toDigits (by decide) (by decide) hdigit

theorem padded_ne_nil (width n : Nat) : padded width n ≠ [] := by
  simp [padded, Nat.toDigits_ne_nil]

theorem isBlank_of_isDigit {c : Char} (h : c.isDigit = true) : Text.isBlank c = false := by
  have hrange : 48 ≤ c.toNat ∧ c.toNat ≤ 57 := by
    simp only [Char.isDigit, Bool.and_eq_true, decide_eq_true_eq, ge_iff_le,
      UInt32.le_iff_toNat_le] at h
    exact h
  simp only [Text.isBlank, Bool.or_eq_false_iff, Bool.and_eq_false_iff, decide_eq_false_iff_not,
    beq_eq_false_iff_ne]
  omega

theorem ofDigitChars_padded (width n : Nat) : Nat.ofDigitChars 10 (padded width n) 0 = n := by
  rw [padded, Nat.ofDigitChars_append, Nat.ofDigitChars_replicate_zero, Nat.mul_zero]
  exact Nat.ofDigitChars_ten_toDigits

theorem le_ofDigitChars (digits : List Char) (value : Nat) :
    value ≤ Nat.ofDigitChars 10 digits value := by
  induction digits generalizing value with
  | nil => exact Nat.le_refl value
  | cons c digits ih =>
    have h := ih (10 * value + (c.toNat - '0'.toNat))
    rw [Nat.ofDigitChars_cons]
    omega

theorem readDigits_append {digits rest : List Char} (hdigits : ∀ c ∈ digits, c.isDigit = true)
    (hrest : Ends rest) {width : Nat} (value : Nat) (hwidth : digits.length ≤ width)
    (hlimit : Nat.ofDigitChars 10 digits value ≤ fieldLimit) :
    readDigits width value (digits ++ rest) = .ok (Nat.ofDigitChars 10 digits value, rest) := by
  induction digits generalizing width value with
  | nil =>
    cases width with
    | zero => rfl
    | succ width =>
      cases rest with
      | nil => rfl
      | cons c rest =>
        have hc : c.isDigit = false := hrest c (by simp)
        simp [readDigits, hc]
  | cons c digits ih =>
    obtain ⟨width, rfl⟩ : ∃ w, width = w + 1 := ⟨width - 1, by simp at hwidth; omega⟩
    have hc : c.isDigit = true := hdigits c (by simp)
    have hmore : ∀ d ∈ digits, d.isDigit = true := fun d hd => hdigits d (by simp [hd])
    rw [Nat.ofDigitChars_cons, Nat.mul_comm] at hlimit ⊢
    have hnext := le_ofDigitChars digits (value * 10 + (c.toNat - '0'.toNat))
    rw [List.cons_append, readDigits, if_pos hc]
    simp only [if_neg (show ¬ fieldLimit < value * 10 + (c.toNat - '0'.toNat) by omega)]
    exact ih hmore _ (by simpa using hwidth) hlimit

section Padded
variable {rest : List Char} (hrest : Ends rest) {width n : Nat}
include hrest

theorem readNumber_padded {least : Nat} (hwidth : (padded least n).length ≤ width)
    (hlimit : n ≤ fieldLimit) : readNumber width (padded least n ++ rest) = .ok (n, rest) := by
  have hread := readDigits_append (fun c hc => isDigit_of_mem_padded hc) hrest 0 hwidth
    (by rwa [ofDigitChars_padded])
  rw [ofDigitChars_padded] at hread
  obtain ⟨c, digits, heq⟩ := List.exists_cons_of_ne_nil (padded_ne_nil least n)
  have hc : c.isDigit = true := isDigit_of_mem_padded (by rw [heq]; simp)
  rw [heq] at hread ⊢
  rw [List.cons_append, readNumber, if_pos hc]
  exact hread

omit hrest in
theorem dropBlanks_padded (least : Nat) :
    Text.dropBlanks (padded least n ++ rest) = padded least n ++ rest := by
  obtain ⟨c, digits, heq⟩ := List.exists_cons_of_ne_nil (padded_ne_nil least n)
  have hc : c.isDigit = true := isDigit_of_mem_padded (by rw [heq]; simp)
  rw [heq, List.cons_append, Text.dropBlanks, List.dropWhile_cons, isBlank_of_isDigit hc]
  rfl

end Padded

theorem readField_padded {rest : List Char} (hrest : Ends rest) {low high n : Nat} (hlow : low ≤ n)
    (hhigh : n ≤ high) (hsmall : high < 100) :
    readField low high (padded 2 n ++ rest) = .ok (n, rest) := by
  have hdigits : (Nat.toDigits 10 n).length ≤ 2 :=
    (Nat.length_toDigits_le_iff (by decide) (by decide)).mpr (by omega)
  have hlimit : n ≤ fieldLimit := Nat.le_trans (show n ≤ 100 by omega) (by decide)
  have hread := readNumber_padded hrest (Nat.le_of_eq (length_padded hdigits)) hlimit
  have hskip : skipBlanks (padded 2 n ++ rest) = .ok ((), padded 2 n ++ rest) := by
    rw [skipBlanks, dropBlanks_padded]
  rw [readField, bind_of_ok hskip, bind_of_ok hread, if_pos ⟨hlow, hhigh⟩]
  rfl

theorem readMark_cons {mark : Char} (h : Text.isBlank mark = false) (rest : List Char) :
    readMark mark (mark :: rest) = .ok ((), rest) := by
  simp [readMark, Text.dropBlanks, h]

/-! ## Years and fractions -/

theorem readSignedYear_padded {rest : List Char} (hrest : Ends rest) {n : Nat} (h : n ≤ 9999) :
    readSignedYear (padded 4 n ++ rest) = .ok ((n : Int), rest) := by
  have hdigits : (Nat.toDigits 10 n).length ≤ 4 :=
    (Nat.length_toDigits_le_iff (by decide) (by decide)).mpr (by omega)
  have hread := readNumber_padded hrest (Nat.le_of_eq (length_padded hdigits))
    (Nat.le_trans h (by decide))
  obtain ⟨c, digits, heq⟩ := List.exists_cons_of_ne_nil (padded_ne_nil 4 n)
  have hc : c.isDigit = true := isDigit_of_mem_padded (by rw [heq]; simp)
  have hsigns : c ≠ '-' ∧ c ≠ '+' := by
    constructor <;> (rintro rfl; cases hc)
  rw [heq, List.cons_append] at hread ⊢
  unfold readSignedYear
  split
  · simp_all
  · simp_all
  · rw [hread]
    rfl

theorem readYear_writtenYear {rest : List Char} (hrest : Ends rest) {year : Int}
    (hlow : -262143 ≤ year) (hhigh : year ≤ 262142) :
    readYear (writtenYear year ++ rest) = .ok (year, rest) := by
  have hskip : skipBlanks (writtenYear year ++ rest) = .ok ((), writtenYear year ++ rest) := by
    rw [writtenYear]
    split
    · rw [skipBlanks, dropBlanks_padded]
    · split <;> rfl
  have hread : readSignedYear (writtenYear year ++ rest) = .ok (year, rest) := by
    have hlimit : year.natAbs ≤ fieldLimit :=
      Nat.le_trans (show year.natAbs ≤ 262143 by omega) (by decide)
    have hnumber : readNumber (padded 4 year.natAbs ++ rest).length
        (padded 4 year.natAbs ++ rest) = .ok (year.natAbs, rest) :=
      readNumber_padded hrest (by simp) hlimit
    rw [writtenYear]
    split
    · next hplain =>
      rw [readSignedYear_padded hrest (by omega), Int.toNat_of_nonneg hplain.1]
    · by_cases hnegative : year < 0
      · rw [if_pos hnegative, List.cons_append, readSignedYear, hnumber]
        simp only [bind, Except.bind, Except.ok.injEq, Prod.mk.injEq, and_true]
        omega
      · rw [if_neg hnegative, List.cons_append, readSignedYear, hnumber]
        simp only [bind, Except.bind, Except.ok.injEq, Prod.mk.injEq, and_true]
        omega
  rw [readYear, bind_of_ok hskip, bind_of_ok hread, if_pos (by omega)]
  rfl

theorem readFraction_padded {rest : List Char} (hrest : Ends rest) {width value : Nat}
    (h : (Nat.toDigits 10 value).length ≤ width) (hlimit : value ≤ fieldLimit)
    (hwidth : width ≤ 9) :
    readFraction ('.' :: (padded width value ++ rest)) =
      .ok (value * Nat.pow 10 (9 - width), rest) := by
  have hlength := length_padded h
  have hdrop : rest.dropWhile Char.isDigit = rest := by
    cases rest with
    | nil => rfl
    | cons c rest => rw [List.dropWhile_cons, hrest c (by simp)]; rfl
  have hcount : (padded width value ++ rest).length - rest.length = width := by
    rw [List.length_append, hlength, Nat.add_sub_cancel]
  rw [readFraction, readNumber_padded hrest (by omega) hlimit]
  simp only [bind, Except.bind, hdrop, hcount]

theorem ends_writtenFraction {rest : List Char} (hrest : Ends rest) (nanos : Nat) :
    Ends (writtenFraction nanos ++ rest) := by
  unfold writtenFraction
  split
  · exact hrest
  split
  · exact ends_cons rfl _
  split <;> exact ends_cons rfl _

theorem readFraction_writtenFraction {rest : List Char} (hrest : Ends rest)
    (hdot : ∀ c ∈ rest.head?, c ≠ '.') {nanos : Nat} (h : nanos < nanosPerSecond) :
    readFraction (writtenFraction nanos ++ rest) = .ok (nanos, rest) := by
  have hnanos : nanos < 1000000000 := h
  have hlimit {value : Nat} (hvalue : value < 1000000000) : value ≤ fieldLimit :=
    Nat.le_trans (Nat.le_of_lt hvalue) (by decide)
  have hdigits {width value : Nat} (hpos : 0 < width) (hvalue : value < 10 ^ width) :
      (Nat.toDigits 10 value).length ≤ width :=
    (Nat.length_toDigits_le_iff (by decide) hpos).mpr hvalue
  unfold writtenFraction
  split
  · next hzero =>
    subst hzero
    cases rest with
    | nil => rfl
    | cons c rest =>
      have hc : c ≠ '.' := hdot c (by simp)
      simp [readFraction, hc]
  split
  · rw [List.cons_append, readFraction_padded hrest (hdigits (by decide) (by omega))
      (hlimit (by omega)) (by decide)]
    simp only [Except.ok.injEq, Prod.mk.injEq, and_true, Nat.pow_eq, Nat.reduceSub, Nat.reducePow]
    omega
  split
  · rw [List.cons_append, readFraction_padded hrest (hdigits (by decide) (by omega))
      (hlimit (by omega)) (by decide)]
    simp only [Except.ok.injEq, Prod.mk.injEq, and_true, Nat.pow_eq, Nat.reduceSub, Nat.reducePow]
    omega
  · rw [List.cons_append, readFraction_padded hrest (hdigits (by decide) (by omega))
      (hlimit (by omega)) (by decide)]
    simp

/-! ## Dates and times of day -/

theorem readDate_written {rest : List Char} (hrest : Ends rest) {date : Date}
    (hyear : -262143 ≤ date.year ∧ date.year ≤ 262142) (hmonth : 1 ≤ date.month ∧ date.month ≤ 12)
    (hday : 1 ≤ date.day ∧ date.day ≤ 31) :
    readDate (writtenYear date.year ++ '-' :: (padded 2 date.month ++ '-' ::
      (padded 2 date.day ++ rest))) = .ok (date, rest) := by
  have hdash (s : List Char) : Ends ('-' :: s) := ends_cons rfl s
  rw [readDate, bind_of_ok (readYear_writtenYear (hdash _) hyear.1 hyear.2),
    bind_of_ok (readMark_cons (by decide) _),
    bind_of_ok (readField_padded (hdash _) hmonth.1 hmonth.2 (by decide)),
    bind_of_ok (readMark_cons (by decide) _),
    bind_of_ok (readField_padded hrest hday.1 hday.2 (by decide))]
  rfl

/-- Second and nanoseconds as they are shown: the excess of a leap second in the middle of a minute
counts into the second behind it. -/
def shownParts (second : Int) (nanos : Nat) : Int × Nat :=
  if nanosPerSecond ≤ nanos ∧ second % 60 ≠ 59 then (second + 1, nanos - nanosPerSecond)
  else (second, nanos)

/-- The second of the day is put together again, and a leap second at the end of a minute stays
one. -/
theorem readTimeOfDay_written {rest : List Char} (hrest : Ends rest)
    (hdot : ∀ c ∈ rest.head?, c ≠ '.') {second nanos : Nat}
    (hsecond : second < 86400) (hnanos : nanos < 2 * nanosPerSecond) :
    readTimeOfDay (padded 2 (second / 3600) ++ ':' :: (padded 2 (second / 60 % 60) ++ ':' ::
      (writtenSecond (second % 60) nanos ++ rest))) =
        .ok (((shownParts second nanos).1.toNat, (shownParts second nanos).2), rest) := by
  have hcolon (s : List Char) : Ends (':' :: s) := ends_cons rfl s
  have hends := fun nanos => ends_writtenFraction hrest nanos
  rw [readTimeOfDay,
    bind_of_ok (readField_padded (hcolon _) (Nat.zero_le _) (by omega) (by decide)),
    bind_of_ok (readMark_cons (by decide) _),
    bind_of_ok (readField_padded (hcolon _) (Nat.zero_le _) (by omega) (by decide)),
    bind_of_ok (readMark_cons (by decide) _)]
  unfold writtenSecond
  split
  · next hordinary =>
    rw [List.append_assoc,
      bind_of_ok (readField_padded (hends _) (Nat.zero_le _) (by omega) (by decide)),
      bind_of_ok (readFraction_writtenFraction hrest hdot hordinary), if_neg (by omega)]
    have hsum : (second / 3600 * 60 + second / 60 % 60) * 60 + second % 60 = second := by omega
    rw [shownParts, if_neg fun h => Nat.not_lt.mpr h.1 hordinary]
    exact congrArg (fun n => Except.ok ((n, nanos), rest)) hsum
  · next hlong =>
    have hexcess : nanosPerSecond ≤ nanos := Nat.not_lt.mp hlong
    rw [List.append_assoc,
      bind_of_ok (readField_padded (hends _) (Nat.zero_le _) (by omega) (by decide)),
      bind_of_ok (readFraction_writtenFraction hrest hdot (by omega))]
    by_cases hend : second % 60 = 59
    · have hsum : (second / 3600 * 60 + second / 60 % 60) * 60 + 59 = second := by omega
      have hsixty : second % 60 + 1 = 60 := by omega
      have hnamed : ¬ (nanosPerSecond ≤ nanos ∧ (second : Int) % 60 ≠ 59) := by omega
      rw [if_pos hsixty, Nat.sub_add_cancel hexcess, shownParts, if_neg hnamed]
      exact congrArg (fun n => Except.ok ((n, nanos), rest)) hsum
    · have hsum : (second / 3600 * 60 + second / 60 % 60) * 60 + (second % 60 + 1) = second + 1 := by
        omega
      have hordinary : ¬ second % 60 + 1 = 60 := by omega
      have hunnamed : nanosPerSecond ≤ nanos ∧ (second : Int) % 60 ≠ 59 := ⟨hexcess, by omega⟩
      rw [if_neg hordinary, shownParts, if_pos hunnamed]
      exact congrArg (fun n => Except.ok ((n, nanos - nanosPerSecond), rest)) hsum

/-! ## Instants -/

theorem yearOf_seconds (t : Instant) :
    -262143 ≤ Date.yearOf (t.seconds / 86400 + Date.epochDay) ∧
      Date.yearOf (t.seconds / 86400 + Date.epochDay) ≤ 262142 := by
  have hlow : -8334601228800 ≤ t.seconds := t.seconds_ge
  have hhigh : t.seconds ≤ 8210266876799 := t.seconds_le
  refine Date.yearOf_between ?_ ?_
  · show (-95745764 : Int) ≤ t.seconds / 86400 + 719528
    omega
  · show t.seconds / 86400 + 719528 < (95745765 : Int)
    omega

/-- The instant has no written form of its own: it lies in a leap second in the middle of a minute. -/
def IsUnnamed (t : Instant) : Prop := nanosPerSecond ≤ t.nanos ∧ t.seconds % 60 ≠ 59

instance (t : Instant) : Decidable t.IsUnnamed := by
  unfold IsUnnamed; infer_instance

/-- The instant that the written form names. The last second of all ends a minute, so there is
always a second behind a leap second without a name. -/
def shown (t : Instant) : Instant where
  seconds := (shownParts t.seconds t.nanos).1
  nanos := (shownParts t.seconds t.nanos).2
  seconds_ge := by
    have hge := t.seconds_ge
    unfold shownParts
    split <;> dsimp only <;> omega
  seconds_le := by
    have hle : t.seconds ≤ 8210266876799 := t.seconds_le
    change _ ≤ (8210266876799 : Int)
    unfold shownParts
    split <;> dsimp only <;> omega
  nanos_lt := by
    have hlt := t.nanos_lt
    unfold shownParts
    split <;> dsimp only <;> omega

theorem shown_eq_iff {t : Instant} : t.shown = t ↔ ¬ t.IsUnnamed := by
  constructor
  · intro hsame hunnamed
    have hparts : shownParts t.seconds t.nanos = (t.seconds + 1, t.nanos - nanosPerSecond) :=
      if_pos hunnamed
    have hseconds : (shownParts t.seconds t.nanos).1 = t.seconds := congrArg seconds hsame
    rw [hparts] at hseconds
    dsimp only at hseconds
    omega
  · intro hnamed
    have hparts : shownParts t.seconds t.nanos = (t.seconds, t.nanos) := if_neg hnamed
    cases t
    simp only [shown, hparts]

/-- The day and the second of the day lead back to the instant that is shown. -/
theorem ofLocal_parts (t : Instant) :
    ofLocal (Date.ofDay (t.seconds / 86400 + Date.epochDay))
      (shownParts (t.seconds % 86400).toNat t.nanos).1.toNat
      (shownParts (t.seconds % 86400).toNat t.nanos).2 0 = .ok t.shown := by
  obtain ⟨hyear, -, -, hday⟩ := Date.ofDay_holds (t.seconds / 86400 + Date.epochDay)
  have hrange := yearOf_seconds t
  have hminute : ((t.seconds % 86400).toNat : Int) % 60 = t.seconds % 60 := by omega
  have hseconds : (t.seconds / 86400 + Date.epochDay - Date.epochDay) * 86400 +
      (shownParts (t.seconds % 86400).toNat t.nanos).1.toNat - 0 = t.shown.seconds := by
    rw [shown]
    unfold shownParts
    rw [hminute]
    split <;> dsimp only <;> omega
  have hnanos : (shownParts (t.seconds % 86400).toNat t.nanos).2 = t.shown.nanos := by
    rw [shown]
    unfold shownParts
    rw [hminute]
    split <;> rfl
  have hparts : ofParts? t.shown.seconds t.shown.nanos = some t.shown :=
    dif_pos ⟨t.shown.seconds_ge, t.shown.seconds_le, t.shown.nanos_lt⟩
  rw [ofLocal]
  simp only [hday, hyear]
  rw [if_neg (by omega), hseconds, hnanos, hparts]

/-- From its written form an instant is read as it is shown: before the epoch and after it, in years
of four digits and in others, with any fraction of a second, and in leap seconds. -/
theorem read_written (t : Instant) : read t.written = .ok t.shown := by
  obtain ⟨hyear, hmonth, hday, -⟩ := Date.ofDay_holds (t.seconds / 86400 + Date.epochDay)
  have hrange := yearOf_seconds t
  rw [← hyear] at hrange
  have hzone : Ends ['Z'] := ends_cons rfl _
  have hsecond : (t.seconds % 86400).toNat < 86400 := by omega
  have hread := readTimeOfDay_written hzone (by simp) hsecond t.nanos_lt
  have hparts : readParts t.written.toList =
      .ok ((Date.ofDay (t.seconds / 86400 + Date.epochDay),
        (shownParts (t.seconds % 86400).toNat t.nanos).1.toNat,
        (shownParts (t.seconds % 86400).toNat t.nanos).2, 0), []) := by
    simp only [written, String.toList_ofList, List.append_assoc, List.cons_append]
    have hdivider (s : List Char) : readDivider ('T' :: s) = .ok ((), s) := by simp [readDivider]
    rw [readParts, bind_of_ok (readDate_written (ends_cons rfl _) hrange hmonth hday),
      bind_of_ok (hdivider _), bind_of_ok hread]
    rfl
  rw [read, hparts]
  exact ofLocal_parts t

end AlarmEscalation.Instant
