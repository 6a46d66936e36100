import AlarmEscalation.Time.Calendar

/-! # Days and their dates

The mean length of a year finds the year of a day up to one, and within the year the months are
counted off. `Date.day?` undoes that: every day has a date, and the date exists. -/
namespace AlarmEscalation.Date

/-! ## Years -/

def yearLength (leap : Bool) : Int := if leap then 366 else 365

theorem yearStart_succ (year : Int) :
    yearStart (year + 1) = yearStart year + yearLength (isLeapYear year) := by
  simp only [yearStart, yearLength, isLeapYear, Bool.and_eq_true, Bool.or_eq_true, beq_iff_eq,
    bne_iff_ne]
  split <;> omega

theorem yearStart_mono {a b : Int} (h : a ≤ b) : yearStart a ≤ yearStart b := by
  unfold yearStart
  omega

/-- The guess is off by one year at most. -/
theorem guess_holds (day : Int) :
    yearStart (day * 400 / 146097 - 1) ≤ day ∧ day < yearStart (day * 400 / 146097 + 2) := by
  unfold yearStart
  omega

/-- The day lies in its year. -/
theorem yearOf_holds (day : Int) :
    yearStart (yearOf day) ≤ day ∧ day < yearStart (yearOf day + 1) := by
  obtain ⟨hlow, hhigh⟩ := guess_holds day
  simp only [yearOf]
  generalize day * 400 / 146097 = guess at hlow hhigh
  by_cases hbefore : day < yearStart guess
  · rw [if_pos hbefore, Int.sub_add_cancel]
    exact ⟨hlow, hbefore⟩
  rw [if_neg hbefore]
  by_cases hafter : yearStart (guess + 1) ≤ day
  · rw [if_pos hafter]
    exact ⟨hafter, by rwa [Int.add_assoc]⟩
  · rw [if_neg hafter]
    omega

/-- A day between the starts of two years lies in a year between them. -/
theorem yearOf_between {day first last : Int} (hfirst : yearStart first ≤ day)
    (hlast : day < yearStart (last + 1)) : first ≤ yearOf day ∧ yearOf day ≤ last := by
  obtain ⟨hlow, hhigh⟩ := yearOf_holds day
  constructor
  · refine Int.not_lt.mp fun h => ?_
    have hstart := yearStart_mono (show yearOf day + 1 ≤ first by omega)
    omega
  · refine Int.not_lt.mp fun h => ?_
    have hstart := yearStart_mono (show last + 1 ≤ yearOf day by omega)
    omega

/-! ## Months -/

theorem daysOf_monthLengths (leap : Bool) :
    (daysOf (monthLengths leap) : Int) = yearLength leap := by
  cases leap <;> rfl

theorem le_of_mem_monthLengths {leap : Bool} {length : Nat} (h : length ∈ monthLengths leap) :
    length ≤ 31 := by
  cases leap <;> revert length <;> decide

/-- The months before the one that is found, and the days before the one in it, make up the rest. -/
theorem ofDayOfYear_counts (lengths : List Nat) (month : Nat) {rest : Nat}
    (h : rest < daysOf lengths) :
    ∃ index length day, lengths[index]? = some length ∧ day < length ∧
      daysOf (lengths.take index) + day = rest ∧
      ofDayOfYear lengths month rest = (month + index, day + 1) := by
  induction lengths generalizing month rest with
  | nil => simp [daysOf] at h
  | cons first lengths ih =>
    by_cases hfirst : rest < first
    · exact ⟨0, first, rest, rfl, hfirst, by simp [daysOf], if_pos hfirst⟩
    · have hrest : rest - first < daysOf lengths := by
        simp only [daysOf] at h
        omega
      obtain ⟨index, length, day, hlength, hday, hsum, hfound⟩ := ih (month + 1) hrest
      refine ⟨index + 1, length, day, hlength, hday, ?_, ?_⟩
      · simp only [List.take_succ_cons, daysOf]
        omega
      · rw [ofDayOfYear, if_neg hfirst, hfound]
        simp only [Nat.add_assoc, Nat.add_comm 1]

/-! ## Dates -/

/-- The date of a day, with what is known of its month and its day of the month. -/
theorem ofDay_holds (day : Int) :
    (ofDay day).year = yearOf day ∧ (1 ≤ (ofDay day).month ∧ (ofDay day).month ≤ 12) ∧
      (1 ≤ (ofDay day).day ∧ (ofDay day).day ≤ 31) ∧ (ofDay day).day? = some day := by
  obtain ⟨hlow, hhigh⟩ := yearOf_holds day
  rw [yearStart_succ, ← daysOf_monthLengths] at hhigh
  have hcount : (day - yearStart (yearOf day)).toNat <
      daysOf (monthLengths (isLeapYear (yearOf day))) := by omega
  obtain ⟨index, length, rest, hlength, hrest, hsum, hfound⟩ := ofDayOfYear_counts _ 1 hcount
  have hdate : ofDay day = ⟨yearOf day, index + 1, rest + 1⟩ := by
    simp only [ofDay, hfound, Nat.add_comm 1]
  have hindex : index < (monthLengths (isLeapYear (yearOf day))).length :=
    (List.getElem?_eq_some_iff.mp hlength).1
  have hlong := le_of_mem_monthLengths (List.mem_of_getElem? hlength)
  rw [hdate]
  refine ⟨rfl, ⟨by simp, ?_⟩, ⟨by simp, ?_⟩, ?_⟩
  · exact hindex
  · show rest + 1 ≤ 31
    omega
  · simp only [day?, hlength, hrest, if_true, Option.some.injEq]
    omega

end AlarmEscalation.Date
