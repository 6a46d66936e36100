/-!
The Gregorian calendar, extended to all years. Day numbers count from the first of January of the
year 0; `Date.ofDay` finds the date of a day and `Date.day?` the day of a date that exists.
-/
namespace AlarmEscalation

structure Date where
  year : Int
  month : Nat
  day : Nat
deriving DecidableEq, Repr

namespace Date

/-- Day number of the epoch. -/
abbrev epochDay : Int := 719528

def isLeapYear (year : Int) : Bool :=
  year % 4 == 0 && (year % 100 != 0 || year % 400 == 0)

/-- Number of the first day of a year. -/
def yearStart (year : Int) : Int :=
  365 * year + (year + 3) / 4 - (year + 99) / 100 + (year + 399) / 400

/-- The year that holds a day: the mean length of a year finds it up to one. -/
def yearOf (day : Int) : Int :=
  let guess := day * 400 / 146097
  if day < yearStart guess then guess - 1
  else if yearStart (guess + 1) ≤ day then guess + 1
  else guess

def monthLengths (leap : Bool) : List Nat :=
  [31, if leap then 29 else 28, 31, 30, 31, 30, 31, 31, 30, 31, 30, 31]

/-- The month, counted from `month`, and the day of the month, counted from 1, of the day that has
`rest` days before it. -/
def ofDayOfYear : List Nat → Nat → Nat → Nat × Nat
  | [], month, rest => (month, rest + 1)
  | length :: lengths, month, rest =>
    if rest < length then (month, rest + 1)
    else ofDayOfYear lengths (month + 1) (rest - length)

def ofDay (day : Int) : Date :=
  let year := yearOf day
  let (month, dayOfMonth) :=
    ofDayOfYear (monthLengths (isLeapYear year)) 1 (day - yearStart year).toNat
  ⟨year, month, dayOfMonth⟩

/-- The days of several months. -/
def daysOf : List Nat → Nat
  | [] => 0
  | length :: lengths => length + daysOf lengths

/-- Number of a day, if the month has such a day. -/
def day? (date : Date) : Option Int :=
  let lengths := monthLengths (isLeapYear date.year)
  match date.month, date.day with
  | month + 1, day + 1 =>
    match lengths[month]? with
    | some length =>
      if day < length then
        some (yearStart date.year + (daysOf (lengths.take month) : Nat) + (day : Nat))
      else none
    | none => none
  | _, _ => none

end Date

end AlarmEscalation
