import AlarmEscalation.Time.Instant
import AlarmEscalation.Time.Calendar

/-!
The written form of an instant: date and time of day in UTC, ended by `Z`. The fraction of a second
has no digits or 3, 6 or 9 of them, the fewest that lose nothing. Years outside 0 to 9999 carry a
sign. Inside a leap second the seconds are written as 60.
-/
namespace AlarmEscalation.Instant

/-- Digits of `n`, at least `width` of them. -/
def padded (width n : Nat) : List Char :=
  let digits := Nat.toDigits 10 n
  List.replicate (width - digits.length) '0' ++ digits

def writtenYear (year : Int) : List Char :=
  if 0 ≤ year ∧ year ≤ 9999 then padded 4 year.toNat
  else (if year < 0 then '-' else '+') :: padded 4 year.natAbs

def writtenFraction (nanos : Nat) : List Char :=
  if nanos = 0 then []
  else if nanos % 1000000 = 0 then '.' :: padded 3 (nanos / 1000000)
  else if nanos % 1000 = 0 then '.' :: padded 6 (nanos / 1000)
  else '.' :: padded 9 nanos

/-- Second of the minute and nanoseconds in it; a leap second is second 60. -/
def writtenSecond (second nanos : Nat) : List Char :=
  if nanos < nanosPerSecond then padded 2 second ++ writtenFraction nanos
  else padded 2 (second + 1) ++ writtenFraction (nanos - nanosPerSecond)

def written (t : Instant) : String :=
  let date := Date.ofDay (t.seconds / 86400 + Date.epochDay)
  let second := (t.seconds % 86400).toNat
  String.ofList <|
    writtenYear date.year ++ '-' :: padded 2 date.month ++ '-' :: padded 2 date.day ++
    'T' :: padded 2 (second / 3600) ++ ':' :: padded 2 (second / 60 % 60) ++
    ':' :: writtenSecond (second % 60) t.nanos ++ ['Z']

end AlarmEscalation.Instant
