/-!
The fewest decimal digits that read back as a given binary floating-point number.

A finite positive number is `mantissa * 2 ^ exponent`. The reals that round to it form an interval
between the midpoints to its neighbours, which belong to it if the mantissa is even. For one, two,
… seventeen digits the two grid points around the number are tried; the first grid with a point in
the interval gives the digits, and of two such points the nearer one.
-/
namespace AlarmEscalation.Decimal

/-- A positive number `mantissa * 2 ^ exponent`. -/
structure Binary where
  mantissa : Nat
  exponent : Int
deriving DecidableEq, Repr

/-- A decimal number `coefficient * 10 ^ exponent`. -/
structure Scaled where
  coefficient : Nat
  exponent : Int
deriving DecidableEq, Repr

namespace Binary

/-- Numerators of the number, the lower and the upper end of its interval, over `denominator`. -/
structure Interval where
  value : Nat
  low : Nat
  high : Nat
  denominator : Nat
  closed : Bool

/-- Below a power of two the neighbour is nearer. -/
def interval (b : Binary) : Interval :=
  let below := if b.mantissa = 4503599627370496 ∧ -1074 < b.exponent then 1 else 2
  let scale := Nat.pow 2 (b.exponent - 2).toNat
  { value := 4 * b.mantissa * scale
    low := (4 * b.mantissa - below) * scale
    high := (4 * b.mantissa + 2) * scale
    denominator := Nat.pow 2 (2 - b.exponent).toNat
    closed := b.mantissa % 2 = 0 }

end Binary

namespace Binary.Interval

/-- Compares a numerator with `c * 10 ^ p` over the same denominator. -/
def compareTo (i : Interval) (numerator c : Nat) (p : Int) : Ordering :=
  compare (numerator * Nat.pow 10 (-p).toNat) (c * Nat.pow 10 p.toNat * i.denominator)

/-- Whether `c * 10 ^ p` reads back as the number. -/
def holds (i : Interval) (c : Nat) (p : Int) : Bool :=
  let low := i.compareTo i.low c p
  let high := i.compareTo i.high c p
  if i.closed then low != .gt && high != .lt else low == .lt && high == .gt

/-- The largest `c` with `c * 10 ^ p` at most the number. -/
def gridPoint (i : Interval) (p : Int) : Nat :=
  i.value * Nat.pow 10 (-p).toNat / (Nat.pow 10 p.toNat * i.denominator)

/-- Of two neighbours on a grid the one nearer to the number; an exact tie goes to the even one. -/
def nearer (i : Interval) (c : Nat) (p : Int) : Nat :=
  let twice := 2 * i.value * Nat.pow 10 (-p).toNat
  match compare twice ((2 * c + 1) * Nat.pow 10 p.toNat * i.denominator) with
  | .lt => c
  | .gt => c + 1
  | .eq => if c % 2 = 0 then c else c + 1

/-- A point of the grid `10 ^ p` that reads back as the number. -/
def onGrid? (i : Interval) (p : Int) : Option Nat :=
  let c := i.gridPoint p
  match i.holds c p, i.holds (c + 1) p with
  | true, true => some (i.nearer c p)
  | true, false => some c
  | false, true => some (c + 1)
  | false, false => none

/-- Tries the grids from `p` downwards. -/
def search (i : Interval) : Nat → Int → Scaled
  | 0, p => ⟨i.gridPoint p, p⟩
  | fuel + 1, p =>
    match i.onGrid? p with
    | some c => ⟨c, p⟩
    | none => search i fuel (p - 1)

/-- An exponent `e` with `10 ^ e` above the number, at most two too large. -/
def magnitude (i : Interval) : Int :=
  (Nat.toDigits 10 i.value).length - (Nat.toDigits 10 i.denominator).length + 1

/-- The number in the fewest digits, without a trailing zero. -/
def shortest (i : Interval) : Scaled := i.search 20 i.magnitude

end Binary.Interval

end AlarmEscalation.Decimal
