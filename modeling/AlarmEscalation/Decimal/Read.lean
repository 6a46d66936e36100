/-!
Decimal numbers as texts: digits with a point among, before or behind them, and an exponent.
-/
namespace AlarmEscalation.Decimal

def digitValue (c : Char) : Nat := c.toNat - '0'.toNat

/-- The number that decimal digits stand for. -/
def ofDigits (digits : List Char) : Nat := digits.foldl (fun n c => 10 * n + digitValue c) 0

/-- The binary number nearest to `m * 10 ^ e`, infinite if none is near. Numbers far outside the
range are settled by the count of their digits. -/
def nearest (m : Nat) (e : Int) : Float :=
  let magnitude := (Nat.toDigits 10 m).length + e
  if m = 0 ∨ magnitude < -330 then 0.0
  else if 320 < magnitude then 1.0 / 0.0
  else Float.ofScientific m (e < 0) e.natAbs

/-- The sign in front of a text. -/
def splitSign : List Char → Bool × List Char
  | '-' :: rest => (true, rest)
  | '+' :: rest => (false, rest)
  | text => (false, text)

/-- An exponent behind its letter. -/
def exponent? (text : List Char) : Option Int :=
  let (negative, digits) := splitSign text
  if digits.isEmpty || !digits.all Char.isDigit then none
  else some (if negative then -ofDigits digits else ofDigits digits)

/-- Reads a finite number. -/
def read? (text : List Char) : Option Float :=
  let (negative, text) := splitSign text
  let whole := text.takeWhile Char.isDigit
  let rest := text.dropWhile Char.isDigit
  let (fraction, rest) := match rest with
    | '.' :: rest => (rest.takeWhile Char.isDigit, rest.dropWhile Char.isDigit)
    | rest => ([], rest)
  let power := match rest with
    | [] => some 0
    | c :: rest => if c = 'e' ∨ c = 'E' then exponent? rest else none
  if whole.isEmpty && fraction.isEmpty then none
  else power.bind fun e =>
    let x := nearest (ofDigits (whole ++ fraction)) (e - fraction.length)
    if x.isInf then none else some (if negative then -x else x)

end AlarmEscalation.Decimal
