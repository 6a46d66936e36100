import AlarmEscalation.Decimal.Shortest

/-!
Written forms of floating-point numbers. All of them show the fewest digits that read back; they
differ in when they use an exponent and in what they call the numbers that are not finite.
-/
namespace AlarmEscalation.Decimal

/-- How a number is laid out. -/
structure Layout where
  /-- Decimal exponents, of the first digit, that are written without an exponent. -/
  positional : Int → Bool
  /-- What stands before a positive exponent. -/
  plus : String

/-- Documents write small exponents in full. -/
def Layout.document : Layout := ⟨fun e => -5 ≤ e && e ≤ 15, "+"⟩

/-- Every exponent is written in full. -/
def Layout.plain : Layout := ⟨fun _ => true, ""⟩

/-- Sign, mantissa and exponent of a finite number that is not zero. -/
def ofBits (bits : UInt64) : Binary :=
  let fraction := (bits &&& 0xFFFFFFFFFFFFF).toNat
  let biased := ((bits >>> 52) &&& 0x7FF).toNat
  if biased = 0 then ⟨fraction, -1074⟩ else ⟨4503599627370496 + fraction, (biased : Int) - 1075⟩

def zeros (n : Nat) : List Char := List.replicate n '0'

/-- Digits `d` with the decimal point after the first digit moved by `e` places. -/
def Layout.digits (layout : Layout) (d : List Char) (e : Int) : String :=
  if layout.positional e then
    if e < 0 then String.ofList ('0' :: '.' :: zeros ((-e).toNat - 1) ++ d)
    else
      let whole := e.toNat + 1
      let d := d ++ zeros (whole - d.length)
      let fraction := d.drop whole
      String.ofList (d.take whole ++ '.' :: if fraction.isEmpty then ['0'] else fraction)
  else
    let mantissa := match d with
      | [] => []
      | [c] => [c]
      | c :: rest => c :: '.' :: rest
    String.ofList mantissa ++ "e" ++ (if e < 0 then "-" else layout.plus) ++ toString e.natAbs

def Layout.write (layout : Layout) (x : Float) : String :=
  if x.isNaN then "NaN"
  else
    let sign := if x.toBits >>> 63 = 1 then "-" else ""
    if x.isInf then sign ++ "inf"
    else if x == 0 then sign ++ "0.0"
    else
      let shortest := (ofBits x.toBits).interval.shortest
      let d := Nat.toDigits 10 shortest.coefficient
      sign ++ layout.digits d (shortest.exponent + d.length - 1)

end AlarmEscalation.Decimal
