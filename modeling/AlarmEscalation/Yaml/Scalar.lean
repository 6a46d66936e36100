import AlarmEscalation.Decimal.Read
import AlarmEscalation.Decoding
import AlarmEscalation.Yaml.Place

/-!
What a plain scalar stands for: nothing, a truth value, an integer, a number with a fraction, or its
own text. Decimal digits behind a leading zero are text.
-/
namespace AlarmEscalation.Yaml

open Decoding

def isNull (text : String) : Bool := ["null", "Null", "NULL", "~"].contains text

def boolean? (text : String) : Option Bool :=
  if ["true", "True", "TRUE"].contains text then some true
  else if ["false", "False", "FALSE"].contains text then some false
  else none

/-- The number that digits of a base stand for. -/
def ofDigits? (base : Nat) (digits : List Char) : Option Nat :=
  if digits.isEmpty then none
  else digits.foldlM (fun n c =>
    (hexValue? c).bind fun d => if d < base then some (base * n + d) else none) 0

/-- Several digits of which the first is zero. -/
def hasLeadingZero : List Char → Bool
  | '0' :: c :: rest => (c :: rest).all Char.isDigit
  | _ => false

/-- A natural number without a sign, in base 16, 8 or 2 behind a mark, or in base 10. -/
def magnitude? : List Char → Option Nat
  | '0' :: 'x' :: digits => ofDigits? 16 digits
  | '0' :: 'o' :: digits => ofDigits? 8 digits
  | '0' :: 'b' :: digits => ofDigits? 2 digits
  | digits => if hasLeadingZero digits then none else ofDigits? 10 digits

/-- A natural number; a plus may stand before it. -/
def natural? : List Char → Option Nat
  | '+' :: rest => magnitude? rest
  | text => magnitude? text

def integer? : List Char → Option Int
  | '-' :: rest => (magnitude? rest).map fun n => -(n : Int)
  | text => (natural? text).map Int.ofNat

/-- What an integer is found to be, by its size; the largest are no integers. -/
def foundInteger? (n : Int) : Option Found :=
  if -9223372036854775808 ≤ n ∧ n ≤ 18446744073709551615 then some (.integer n)
  else if 0 ≤ n ∧ n ≤ 340282366920938463463374607431768211455 then some (.wideInteger n "u128")
  else if -170141183460469231731687303715884105728 ≤ n ∧ n < 0 then some (.wideInteger n "i128")
  else none

def float? (text : List Char) : Option Float :=
  let unsigned := match text with
    | '+' :: rest => rest
    | _ => text
  let isOneOf := fun (words : List String) (text : List Char) => words.contains (String.ofList text)
  if isOneOf [".inf", ".Inf", ".INF"] unsigned then some (1.0 / 0.0)
  else if isOneOf ["-.inf", "-.Inf", "-.INF"] text then some (-1.0 / 0.0)
  else if isOneOf [".nan", ".NaN", ".NAN"] text then some (0.0 / 0.0)
  else if text.head? = some '+' ∧ (unsigned.head? = some '+' ∨ unsigned.head? = some '-') then none
  else Decimal.read? unsigned

/-- What a plain scalar stands for. -/
def resolve (text : String) : Found :=
  if text = "" ∨ isNull text then .unit
  else
    match boolean? text with
    | some b => .boolean b
    | none =>
      match (integer? text.toList).bind foundInteger? with
      | some found => found
      | none =>
        let (_, unsigned) := Decimal.splitSign text.toList
        match if hasLeadingZero unsigned then none else float? text.toList with
        | some x => .float x
        | none => .text text

end AlarmEscalation.Yaml
