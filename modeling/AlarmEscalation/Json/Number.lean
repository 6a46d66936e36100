import AlarmEscalation.Json.Cursor

/-!
Numbers in JSON documents. Integers of up to 64 bits are read exactly; the others become
floating-point numbers, from as many digits as fit in 64 bits and the power of ten that is left.
-/
namespace AlarmEscalation.Json

inductive Number where
  | integer (value : Int)
  | float (value : Float)

def Number.found : Number → Decoding.Found
  | .integer value => .integer value
  | .float value => .float value

/-- The largest number of 64 bits. -/
abbrev wordLimit : Nat := 18446744073709551615

/-- The largest exponent that is read. -/
abbrev exponentLimit : Nat := 2147483647

/-- Takes digits behind `value` while it stays within `limit`; also the digits that were left. -/
def gather (limit : Nat) : Nat → List Nat → Nat × List Nat
  | value, [] => (value, [])
  | value, d :: ds =>
    if limit < value * 10 + d then (value, d :: ds) else gather limit (value * 10 + d) ds

/-- `x * 10 ^ exponent`, in steps that a table of powers up to 308 allows; `none` if it is too
large. -/
def scale? : Nat → Float → Int → Option Float
  | 0, x, _ => some x
  | fuel + 1, x, exponent =>
    if exponent.natAbs ≤ 308 then
      let power := Float.ofScientific 1 false exponent.natAbs
      if 0 ≤ exponent then
        let scaled := x * power
        if scaled.isInf then none else some scaled
      else some (x / power)
    else if x == 0 then some x
    else if 0 ≤ exponent then none
    else scale? fuel (x / 1e308) (exponent + 308)

namespace Reader

/-- The floating-point number of its parts. -/
def float (positive : Bool) (significand : Nat) (exponent : Int) : Reader Float :=
  match scale? 8 significand.toUInt64.toFloat exponent with
  | some x => return if positive then x else -x
  | none => failHere .numberOutOfRange

/-- The exponent, at the letter that introduces it. -/
def exponentPart (positive : Bool) (significand : Nat) (start : Int) : Reader Float := do
  skip
  let raised ← match ← peek with
    | some (.char '+') => do skip; pure true
    | some (.char '-') => do skip; pure false
    | _ => pure true
  let before ← get
  match ← digits with
  | [] =>
    set before
    if before.rest.isEmpty then failHere .eofInValue else failAtNext .invalidNumber
  | run =>
    match gather exponentLimit 0 run with
    | (e, []) => float positive significand (if raised then start + e else start - e)
    | (_, left) =>
      if significand ≠ 0 ∧ raised then do
        set { before with column := before.column + (run.length - left.length) + 1 }
        failHere .numberOutOfRange
      else return if positive then 0.0 else -0.0

/-- Goes on to the exponent, if there is one. -/
def exponentOr (positive : Bool) (significand : Nat) (exponent : Int) : Reader Float := do
  match ← peek with
  | some (.char 'e') | some (.char 'E') => exponentPart positive significand exponent
  | _ => float positive significand exponent

/-- The fraction, at its point. Digits that do not fit are of no account. -/
def fractionPart (positive : Bool) (significand : Nat) (exponent : Int) : Reader Float := do
  skip
  match ← digits with
  | [] => if (← get).rest.isEmpty then failHere .eofInValue else failAtNext .invalidNumber
  | run =>
    let (significand, left) := gather wordLimit significand run
    exponentOr positive significand (exponent - (run.length - left.length : Nat))

/-- A number of which the digits before the point have been read. -/
def afterInteger (positive : Bool) (significand dropped : Nat) : Reader Number := do
  match ← peek with
  | some (.char '.') => return .float (← fractionPart positive significand dropped)
  | some (.char 'e') | some (.char 'E') =>
    return .float (← exponentPart positive significand dropped)
  | _ =>
    if dropped ≠ 0 then return .float (← float positive significand dropped)
    else if positive then return .integer significand
    else if significand = 0 ∨ 9223372036854775808 < significand then
      return .float (-significand.toUInt64.toFloat)
    else return .integer (-significand)

/-- A number, behind its sign. -/
def number (positive : Bool) : Reader Number := do
  match ← peek with
  | some (.char '0') => do
    skip
    match ← peek with
    | some g => if g.isDigit then failAtNext .invalidNumber else afterInteger positive 0 0
    | none => afterInteger positive 0 0
  | some g =>
    if g.isDigit then do
      let (significand, left) := gather wordLimit 0 (← digits)
      afterInteger positive significand left.length
    else failAtNext .invalidNumber
  | none => failHere .eofInValue

def skipDigits : Reader Unit := discard digits

def skipExponent : Reader Unit := do
  skip
  match ← peek with
  | some (.char '+') | some (.char '-') => skip
  | _ => pure ()
  match ← digits with
  | [] => failAtNext .invalidNumber
  | _ => pure ()

def skipExponentIfAny : Reader Unit := do
  match ← peek with
  | some (.char 'e') | some (.char 'E') => skipExponent
  | _ => pure ()

/-- Passes over what follows the digits before the point. -/
def skipAfterInteger : Reader Unit := do
  match ← peek with
  | some (.char '.') => do
    skip
    match ← digits with
    | [] => failAtNext .invalidNumber
    | _ => skipExponentIfAny
  | _ => skipExponentIfAny

/-- Passes over a number, behind its sign; its size is of no account. -/
def skipNumber : Reader Unit := do
  match ← peek with
  | some (.char '0') => do
    skip
    match ← peek with
    | some g => if g.isDigit then failAtNext .invalidNumber else skipAfterInteger
    | none => pure ()
  | some g =>
    if g.isDigit then do
      skipDigits
      skipAfterInteger
    else failAtNext .invalidNumber
  | none => failHere .invalidNumber

end Reader

end AlarmEscalation.Json
