/-!
The written forms of IP addresses: four decimal numbers with points between them, or eight groups of
hexadecimal digits with colons between them, of which one run of zeros may be left out and the last
two may be given as four decimal numbers.
-/
namespace AlarmEscalation.Mail

/-- A decimal number up to 255 without a leading zero. -/
def isOctet (digits : List Char) : Bool :=
  digits.all Char.isDigit && 1 ≤ digits.length && digits.length ≤ 3 &&
    (digits.length = 1 || digits.head? ≠ some '0') &&
    digits.foldl (fun n c => n * 10 + (c.toNat - '0'.toNat)) 0 ≤ 255

def isIpv4 (text : List Char) : Bool :=
  let parts := text.splitOn '.'
  parts.length = 4 && parts.all isOctet

def isHexGroup (digits : List Char) : Bool :=
  1 ≤ digits.length && digits.length ≤ 4 &&
    digits.all fun c => c.isDigit || 'a' ≤ c && c ≤ 'f' || 'A' ≤ c && c ≤ 'F'

/-- How many groups the parts between colons stand for; `none` if one of them is no group. Only the
last part may be an address of four numbers, which counts as two groups. -/
def groupCount? : List (List Char) → Option Nat
  | [] => some 0
  | [part] => if isHexGroup part then some 1 else if isIpv4 part then some 2 else none
  | part :: rest => if isHexGroup part then (groupCount? rest).map (· + 1) else none

/-- The parts of a text between colons; an empty text has none. -/
def colonParts (text : List Char) : List (List Char) :=
  if text.isEmpty then [] else text.splitOn ':'

/-- Splits a text at its first pair of colons. -/
def splitAtPair : List Char → Option (List Char × List Char)
  | ':' :: ':' :: rest => some ([], rest)
  | c :: rest => (splitAtPair rest).map fun (before, after) => (c :: before, after)
  | [] => none

def isIpv6 (text : List Char) : Bool :=
  match splitAtPair text with
  | none => groupCount? (colonParts text) = some 8
  | some (before, after) =>
    (colonParts before).all isHexGroup &&
      (groupCount? (colonParts after)).any fun n => (colonParts before).length + n ≤ 7

end AlarmEscalation.Mail
