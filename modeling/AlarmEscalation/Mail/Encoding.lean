import AlarmEscalation.Text.Utf8

/-!
How the body of a mail is transferred. A short-lined ASCII text goes as it is. Other texts go as
quoted-printable, or as base64 if more than a third of their bytes would have to be escaped. A body
is a list of lines; lines end at a line feed, with or without a carriage return before it.
-/
namespace AlarmEscalation.Mail

inductive TransferEncoding where
  | sevenBit | quotedPrintable | base64
deriving DecidableEq, Repr

def TransferEncoding.name : TransferEncoding → String
  | .sevenBit => "7bit"
  | .quotedPrintable => "quoted-printable"
  | .base64 => "base64"

/-- Longest line that is transferred. -/
def lineLimit : Nat := 76

/-- Whether a line is too long. Lines are measured from one line feed to the next, the first one
from the start. -/
def hasLongLine (distance : Nat) : List UInt8 → Bool
  | [] => lineLimit ≤ distance
  | b :: rest =>
    if b = 10 then lineLimit ≤ distance || hasLongLine 1 rest else hasLongLine (distance + 1) rest

/-- Bytes that quoted-printable shows as themselves, the equals sign apart. -/
def isPlainByte (b : UInt8) : Bool := b = 9 || 0x20 ≤ b && b ≤ 0x7E

def chooseEncoding (bytes : List UInt8) : TransferEncoding :=
  if bytes.all (· < 0x80) && !hasLongLine 0 bytes then .sevenBit
  else if (bytes.filter fun b => !isPlainByte b).length ≤ bytes.length / 3 then .quotedPrintable
  else .base64

/-- The lines of a text; what follows the last line feed is the last line. -/
def bodyLines (bytes : List UInt8) : List (List UInt8) :=
  let lines := bytes.splitOn 10
  let ended := lines.dropLast.map fun line =>
    if line.getLast? = some 13 then line.dropLast else line
  ended ++ lines.getLast?.toList

namespace QuotedPrintable

def upperHex (n : Nat) : Char := (Nat.digitChar n).toUpper

def escaped (b : UInt8) : List Char := ['=', upperHex (b.toNat / 16), upperHex (b.toNat % 16)]

def unit (b : UInt8) : List Char :=
  if isPlainByte b && b ≠ 61 then [Char.ofNat b.toNat] else escaped b

/-- Units of a line that is being filled, the last one first, and the lines before it. -/
structure Filling where
  lines : List (List Char) := []
  units : List (List Char) := []

def Filling.width (f : Filling) : Nat := f.units.flatten.length

def Filling.breakAfter (f : Filling) (units : List (List Char)) (next : List (List Char)) :
    Filling :=
  ⟨f.lines ++ [units.reverse.flatten ++ ['=']], next⟩

/-- Adds a unit. A line that it would make too long is continued on the next one; the last unit of a
full line goes there too, to make room for the mark. -/
def Filling.add (f : Filling) (unit : List Char) : Filling :=
  if f.width + unit.length ≤ lineLimit then { f with units := unit :: f.units }
  else if f.width = lineLimit then
    match f.units with
    | last :: before => f.breakAfter before [unit, last]
    | [] => f.breakAfter [] [unit]
  else f.breakAfter f.units [unit]

/-- A blank at the end of a line is escaped. -/
def Filling.closeBlank (f : Filling) : Filling :=
  match f.units with
  | [' '] :: before => { f with units := before }.add "=20".toList
  | ['\t'] :: before => { f with units := before }.add "=09".toList
  | _ => f

def encodeLine (line : List UInt8) : List (List Char) :=
  let filling := (line.foldl (fun (f : Filling) b => f.add (unit b)) {}).closeBlank
  filling.lines ++ [filling.units.reverse.flatten]

end QuotedPrintable

namespace Base64

def digit (n : Nat) : Char :=
  if n < 26 then Char.ofNat ('A'.toNat + n)
  else if n < 52 then Char.ofNat ('a'.toNat + (n - 26))
  else if n < 62 then Char.ofNat ('0'.toNat + (n - 52))
  else if n = 62 then '+' else '/'

/-- Three bytes make four digits. -/
def encode : List UInt8 → List Char
  | a :: b :: c :: rest =>
    let n := a.toNat * 65536 + b.toNat * 256 + c.toNat
    digit (n / 262144) :: digit (n / 4096 % 64) :: digit (n / 64 % 64) :: digit (n % 64) ::
      encode rest
  | [a, b] =>
    let n := a.toNat * 256 + b.toNat
    [digit (n / 1024), digit (n / 16 % 64), digit (n * 4 % 64), '=']
  | [a] => [digit (a.toNat / 4), digit (a.toNat * 16 % 64), '=', '=']
  | [] => []

/-- Cuts digits into lines. -/
def lines (digits : List Char) : List (List Char) :=
  if digits.length ≤ lineLimit ∨ lineLimit = 0 then [digits]
  else digits.take lineLimit :: lines (digits.drop lineLimit)
termination_by digits.length
decreasing_by simp [lineLimit] at *; omega

end Base64

/-- The lines in which a body is transferred. -/
def encodeBody (encoding : TransferEncoding) (bytes : List UInt8) : List (List Char) :=
  let lines := bodyLines bytes
  match encoding with
  | .sevenBit => lines.map fun line => line.map fun b => Char.ofNat b.toNat
  | .quotedPrintable => lines.flatMap QuotedPrintable.encodeLine
  | .base64 => Base64.lines (Base64.encode ([13, 10].intercalate lines))

end AlarmEscalation.Mail
