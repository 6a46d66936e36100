import AlarmEscalation.Yaml.Problem

/-!
A place in a YAML text: the characters from there on, and the mark. Line breaks have one form before
the reading begins: a carriage return, alone or with a line feed, and the next-line character are
line feeds. The line and paragraph separators break lines too, and stay what they are.
-/
namespace AlarmEscalation.Yaml

/-- Characters that a document may hold. -/
def isAllowed (c : Char) : Bool :=
  let n := c.toNat
  n = 9 || n = 10 || n = 13 || 0x20 ≤ n && n ≤ 0x7E || n = 0x85 || 0xA0 ≤ n && n ≤ 0xD7FF ||
    0xE000 ≤ n && n ≤ 0xFFFD || 0x10000 ≤ n

/-- The first character that is not allowed: how many bytes stand before it. -/
def firstForbidden? (offset : Nat) : List Char → Option Nat
  | [] => none
  | c :: rest => if isAllowed c then firstForbidden? (offset + c.utf8Size) rest else some offset

/-- One form for all breaks that end a line and nothing else. -/
def unifyBreaks : List Char → List Char
  | '\r' :: '\n' :: rest => '\n' :: unifyBreaks rest
  | '\r' :: rest => '\n' :: unifyBreaks rest
  | c :: rest => (if c.toNat = 0x85 then '\n' else c) :: unifyBreaks rest
  | [] => []

def isBreak (c : Char) : Bool := c = '\n' || c.toNat = 0x2028 || c.toNat = 0x2029

def isBlank (c : Char) : Bool := c = ' ' || c = '\t'

/-- Characters of names. -/
def isWordChar (c : Char) : Bool := c.isAlphanum || c = '_' || c = '-'

def hexValue? (c : Char) : Option Nat :=
  if c.isDigit then some (c.toNat - '0'.toNat)
  else if 'a' ≤ c ∧ c ≤ 'f' then some (c.toNat - 'a'.toNat + 10)
  else if 'A' ≤ c ∧ c ≤ 'F' then some (c.toNat - 'A'.toNat + 10)
  else none

structure Place where
  rest : List Char
  mark : Mark := {}
deriving Repr

namespace Place

/-- The character `n` places on. -/
def look (p : Place) (n : Nat := 0) : Option Char := p.rest[n]?

def atEnd (p : Place) : Bool := p.rest.isEmpty

def sees (p : Place) (c : Char) : Bool := p.look = some c

def seesBreak (p : Place) : Bool := p.look.any isBreak

def seesBlank (p : Place) : Bool := p.look.any isBlank

/-- A blank, a break or the end is `n` places on. -/
def endsWord (p : Place) (n : Nat := 0) : Bool :=
  match p.look n with
  | none => true
  | some c => isBlank c || isBreak c

def seesBreakOrEnd (p : Place) : Bool :=
  match p.look with
  | none => true
  | some c => isBreak c

/-- The place behind one character. -/
def next (p : Place) : Place :=
  match p.rest with
  | [] => p
  | c :: rest =>
    if isBreak c then ⟨rest, ⟨p.mark.index + 1, p.mark.line + 1, 0⟩⟩
    else ⟨rest, ⟨p.mark.index + 1, p.mark.line, p.mark.column + 1⟩⟩

def skip (p : Place) (n : Nat) : Place := n.repeat next p

/-- Goes on while the characters are in a class. -/
def skipWhile (p : Place) (isIn : Char → Bool) : Place := p.skip (p.rest.takeWhile isIn).length

/-- The characters of a class at the place, and the place behind them. -/
def span (p : Place) (isIn : Char → Bool) : List Char × Place :=
  (p.rest.takeWhile isIn, p.skipWhile isIn)

/-- The line ends with what is left of a comment. -/
def skipComment (p : Place) : Place :=
  if p.sees '#' then p.skipWhile fun c => !isBreak c else p

/-- Three dashes or three points at the start of a line, on their own. -/
def seesDocumentMark (p : Place) (c : Char) : Bool :=
  p.mark.column = 0 && p.look 0 = some c && p.look 1 = some c && p.look 2 = some c && p.endsWord 3

def seesAnyDocumentMark (p : Place) : Bool := p.seesDocumentMark '-' || p.seesDocumentMark '.'

/-- A problem at the place. -/
def problem (p : Place) (cause : Cause) (context : Context) (start : Mark) : Problem :=
  { cause, mark := p.mark, context := some (context, start) }

/-- A problem without a context. -/
def bareProblem (p : Place) (cause : Cause) : Problem := { cause, mark := p.mark }

end Place

end AlarmEscalation.Yaml
