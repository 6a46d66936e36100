import AlarmEscalation.Json.Error

/-!
A place in a JSON document. The document is a list of glyphs: characters, and the bytes of a
payload that belong to no character. Lines count from 1 and columns are the bytes read since the
line began.
-/
namespace AlarmEscalation.Json

inductive Glyph where
  | char (c : Char)
  /-- A byte that is part of no character. -/
  | byte (b : UInt8)
deriving DecidableEq, Repr

def Glyph.width : Glyph → Nat
  | .char c => c.utf8Size
  | .byte _ => 1

/-- The bytes that glyphs take up. -/
def widthOf : List Glyph → Nat
  | [] => 0
  | g :: rest => g.width + widthOf rest

def Glyph.isDigit : Glyph → Bool
  | .char c => c.isDigit
  | .byte _ => false

def Glyph.char? : Glyph → Option Char
  | .char c => some c
  | .byte _ => none

def glyphs (text : String) : List Glyph := text.toList.map .char

structure Cursor where
  rest : List Glyph
  line : Nat := 1
  column : Nat := 0
deriving Repr

namespace Cursor

def ofGlyphs (rest : List Glyph) : Cursor := { rest }

/-- The cursor behind the next glyph. -/
def next (c : Cursor) : Cursor :=
  match c.rest with
  | [] => c
  | .char '\n' :: rest => ⟨rest, c.line + 1, 0⟩
  | g :: rest => ⟨rest, c.line, c.column + g.width⟩

/-- The place that is `n` bytes further on, or the end; it may lie inside a character. -/
def bytesOn (n line column : Nat) : List Glyph → Nat × Nat
  | [] => (line, column)
  | g :: rest =>
    if n = 0 then (line, column)
    else if g = .char '\n' then bytesOn (n - 1) (line + 1) 0 rest
    else if n ≤ g.width then (line, column + n)
    else bytesOn (n - g.width) line (column + g.width) rest

/-- The cursor behind a run of blanks. -/
def afterBlanks (line column : Nat) : List Glyph → Cursor
  | .char ' ' :: rest | .char '\t' :: rest | .char '\r' :: rest =>
    afterBlanks line (column + 1) rest
  | .char '\n' :: rest => afterBlanks (line + 1) 0 rest
  | rest => ⟨rest, line, column⟩

def errorAfter (c : Cursor) (bytes : Nat) (cause : Cause) : Error :=
  let (line, column) := bytesOn bytes c.line c.column c.rest
  ⟨cause, line, column⟩

/-- An error at the cursor. -/
def errorHere (c : Cursor) (cause : Cause) : Error := ⟨cause, c.line, c.column⟩

/-- An error at the byte after the cursor. -/
def errorAtNext (c : Cursor) (cause : Cause) : Error := c.errorAfter 1 cause

/-- An error at the end of the document. -/
def errorAtEnd (c : Cursor) (cause : Cause) : Error :=
  c.errorAfter (widthOf c.rest) cause

end Cursor

/-- A step of the reading. The place that was reached stays known after an error. -/
abbrev Reader := ExceptT Error (StateM Cursor)

namespace Reader

def failWith (place : Cursor → Error) : Reader α := do throw (place (← get))

def failHere (cause : Cause) : Reader α := failWith (·.errorHere cause)

def failAtNext (cause : Cause) : Reader α := failWith (·.errorAtNext cause)

def failAtEnd (cause : Cause) : Reader α := failWith (·.errorAtEnd cause)

def mismatch (m : Decoding.Mismatch) : Reader α := failHere (.mismatch m)

def peek : Reader (Option Glyph) := do return (← get).rest.head?

/-- Moves behind the next glyph. -/
def skip : Reader Unit := modify Cursor.next

/-- Moves to the next glyph that is no blank, and shows it. -/
def peekToken : Reader (Option Glyph) := do
  modify fun c => Cursor.afterBlanks c.line c.column c.rest
  peek

/-- The digits at the cursor. -/
def digits : Reader (List Nat) := do
  let c ← get
  let run := c.rest.takeWhile Glyph.isDigit
  set { c with rest := c.rest.drop run.length, column := c.column + run.length }
  return run.filterMap fun g => g.char?.map fun c => c.toNat - '0'.toNat

/-- Requires the letters of a word. -/
def word : List Char → Reader Unit
  | [] => pure ()
  | letter :: letters => do
    match ← peek with
    | none => failHere .eofInValue
    | some g =>
      if g = .char letter then do skip; word letters else failAtNext .expectedIdent

end Reader

end AlarmEscalation.Json
