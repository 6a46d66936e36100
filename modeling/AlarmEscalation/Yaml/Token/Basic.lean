import AlarmEscalation.Yaml.Place

/-!
The tokens of a YAML text.
-/
namespace AlarmEscalation.Yaml

inductive ScalarStyle where
  | plain | singleQuoted | doubleQuoted | literal | folded
deriving DecidableEq, Repr

inductive TokenKind where
  | streamEnd
  | version (major minor : Nat)
  | tagHandle (handle expansion : String)
  | documentStart | documentEnd
  | blockSequenceStart | blockMappingStart | blockEnd
  | flowSequenceStart | flowSequenceEnd | flowMappingStart | flowMappingEnd
  | blockEntry | flowEntry
  | key | value
  | alias (name : String)
  | anchor (name : String)
  | tag (handle suffix : String)
  | scalar (text : String) (style : ScalarStyle)
deriving DecidableEq, Repr

structure Token where
  kind : TokenKind
  start : Mark
  stop : Mark
deriving DecidableEq, Repr

/-- A step of the reading: from a place, what was read and the place behind it. -/
abbrev Scan := StateT Place (Except Problem)

namespace Scan

def fail (cause : Cause) (context : Context) (start : Mark) : Scan α := do
  throw ((← get).problem cause context start)

def skip (n : Nat := 1) : Scan Unit := modify (·.skip n)

def skipWhile (isIn : Char → Bool) : Scan Unit := modify (·.skipWhile isIn)

def takeWhile (isIn : Char → Bool) : Scan (List Char) := do
  let (text, place) := (← get).span isIn
  set place
  return text

/-- Requires that a word ends here. -/
def wordEnd (cause : Cause) (context : Context) (start : Mark) : Scan Unit := do
  if !(← get).endsWord then fail cause context start

/-- Requires the end of the line, but for blanks and a comment, and goes to the next line. -/
def lineEnd (context : Context) (start : Mark) : Scan Unit := do
  skipWhile isBlank
  modify Place.skipComment
  if !(← get).seesBreakOrEnd then fail .missingCommentOrBreak context start
  skip

end Scan

end AlarmEscalation.Yaml
