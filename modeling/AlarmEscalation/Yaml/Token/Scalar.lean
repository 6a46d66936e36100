import AlarmEscalation.Yaml.Token.Basic

/-!
Scalars: plain, quoted and block ones. A break inside a plain or quoted scalar is folded: a single
one becomes a blank, of several all but the first stay.
-/
namespace AlarmEscalation.Yaml.Scan

/-- Blanks and breaks that were met and not yet written. -/
structure Gap where
  blanks : List Char := []
  /-- The first break. -/
  first : Option Char := none
  /-- The breaks after it. -/
  more : List Char := []
  /-- A line has ended. -/
  broken : Bool := false

namespace Gap

/-- A blank; those that begin a line are of no account. -/
def addBlank (g : Gap) (c : Char) : Gap :=
  if g.broken then g else { g with blanks := g.blanks ++ [c] }

def addBreak (g : Gap) (c : Char) : Gap :=
  if g.broken then { g with more := g.more ++ [c] }
  else { blanks := [], first := some c, more := g.more, broken := true }

/-- What a gap comes to: blanks as they are, breaks folded. -/
def folded (g : Gap) : List Char :=
  if !g.broken then g.blanks
  else
    match g.first with
    | some '\n' => if g.more.isEmpty then [' '] else g.more
    | first => first.toList ++ g.more

end Gap

/-- Goes over blanks and breaks. A tab that stands where indentation is due is refused. -/
def gap (tabLimit : Option (Nat × Mark)) : Nat → Gap → Scan Gap
  | 0, g => return g
  | fuel + 1, g => do
    let place ← get
    match place.look with
    | none => return g
    | some c =>
      if isBlank c then
        if let some (indent, start) := tabLimit then
          if g.broken && place.mark.column < indent && c = '\t' then
            fail .tabViolatesIndentation .plainScalar start
        skip
        gap tabLimit fuel (g.addBlank c)
      else if isBreak c then
        skip
        gap tabLimit fuel (g.addBreak c)
      else return g

/-- Characters that end a plain scalar inside a flow collection. -/
def isFlowEnd (c : Char) : Bool := c = ',' || c = '[' || c = ']' || c = '\x7b' || c = '\x7d'

/-- The words of a plain scalar, up to a blank, a break or an indicator. -/
def plainWord (inFlow : Bool) (start : Mark) : Nat → Scan (List Char)
  | 0 => return []
  | fuel + 1 => do
    let place ← get
    match place.look with
    | none => return []
    | some c =>
      if place.endsWord then return []
      else if inFlow && c = ':' && (place.look 1).any fun d => isFlowEnd d || d = '?' then
        fail .unexpectedColon .plainScalar start
      else if c = ':' && place.endsWord 1 || inFlow && isFlowEnd c then return []
      else
        skip
        return c :: (← plainWord inFlow start fuel)

/-- What is left of a plain scalar, after the text, the place its last word ended, and the gap
behind it. -/
def plainRest (inFlow : Bool) (indent : Nat) (start : Mark) :
    Nat → List Char → Place → Gap → Scan (List Char × Place × Gap)
  | 0, text, stop, g => return (text, stop, g)
  | fuel + 1, text, stop, g => do
    let place ← get
    if place.seesAnyDocumentMark || place.sees '#' then return (text, stop, g)
    else
      let word ← plainWord inFlow start place.rest.length
      let behind ← get
      let (text, stop, g) :=
        if word.isEmpty then (text, stop, g) else (text ++ g.folded ++ word, behind, {})
      if !(behind.seesBlank || behind.seesBreak) then return (text, stop, g)
      else
        let g ← gap (some (indent, start)) behind.rest.length g
        if !inFlow && (← get).mark.column < indent then return (text, stop, g)
        else plainRest inFlow indent start fuel text stop g

/-- A plain scalar: its text, the mark behind it, and whether a line ended after it. -/
def plainScalar (inFlow : Bool) (indent : Nat) : Scan (String × Mark × Bool) := do
  let place ← get
  let (text, stop, g) ←
    plainRest inFlow indent place.mark (place.rest.length + 1) [] place {}
  return (String.ofList text, stop.mark, g.broken)

/-- What a letter behind a backslash stands for. -/
def simpleEscape? : Char → Option Char
  | '0' => some '\x00'
  | 'a' => some '\x07'
  | 'b' => some '\x08'
  | 't' | '\t' => some '\t'
  | 'n' => some '\n'
  | 'v' => some '\x0b'
  | 'f' => some '\x0c'
  | 'r' => some '\r'
  | 'e' => some '\x1b'
  | ' ' => some ' '
  | '\x22' => some '\x22'
  | '/' => some '/'
  | '\\' => some '\\'
  | 'N' => some '\u0085'
  | '_' => some '\u00a0'
  | 'L' => some '\u2028'
  | 'P' => some '\u2029'
  | _ => none

/-- How many digits an escape by number has. -/
def escapeDigits? : Char → Option Nat
  | 'x' => some 2
  | 'u' => some 4
  | 'U' => some 8
  | _ => none

/-- The character of an escape, at its backslash. -/
def escape (start : Mark) : Scan Char := do
  match (← get).look 1 with
  | none => fail .unknownEscape .quotedEscape start
  | some letter =>
    match simpleEscape? letter, escapeDigits? letter with
    | some c, _ => do
      skip 2
      return c
    | none, some n => do
      skip 2
      let digits := (← get).rest.take n
      match digits.mapM hexValue? with
      | none => fail .missingHexNumber .quotedEscape start
      | some values =>
        if values.length < n then fail .missingHexNumber .quotedEscape start
        else
          let value := values.foldl (fun v d => v * 16 + d) 0
          if 0xD800 ≤ value ∧ value ≤ 0xDFFF ∨ 0x10FFFF < value then
            fail .invalidCodePoint .quotedEscape start
          else
            skip n
            return Char.ofNat value
    | none, none => fail .unknownEscape .quotedEscape start

/-- The words of a quoted scalar, up to a blank, a break or the closing quote; also whether an
escaped break ended the line. -/
def quotedWord (quote : Char) (start : Mark) : Nat → Scan (List Char × Bool)
  | 0 => return ([], false)
  | fuel + 1 => do
    let place ← get
    match place.look with
    | none => return ([], false)
    | some c =>
      if place.endsWord then return ([], false)
      else if quote = '\x27' && c = quote && place.look 1 = some quote then
        skip 2
        let (word, broken) ← quotedWord quote start fuel
        return (c :: word, broken)
      else if c = quote then return ([], false)
      else if quote = '\x22' && c = '\\' then
        if (place.look 1).any isBreak then
          skip 2
          return ([], true)
        else
          let c ← escape start
          let (word, broken) ← quotedWord quote start fuel
          return (c :: word, broken)
      else
        skip
        let (word, broken) ← quotedWord quote start fuel
        return (c :: word, broken)

/-- What is left of a quoted scalar after the text, and its closing quote. -/
def quotedRest (quote : Char) (start : Mark) : Nat → List Char → Scan (List Char)
  | 0, text => return text
  | fuel + 1, text => do
    let place ← get
    if place.seesAnyDocumentMark then fail .documentIndicator .quotedScalar start
    else if place.atEnd then fail .endOfStream .quotedScalar start
    else
      let (word, broken) ← quotedWord quote start place.rest.length
      let behind ← get
      if behind.sees quote then
        skip
        return text ++ word
      else
        let g ← gap none behind.rest.length { broken }
        quotedRest quote start fuel (text ++ word ++ g.folded)

def quotedScalar (quote : Char) : Scan String := do
  let place ← get
  skip
  return String.ofList (← quotedRest quote place.mark (place.rest.length + 1) [])

/-- What becomes of the breaks at the end of a block scalar. -/
inductive Chomping where
  | strip | clip | keep
deriving DecidableEq, Repr

def chomping? : Scan (Option Chomping) := do
  match (← get).look with
  | some '+' => do skip; return some .keep
  | some '-' => do skip; return some .strip
  | _ => return none

def increment? (start : Mark) : Scan (Option Nat) := do
  match (← get).look with
  | some c =>
    if c = '0' then fail .zeroIndentation .blockScalar start
    else if c.isDigit then do
      skip
      return some (c.toNat - '0'.toNat)
    else return none
  | none => return none

/-- The indicators of a block scalar, in either order. -/
def blockHeader (start : Mark) : Scan (Chomping × Option Nat) := do
  match ← chomping? with
  | some chomping => return (chomping, ← increment? start)
  | none =>
    let increment ← increment? start
    match increment with
    | none => return (.clip, none)
    | some _ => return ((← chomping?).getD .clip, increment)

/-- The empty lines before a line of a block scalar: their breaks, the widest indentation, and the
mark behind the last break. An indentation that is not known yet is 0. -/
def blockBreaks (indent : Nat) (start : Mark) :
    Nat → List Char → Nat → Mark → Scan (List Char × Nat × Mark)
  | 0, breaks, widest, stop => return (breaks, widest, stop)
  | fuel + 1, breaks, widest, stop => do
    let place ← get
    let spaces := (place.rest.takeWhile (· = ' ')).length
    skip (if indent = 0 then spaces else min spaces (indent - place.mark.column))
    let place ← get
    let widest := max widest place.mark.column
    if (indent = 0 || place.mark.column < indent) && place.sees '\t' then
      fail .tabInIndentation .blockScalar start
    else
      match place.look with
      | some c =>
        if isBreak c then
          skip
          blockBreaks indent start fuel (breaks ++ [c]) widest (← get).mark
        else return (breaks, widest, stop)
      | none => return (breaks, widest, stop)

/-- A block scalar that is being read. -/
structure Block where
  text : List Char := []
  /-- The break behind the last line. -/
  leadingBreak : List Char := []
  /-- The breaks of the empty lines after it. -/
  trailingBreaks : List Char := []
  /-- The last line began with a blank. -/
  leadingBlank : Bool := false
  stop : Mark := {}

/-- The breaks between the last line and the next one. -/
def Block.joint (b : Block) (literal trailingBlank : Bool) : List Char :=
  if !literal && b.leadingBreak.head? = some '\n' && !b.leadingBlank && !trailingBlank then
    if b.trailingBreaks.isEmpty then [' '] else b.trailingBreaks
  else b.leadingBreak ++ b.trailingBreaks

/-- The lines of a block scalar. -/
def blockLines (literal : Bool) (indent : Nat) (start : Mark) : Nat → Block → Scan Block
  | 0, b => return b
  | fuel + 1, b => do
    let place ← get
    if place.mark.column ≠ indent || place.atEnd then return b
    else
      let line ← takeWhile fun c => !isBreak c
      let behind ← get
      let leadingBreak := behind.look.toList
      skip
      let text := b.text ++ b.joint literal place.seesBlank ++ line
      let here ← get
      let (trailingBreaks, _, stop) ←
        blockBreaks indent start (here.rest.length + 1) [] 0 here.mark
      blockLines literal indent start fuel
        { text, leadingBreak, trailingBreaks, leadingBlank := place.seesBlank, stop }

/-- A block scalar inside a collection at the given column, if any; also the mark behind it. -/
def blockScalar (literal : Bool) (parent : Option Nat) : Scan (String × Mark) := do
  let start := (← get).mark
  skip
  let (chomping, increment) ← blockHeader start
  lineEnd .blockScalar start
  let place ← get
  let given := (increment.map (parent.getD 0 + ·)).getD 0
  let (trailingBreaks, widest, stop) ←
    blockBreaks given start (place.rest.length + 1) [] 0 place.mark
  let least := match parent with
    | none => 1
    | some column => column + 1
  let indent := if given = 0 then max widest least else given
  let b ← blockLines literal indent start (place.rest.length + 1) { trailingBreaks, stop }
  let ending := match chomping with
    | .strip => []
    | .clip => b.leadingBreak
    | .keep => b.leadingBreak ++ b.trailingBreaks
  return (String.ofList (b.text ++ ending), b.stop)

end AlarmEscalation.Yaml.Scan
