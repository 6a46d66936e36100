import AlarmEscalation.Yaml.Token.Tag
import AlarmEscalation.Yaml.Token.Scalar

/-!
From a text to its tokens. A key of a mapping that carries no mark of its own is known only when the
colon behind it is met: its token, and that of the mapping it opens, are then put in before what was
taken for the key. Tokens that may still get one put in before them are not yet sure, and are lost
if the text goes wrong before they are.
-/
namespace AlarmEscalation.Yaml

/-- A token that may turn out to be a key: its number among the tokens, and its mark. One that is
required has to. -/
structure SimpleKey where
  number : Nat
  mark : Mark
  required : Bool
deriving DecidableEq, Repr

structure Lexer where
  place : Place
  /-- The tokens so far, the last one first. -/
  tokens : List Token := []
  count : Nat := 0
  /-- Columns of the block collections that are open, the innermost first. -/
  indents : List Nat := []
  /-- The possible keys of the open flow collections, the innermost first. -/
  flowKeys : List (Option SimpleKey) := []
  /-- The possible key of the innermost collection. -/
  simpleKey : Option SimpleKey := none
  simpleKeyAllowed : Bool := true
  finished : Bool := false

namespace Lexer

abbrev Step := Except Problem Lexer

def inFlow (l : Lexer) : Bool := !l.flowKeys.isEmpty

def mark (l : Lexer) : Mark := l.place.mark

def push (l : Lexer) (kind : TokenKind) (start stop : Mark) : Lexer :=
  { l with tokens := ⟨kind, start, stop⟩ :: l.tokens, count := l.count + 1 }

/-- Puts a token in as number `n`. -/
def insert (l : Lexer) (n : Nat) (kind : TokenKind) (mark : Mark) : Lexer :=
  let behind := l.count - n
  { l with
    tokens := l.tokens.take behind ++ ⟨kind, mark, mark⟩ :: l.tokens.drop behind
    count := l.count + 1 }

/-- Reads a part of the text. -/
def scan (l : Lexer) (part : Scan α) : Except Problem (α × Lexer) :=
  match part l.place with
  | .error problem => .error problem
  | .ok (a, place) => .ok (a, { l with place })

/-- Goes over blanks, comments and breaks. A line that ends outside of flow collections lets a key
follow. -/
def skipToToken (l : Lexer) : Nat → Lexer
  | 0 => l
  | fuel + 1 =>
    let tabs := l.inFlow || !l.simpleKeyAllowed
    let place := (l.place.skipWhile fun c => c = ' ' || tabs && c = '\t').skipComment
    if place.seesBreak then
      skipToToken { l with
        place := place.next, simpleKeyAllowed := l.simpleKeyAllowed || !l.inFlow } fuel
    else { l with place }

def keyProblem (l : Lexer) (key : SimpleKey) : Problem :=
  l.place.problem .missingColon .simpleKey key.mark

/-- Whether a possible key is too far back: on another line, or more than 1024 characters away. -/
def isStale (l : Lexer) (key : SimpleKey) : Bool :=
  key.mark.line < l.mark.line || key.mark.index + 1024 < l.mark.index

def dropKeyIf (l : Lexer) (drop : SimpleKey → Bool) (key : Option SimpleKey) :
    Except Problem (Option SimpleKey) :=
  match key with
  | none => .ok none
  | some key =>
    if !drop key then .ok (some key)
    else if key.required then .error (l.keyProblem key)
    else .ok none

/-- Gives up the keys that are too far back, those of outer collections first. -/
def dropStaleKeys (l : Lexer) : Step := do
  let outer ← l.flowKeys.reverse.mapM (l.dropKeyIf l.isStale)
  let simpleKey ← l.dropKeyIf l.isStale l.simpleKey
  return { l with flowKeys := outer.reverse, simpleKey }

/-- Gives up the possible key of the innermost collection. -/
def dropKey (l : Lexer) : Step := do
  return { l with simpleKey := ← l.dropKeyIf (fun _ => true) l.simpleKey }

/-- The next token may be a key, if one may stand here. -/
def saveKey (l : Lexer) : Step :=
  if l.simpleKeyAllowed then do
    let required := !l.inFlow && l.indents.head? = some l.mark.column
    let l ← l.dropKey
    return { l with simpleKey := some ⟨l.count, l.mark, required⟩ }
  else .ok l

def allowKey (l : Lexer) (allowed : Bool) : Lexer := { l with simpleKeyAllowed := allowed }

/-- Opens a block collection at a column, unless one is open there, by token number `n`. -/
def openBlock (l : Lexer) (n : Nat) (kind : TokenKind) (mark : Mark) : Lexer :=
  let isOpen := match l.indents with
    | column :: _ => mark.column ≤ column
    | [] => false
  if l.inFlow || isOpen then l
  else { l with indents := mark.column :: l.indents }.insert n kind mark

/-- Closes the block collections that lie deeper than a column; all of them if there is none. -/
def closeBlocks (l : Lexer) (column : Option Nat) : Lexer :=
  if l.inFlow then l
  else
    let deeper := l.indents.takeWhile fun c => column.all (· < c)
    let closed := deeper.foldl (fun l _ => l.push .blockEnd l.mark l.mark) l
    { closed with indents := l.indents.drop deeper.length }

/-- A token of `n` characters. -/
def pushChars (l : Lexer) (kind : TokenKind) (n : Nat := 1) : Lexer :=
  let place := l.place.skip n
  { l with place }.push kind l.mark place.mark

/-- A token that ends where its reading stopped. -/
def pushScanned (l : Lexer) (part : Scan TokenKind) : Step := do
  let (kind, behind) ← l.scan part
  return behind.push kind l.mark behind.mark

def streamEnd (l : Lexer) : Step := do
  let mark := l.mark
  let mark := if mark.column = 0 then mark else { mark with line := mark.line + 1, column := 0 }
  let l := { l with place := { l.place with mark } }.closeBlocks none
  let l ← l.dropKey
  return { (l.allowKey false).push .streamEnd mark mark with finished := true }

def directive (l : Lexer) : Step := do
  let l ← (l.closeBlocks none).dropKey
  let ((kind, stop), behind) ← l.scan Scan.directive
  return (behind.allowKey false).push kind l.mark stop

def documentMark (l : Lexer) (kind : TokenKind) : Step := do
  let l ← (l.closeBlocks none).dropKey
  return (l.allowKey false).pushChars kind 3

def openFlow (l : Lexer) (kind : TokenKind) : Step := do
  let l ← l.saveKey
  let l := { l with flowKeys := l.simpleKey :: l.flowKeys, simpleKey := none }
  return (l.allowKey true).pushChars kind

def closeFlow (l : Lexer) (kind : TokenKind) : Step := do
  let l ← l.dropKey
  let l := match l.flowKeys with
    | key :: keys => { l with flowKeys := keys, simpleKey := key }
    | [] => l
  return (l.allowKey false).pushChars kind

def flowEntry (l : Lexer) : Step := do
  return ((← l.dropKey).allowKey true).pushChars .flowEntry

def blockEntry (l : Lexer) : Step := do
  if !l.inFlow && !l.simpleKeyAllowed then throw (l.place.bareProblem .blockEntryNotAllowed)
  let l ← (l.openBlock l.count .blockSequenceStart l.mark).dropKey
  return (l.allowKey true).pushChars .blockEntry

def key (l : Lexer) : Step := do
  if !l.inFlow && !l.simpleKeyAllowed then throw (l.place.bareProblem .keyNotAllowed)
  let l ← (l.openBlock l.count .blockMappingStart l.mark).dropKey
  return (l.allowKey !l.inFlow).pushChars .key

def value (l : Lexer) : Step := do
  match l.simpleKey with
  | some key =>
    let l := (l.insert key.number .key key.mark).openBlock key.number .blockMappingStart key.mark
    return ({ l with simpleKey := none }.allowKey false).pushChars .value
  | none =>
    if !l.inFlow && !l.simpleKeyAllowed then throw (l.place.bareProblem .valueNotAllowed)
    let l := l.openBlock l.count .blockMappingStart l.mark
    return (l.allowKey !l.inFlow).pushChars .value

def anchor (l : Lexer) (context : Context) (kind : String → TokenKind) : Step := do
  let l ← l.saveKey
  (l.allowKey false).pushScanned do return kind (← Scan.name context)

def tag (l : Lexer) : Step := do
  let l ← l.saveKey
  (l.allowKey false).pushScanned (Scan.tag l.inFlow)

def blockScalar (l : Lexer) (style : ScalarStyle) : Step := do
  let l ← l.dropKey
  let ((text, stop), behind) ← l.scan (Scan.blockScalar (style = .literal) l.indents.head?)
  return (behind.allowKey true).push (.scalar text style) l.mark stop

def quotedScalar (l : Lexer) (quote : Char) (style : ScalarStyle) : Step := do
  let l ← l.saveKey
  (l.allowKey false).pushScanned do return .scalar (← Scan.quotedScalar quote) style

def plainScalar (l : Lexer) : Step := do
  let l ← l.saveKey
  let indent := match l.indents with
    | column :: _ => column + 1
    | [] => 0
  let ((text, stop, broken), behind) ← l.scan (Scan.plainScalar l.inFlow indent)
  return (behind.allowKey broken).push (.scalar text .plain) l.mark stop

/-- Characters that no plain scalar begins with. -/
def isIndicator (c : Char) : Bool := "-?:,[]\x7b\x7d#&*!|>\x27\x22%@\x60".toList.contains c

/-- The token at the place. -/
def token (l : Lexer) : Step :=
  let p := l.place
  match p.look with
  | none => l.streamEnd
  | some c =>
    let alone := p.endsWord 1
    if p.mark.column = 0 && c = '%' then l.directive
    else if p.seesDocumentMark '-' then l.documentMark .documentStart
    else if p.seesDocumentMark '.' then l.documentMark .documentEnd
    else if c = '[' then l.openFlow .flowSequenceStart
    else if c = '\x7b' then l.openFlow .flowMappingStart
    else if c = ']' then l.closeFlow .flowSequenceEnd
    else if c = '\x7d' then l.closeFlow .flowMappingEnd
    else if c = ',' then l.flowEntry
    else if c = '-' && alone then l.blockEntry
    else if c = '?' && (l.inFlow || alone) then l.key
    else if c = ':' && (l.inFlow || alone) then l.value
    else if c = '*' then l.anchor .alias .alias
    else if c = '&' then l.anchor .anchor .anchor
    else if c = '!' then l.tag
    else if c = '|' && !l.inFlow then l.blockScalar .literal
    else if c = '>' && !l.inFlow then l.blockScalar .folded
    else if c = '\x27' then l.quotedScalar '\x27' .singleQuoted
    else if c = '\x22' then l.quotedScalar '\x22' .doubleQuoted
    else if !(p.endsWord || isIndicator c) || c = '-' && !alone ||
        !l.inFlow && (c = '?' || c = ':') && !alone then l.plainScalar
    else .error (p.problem .cannotStartToken .nextToken p.mark)

/-- Goes to the next token, closes what ends before it, and reads it. -/
def step (l : Lexer) : Step := do
  let l := l.skipToToken (l.place.rest.length + 1)
  let l ← l.dropStaleKeys
  (l.closeBlocks (some l.mark.column)).token

/-- How many tokens are sure: those before the first that may still turn out to be a key. -/
def sureCount (l : Lexer) : Nat :=
  (l.simpleKey :: l.flowKeys).foldl (fun n key => key.elim n fun k => min n k.number) l.count

/-- The tokens that are sure when the text goes wrong. -/
def sureTokens (l : Lexer) : List Token := (l.tokens.drop (l.count - l.sureCount)).reverse

/-- Reads tokens to the end of the text, or to the problem that ends them. -/
def run : Nat → Lexer → List Token × Option Problem
  | 0, l => (l.tokens.reverse, none)
  | fuel + 1, l =>
    if l.finished then (l.tokens.reverse, none)
    else
      match l.step with
      | .error problem => (l.sureTokens, some problem)
      | .ok next =>
        match next.dropStaleKeys with
        | .error problem => (next.sureTokens, some problem)
        | .ok next => run fuel next

end Lexer

/-- The tokens of a text, and what keeps it from having more. A byte order mark that begins the text
is passed over like a blank. -/
def tokensOf (text : String) : List Token × Option Problem :=
  match firstForbidden? 0 text.toList with
  | some offset => ([], some { cause := .controlCharacter, offset })
  | none =>
    let place : Place := { rest := unifyBreaks text.toList }
    let place := if place.sees '\uFEFF' then place.next else place
    Lexer.run (place.rest.length + 2) { place }

end AlarmEscalation.Yaml
