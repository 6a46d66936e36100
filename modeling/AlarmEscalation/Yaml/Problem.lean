/-!
What keeps a text from being a YAML document: the problem, where it is, and what was being read
there. Lines and columns count characters from 0 and are shown from 1.
-/
namespace AlarmEscalation.Yaml

structure Mark where
  index : Nat := 0
  line : Nat := 0
  column : Nat := 0
deriving DecidableEq, Repr

namespace Mark

def isStart (m : Mark) : Bool := m.line = 0 && m.column = 0

def samePlace (m n : Mark) : Bool := m.line = n.line && m.column = n.column

def shown (m : Mark) : String :=
  "line " ++ toString (m.line + 1) ++ " column " ++ toString (m.column + 1)

/-- The mark after a text, unless it is the start of the document. -/
def suffix (m : Mark) : String := if m.isStart then "" else " at " ++ m.shown

end Mark

inductive Cause where
  | controlCharacter
  | cannotStartToken
  | missingColon
  | blockEntryNotAllowed | keyNotAllowed | valueNotAllowed
  | missingDirectiveName | nonAlphabetical | unknownDirective | missingCommentOrBreak
  | missingDigitOrPoint | longVersionNumber | missingVersionNumber
  | missingBlank | missingBlankOrBreak
  | missingAlphanumeric
  | missingTagMark | missingTagUri | missingTagEnd
  | missingOctet | wrongLeadingOctet | wrongTrailingOctet
  | zeroIndentation | tabInIndentation | tabViolatesIndentation
  | documentIndicator | endOfStream | unknownEscape | missingHexNumber | invalidCodePoint
  | unexpectedColon
  | missingDocumentStart | duplicateVersion | incompatibleVersion | duplicateTagHandle
  | undefinedTagHandle | missingNode
  | missingDash | missingKey | missingListEnd | missingMapEnd
deriving DecidableEq, Repr

def Cause.message : Cause → String
  | .controlCharacter => "control characters are not allowed"
  | .cannotStartToken => "found character that cannot start any token"
  | .missingColon => "could not find expected \x27:\x27"
  | .blockEntryNotAllowed => "block sequence entries are not allowed in this context"
  | .keyNotAllowed => "mapping keys are not allowed in this context"
  | .valueNotAllowed => "mapping values are not allowed in this context"
  | .missingDirectiveName => "could not find expected directive name"
  | .nonAlphabetical => "found unexpected non-alphabetical character"
  | .unknownDirective => "found unknown directive name"
  | .missingCommentOrBreak => "did not find expected comment or line break"
  | .missingDigitOrPoint => "did not find expected digit or \x27.\x27 character"
  | .longVersionNumber => "found extremely long version number"
  | .missingVersionNumber => "did not find expected version number"
  | .missingBlank => "did not find expected whitespace"
  | .missingBlankOrBreak => "did not find expected whitespace or line break"
  | .missingAlphanumeric => "did not find expected alphabetic or numeric character"
  | .missingTagMark => "did not find expected \x27!\x27"
  | .missingTagUri => "did not find expected tag URI"
  | .missingTagEnd => "did not find the expected \x27>\x27"
  | .missingOctet => "did not find URI escaped octet"
  | .wrongLeadingOctet => "found an incorrect leading UTF-8 octet"
  | .wrongTrailingOctet => "found an incorrect trailing UTF-8 octet"
  | .zeroIndentation => "found an indentation indicator equal to 0"
  | .tabInIndentation => "found a tab character where an indentation space is expected"
  | .tabViolatesIndentation => "found a tab character that violates indentation"
  | .documentIndicator => "found unexpected document indicator"
  | .endOfStream => "found unexpected end of stream"
  | .unknownEscape => "found unknown escape character"
  | .missingHexNumber => "did not find expected hexdecimal number"
  | .invalidCodePoint => "found invalid Unicode character escape code"
  | .unexpectedColon => "found unexpected \x27:\x27"
  | .missingDocumentStart => "did not find expected <document start>"
  | .duplicateVersion => "found duplicate %YAML directive"
  | .incompatibleVersion => "found incompatible YAML document"
  | .duplicateTagHandle => "found duplicate %TAG directive"
  | .undefinedTagHandle => "found undefined tag handle"
  | .missingNode => "did not find expected node content"
  | .missingDash => "did not find expected \x27-\x27 indicator"
  | .missingKey => "did not find expected key"
  | .missingListEnd => "did not find expected \x27,\x27 or \x27]\x27"
  | .missingMapEnd => "did not find expected \x27,\x27 or \x27\x7d\x27"

/-- What was being read. -/
inductive Context where
  | nextToken | simpleKey | directive | versionDirective | tagDirectiveScan
  | tagDirectiveHandle | tagDirectiveUri | tagDirectiveHandleEnd
  | anchor | alias | tag | tagUri
  | blockScalar | quotedScalar | quotedEscape | plainScalar
  | node | blockNode | flowNode
  | blockSequence | blockMapping | flowSequence | flowMapping
deriving DecidableEq, Repr

def Context.message : Context → String
  | .nextToken => "while scanning for the next token"
  | .simpleKey => "while scanning a simple key"
  | .directive => "while scanning a directive"
  | .versionDirective => "while scanning a %YAML directive"
  | .tagDirectiveScan => "while scanning a %TAG directive"
  | .tagDirectiveHandle => "while scanning a tag directive"
  | .tagDirectiveHandleEnd => "while parsing a tag directive"
  | .tagDirectiveUri => "while parsing a %TAG directive"
  | .anchor => "while scanning an anchor"
  | .alias => "while scanning an alias"
  | .tag => "while scanning a tag"
  | .tagUri => "while parsing a tag"
  | .blockScalar => "while scanning a block scalar"
  | .quotedScalar => "while scanning a quoted scalar"
  | .quotedEscape => "while parsing a quoted scalar"
  | .plainScalar => "while scanning a plain scalar"
  | .node => "while parsing a node"
  | .blockNode => "while parsing a block node"
  | .flowNode => "while parsing a flow node"
  | .blockSequence => "while parsing a block collection"
  | .blockMapping => "while parsing a block mapping"
  | .flowSequence => "while parsing a flow sequence"
  | .flowMapping => "while parsing a flow mapping"

structure Problem where
  cause : Cause
  mark : Mark := {}
  /-- Where in the text, in bytes, a character stands that is not allowed. -/
  offset : Nat := 0
  context : Option (Context × Mark) := none
deriving DecidableEq, Repr

def Problem.message (p : Problem) : String :=
  let place :=
    if p.mark.isStart then if p.offset = 0 then "" else " at position " ++ toString p.offset
    else p.mark.suffix
  let context := match p.context with
    | none => ""
    | some (context, mark) =>
      ", " ++ context.message ++ if mark.samePlace p.mark then "" else mark.suffix
  p.cause.message ++ place ++ context

end AlarmEscalation.Yaml
