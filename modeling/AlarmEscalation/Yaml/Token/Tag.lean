import AlarmEscalation.Yaml.Token.Basic

/-!
Names of anchors, tags, and directives.
-/
namespace AlarmEscalation.Yaml.Scan

/-- The name behind `&` or `*`. -/
def name (context : Context) : Scan String := do
  let start := (← get).mark
  skip
  let text ← takeWhile isWordChar
  let place ← get
  let ended := place.endsWord || place.look.any fun c => "?:,]\x7d%@\x60".toList.contains c
  if text.isEmpty || !ended then fail .missingAlphanumeric context start
  return String.ofList text

/-- How many octets a character has, by the first of them. -/
def octetCount? (octet : Nat) : Option Nat :=
  if octet < 0x80 then some 1
  else if octet < 0xC0 then none
  else if octet < 0xE0 then some 2
  else if octet < 0xF0 then some 3
  else if octet < 0xF8 then some 4
  else none

/-- An octet that is written as a percent sign and two digits. -/
def octet (context : Context) (start : Mark) : Scan Nat := do
  let place ← get
  match place.look 0, (place.look 1).bind hexValue?, (place.look 2).bind hexValue? with
  | some '%', some high, some low => return high * 16 + low
  | _, _, _ => fail .missingOctet context start

/-- The octets that follow the first one of a character. -/
def moreOctets (context : Context) (start : Mark) : Nat → Nat → Scan Nat
  | 0, value => return value
  | n + 1, value => do
    let b ← octet context start
    if b < 0x80 ∨ 0xC0 ≤ b then fail .wrongTrailingOctet context start
    skip 3
    moreOctets context start n (value * 64 + b % 64)

/-- A character in octets. -/
def escapedChar (context : Context) (start : Mark) : Scan Char := do
  let first ← octet context start
  match octetCount? first with
  | none => fail .wrongLeadingOctet context start
  | some n =>
    skip 3
    let leading := if n = 1 then first else first % Nat.pow 2 (7 - n)
    return Char.ofNat (← moreOctets context start (n - 1) leading)

def isUriChar (bracketed : Bool) (c : Char) : Bool :=
  isWordChar c || ";/?:@&=+$.%!~*\x27()".toList.contains c || bracketed && ",[]".toList.contains c

/-- Characters of a URI; the first argument bounds their number. -/
def uriChars (bracketed : Bool) (context : Context) (start : Mark) : Nat → Scan (List Char)
  | 0 => return []
  | fuel + 1 => do
    match (← get).look with
    | none => return []
    | some c =>
      if c = '%' then
        let c ← escapedChar context start
        return c :: (← uriChars bracketed context start fuel)
      else if isUriChar bracketed c then
        skip
        return c :: (← uriChars bracketed context start fuel)
      else return []

/-- A URI. A handle that turned out to be the beginning of one is passed on without its mark. -/
def uri (bracketed : Bool) (context : Context) (handle : List Char) (start : Mark) :
    Scan String := do
  let text ← uriChars bracketed context start ((← get).rest.length)
  if handle.isEmpty && text.isEmpty then fail .missingTagUri context start
  return String.ofList (handle.drop 1 ++ text)

/-- A handle: a mark, or a word between two marks. A word without the second mark is none, unless
it is part of a tag. -/
def handle (inDirective : Bool) (start : Mark) : Scan (List Char) := do
  if !(← get).sees '!' then
    fail .missingTagMark (if inDirective then .tagDirectiveHandle else .tag) start
  skip
  let word ← takeWhile isWordChar
  if (← get).sees '!' then
    skip
    return '!' :: word ++ ['!']
  else if inDirective && !word.isEmpty then fail .missingTagMark .tagDirectiveHandleEnd start
  else return '!' :: word

/-- The handle and the suffix of a tag. -/
def tagParts (start : Mark) : Scan (String × String) := do
  if (← get).look 1 = some '<' then
    skip 2
    let suffix ← uri true .tagUri [] start
    if !(← get).sees '>' then fail .missingTagEnd .tag start
    skip
    return ("", suffix)
  else
    let handle ← handle false start
    if 2 ≤ handle.length && handle.getLast? = some '!' then
      return (String.ofList handle, ← uri false .tagUri [] start)
    else
      let suffix ← uri false .tagUri handle start
      return if suffix = "" then ("", "!") else ("!", suffix)

def tag (inFlow : Bool) : Scan TokenKind := do
  let start := (← get).mark
  let (handle, suffix) ← tagParts start
  if !(inFlow && (← get).sees ',') then wordEnd .missingBlankOrBreak .tag start
  return .tag handle suffix

/-- A number of a version. -/
def versionNumber (start : Mark) : Scan Nat := do
  let digits := (← get).rest.takeWhile Char.isDigit
  if 9 < digits.length then
    skip 9
    fail .longVersionNumber .versionDirective start
  if digits.isEmpty then fail .missingVersionNumber .versionDirective start
  skip digits.length
  return digits.foldl (fun n c => n * 10 + (c.toNat - '0'.toNat)) 0

def directiveValue (name : String) (start : Mark) : Scan TokenKind := do
  if name = "YAML" then
    skipWhile isBlank
    let major ← versionNumber start
    if !(← get).sees '.' then fail .missingDigitOrPoint .versionDirective start
    skip
    return .version major (← versionNumber start)
  else if name = "TAG" then
    skipWhile isBlank
    let handle ← handle true start
    if !(← get).seesBlank then fail .missingBlank .tagDirectiveScan start
    skipWhile isBlank
    let expansion ← uri true .tagDirectiveUri [] start
    wordEnd .missingBlankOrBreak .tagDirectiveScan start
    return .tagHandle (String.ofList handle) expansion
  else fail .unknownDirective .directive start

/-- A directive, with the rest of its line; also the mark behind its value. -/
def directive : Scan (TokenKind × Mark) := do
  let start := (← get).mark
  skip
  let name ← takeWhile isWordChar
  if name.isEmpty then fail .missingDirectiveName .directive start
  wordEnd .nonAlphabetical .directive start
  let kind ← directiveValue (String.ofList name) start
  let stop := (← get).mark
  lineEnd .directive start
  return (kind, stop)

end AlarmEscalation.Yaml.Scan
