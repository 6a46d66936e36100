import AlarmEscalation.Json.Cursor
import AlarmEscalation.Text.Utf8

/-!
Strings in JSON documents: reading them with their escapes, and passing over them.
-/
namespace AlarmEscalation.Json

def glyphsOfBytes (bytes : List UInt8) : List Glyph :=
  (Text.Utf8.pieces 0 bytes).map fun
    | .inl c => .char c
    | .inr b => .byte b

namespace Reader

def hexDigit? (c : Char) : Option Nat :=
  if c.isDigit then some (c.toNat - '0'.toNat)
  else if 'a' ≤ c ∧ c ≤ 'f' then some (c.toNat - 'a'.toNat + 10)
  else if 'A' ≤ c ∧ c ≤ 'F' then some (c.toNat - 'A'.toNat + 10)
  else none

def hexValue? (digits : List Glyph) : Option Nat :=
  digits.foldl
    (fun value g => do return (← value) * 16 + (← g.char?.bind hexDigit?)) (some 0)

/-- Four hexadecimal digits. They are looked for in the next four bytes. -/
def hexEscape : Reader Nat := do
  let c ← get
  if widthOf c.rest < 4 then failAtEnd .eofInString
  else
    match hexValue? (c.rest.take 4) with
    | some value => do
      set { c with rest := c.rest.drop 4, column := c.column + 4 }
      return value
    | none => failWith (·.errorAfter 4 .invalidEscape)

/-- Requires a letter inside the escape of a pair. -/
def pairLetter (letter : Char) : Reader Unit := do
  match ← peek with
  | none => failHere .eofInString
  | some g => if g = .char letter then skip else failAtNext .unexpectedEndOfHexEscape

/-- The character of one hexadecimal escape, or of two that make a pair. -/
def unicodeEscape : Reader Char := do
  let n ← hexEscape
  if 0xDC00 ≤ n ∧ n ≤ 0xDFFF then failHere .loneSurrogate
  else if n < 0xD800 ∨ 0xDBFF < n then return Char.ofNat n
  else
    pairLetter '\\'
    pairLetter 'u'
    let m ← hexEscape
    if m < 0xDC00 ∨ 0xDFFF < m then failHere .loneSurrogate
    else return Char.ofNat ((n - 0xD800) * 1024 + (m - 0xDC00) + 0x10000)

/-- What a letter behind a backslash stands for. -/
def simpleEscape? : Char → Option Char
  | '\x22' => some '\x22'
  | '\\' => some '\\'
  | '/' => some '/'
  | 'b' => some '\x08'
  | 'f' => some '\x0c'
  | 'n' => some '\n'
  | 'r' => some '\r'
  | 't' => some '\t'
  | _ => none

/-- The character of an escape, behind its backslash. -/
def escape : Reader Char := do
  match ← peek with
  | none => failHere .eofInString
  | some g =>
    if g = .char 'u' then do skip; unicodeEscape
    else
      match g.char?.bind simpleEscape? with
      | some c => do skip; return c
      | none => failAtNext .invalidEscape

/-- The rest of a string after `before`. A byte that belongs to no character is reported when the
string has ended, at the place of the first. -/
def stringFrom : Nat → List Char → Option Error → Reader String
  | 0, _, _ => failHere .eofInString
  | fuel + 1, before, broken => do
    match ← peek with
    | none => failHere .eofInString
    | some (.byte _) => do
      let here ← get
      skip
      stringFrom fuel before (broken.or (some (here.errorAtNext .invalidCodePoint)))
    | some (.char c) =>
      if c = '\x22' then do
        skip
        match broken with
        | some e => throw e
        | none => return String.ofList before.reverse
      else if c = '\\' then do
        skip
        let c ← escape
        stringFrom fuel (c :: before) broken
      else if c.toNat < 0x20 then failAtNext .controlCharacter
      else do
        skip
        stringFrom fuel (c :: before) broken

/-- The rest of a string, behind its opening quote. -/
def string : Reader String := do
  stringFrom ((← get).rest.length + 1) [] none

/-- Passes over an escape; a hexadecimal one may stand for no character. -/
def skipEscape : Reader Unit := do
  match ← peek with
  | none => failHere .eofInString
  | some g =>
    if g = .char 'u' then do skip; discard hexEscape
    else if (g.char?.bind simpleEscape?).isSome then skip
    else failAtNext .invalidEscape

def skipStringFrom : Nat → Reader Unit
  | 0 => failHere .eofInString
  | fuel + 1 => do
    match ← peek with
    | none => failHere .eofInString
    | some g =>
      if g = .char '\x22' then skip
      else if g = .char '\\' then do
        skip
        skipEscape
        skipStringFrom fuel
      else if g.char?.any (·.toNat < 0x20) then failHere .controlCharacter
      else do
        skip
        skipStringFrom fuel

/-- Passes over the rest of a string. -/
def skipString : Reader Unit := do skipStringFrom ((← get).rest.length + 1)

end Reader

end AlarmEscalation.Json
