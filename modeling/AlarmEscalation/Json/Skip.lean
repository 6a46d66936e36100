import AlarmEscalation.Json.Text
import AlarmEscalation.Json.Number

/-!
Passing over a value that nobody asked for. Its brackets, strings and numbers have to be in order,
but no more is asked of them.
-/
namespace AlarmEscalation.Json.Reader

/-- The rest of a word that stands for a value, behind its first letter. -/
def wordTail : Char → Option (List Char)
  | 'n' => some "ull".toList
  | 't' => some "rue".toList
  | 'f' => some "alse".toList
  | _ => none

/-- A key that is passed over, with the colon behind it. -/
def skipKey : Reader Unit := do
  match ← peekToken with
  | none => failAtNext .eofInObject
  | some g =>
    if g = .char '\x22' then do
      skip
      skipString
      match ← peekToken with
      | none => failAtNext .eofInObject
      | some g => if g = .char ':' then skip else failAtNext .expectedColon
    else failAtNext .keyMustBeString

mutual

/-- Passes over a value. The first argument bounds how much is read. -/
def skipValueWithin : Nat → Reader Unit
  | 0 => failAtNext .eofInValue
  | fuel + 1 => do
    match ← peekToken with
    | none => failAtNext .eofInValue
    | some (.byte _) => failAtNext .expectedValue
    | some (.char c) =>
      if c = '\x22' then do skip; skipString
      else if c = '-' then do skip; skipNumber
      else if c.isDigit then skipNumber
      else if c = '[' then do
        skip
        match ← peekToken with
        | none => failAtNext .eofInList
        | some g => if g = .char ']' then skip else skipElements fuel
      else if c = '\x7b' then do
        skip
        match ← peekToken with
        | none => failAtNext .eofInObject
        | some g => if g = .char '\x7d' then skip else skipMembers fuel
      else
        match wordTail c with
        | some letters => do skip; word letters
        | none => failAtNext .expectedValue

/-- Passes over the elements of a list and its end. -/
def skipElements : Nat → Reader Unit
  | 0 => failAtNext .eofInList
  | fuel + 1 => do
    skipValueWithin fuel
    match ← peekToken with
    | none => failAtNext .eofInList
    | some g =>
      if g = .char ']' then skip
      else if g = .char ',' then do skip; skipElements fuel
      else failAtNext .expectedListCommaOrEnd

/-- Passes over the members of an object and its end. -/
def skipMembers : Nat → Reader Unit
  | 0 => failAtNext .eofInObject
  | fuel + 1 => do
    skipKey
    skipValueWithin fuel
    match ← peekToken with
    | none => failAtNext .eofInObject
    | some g =>
      if g = .char '\x7d' then skip
      else if g = .char ',' then do skip; skipMembers fuel
      else failAtNext .expectedObjectCommaOrEnd

end

/-- Passes over a value. -/
def skipValue : Reader Unit := do skipValueWithin (2 * (← get).rest.length + 2)

end AlarmEscalation.Json.Reader
