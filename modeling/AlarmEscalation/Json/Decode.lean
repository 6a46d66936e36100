import AlarmEscalation.Json.Skip

/-!
Reading JSON documents into values of a known shape. A structure may be given as an object, whose
unknown members are passed over, or as a list of its fields in order. Where several things are
wrong, the first in the order of reading is reported; what is wrong with a structure as a whole is
reported behind its end.
-/
namespace AlarmEscalation.Json

open Decoding

namespace Reader

/-- Reports the value at the cursor, which is not of the expected type. -/
def unexpected (expected : String) : Reader α := do
  match ← peekToken with
  | none => failAtNext .expectedValue
  | some (.byte _) => failAtNext .expectedValue
  | some (.char c) =>
    if c = '\x22' then do
      skip
      mismatch (.invalidType (.text (← string)) expected)
    else if c = '-' then do
      skip
      mismatch (.invalidType (← number false).found expected)
    else if c.isDigit then mismatch (.invalidType (← number true).found expected)
    else if c = '[' then mismatch (.invalidType .sequence expected)
    else if c = '\x7b' then mismatch (.invalidType .mapping expected)
    else
      match wordTail c with
      | none => failAtNext .expectedValue
      | some letters => do
        skip
        word letters
        mismatch (.invalidType
          (if c = 'n' then .unit else .boolean (c = 't')) expected)

/-- The first glyph of a value. -/
def valueStart : Reader Glyph := do
  match ← peekToken with
  | none => failAtNext .eofInValue
  | some g => return g

/-- A string, made into something else by `make`. -/
def textAs (expected : String) (make : String → Except Mismatch α) : Reader α := do
  if (← valueStart) = .char '\x22' then do
    skip
    match make (← string) with
    | .ok a => return a
    | .error m => mismatch m
  else unexpected expected

def text : Reader String := textAs "a string" .ok

def bool : Reader Bool := do
  let start ← valueStart
  if start = .char 't' then do skip; word "rue".toList; return true
  else if start = .char 'f' then do skip; word "alse".toList; return false
  else unexpected "a boolean"

/-- A natural number up to `limit`; `expected` names its type. -/
def natural (limit : Nat) (expected : String) : Reader Nat := do
  let start ← valueStart
  if start = .char '-' ∨ start.isDigit then
    let read : Reader Number :=
      if start = .char '-' then do skip; number false else number true
    match ← read with
    | .float value => mismatch (.invalidType (.float value) expected)
    | .integer value =>
      if 0 ≤ value ∧ value ≤ limit then return value.toNat
      else mismatch (.invalidValue (.integer value) expected)
  else unexpected expected

/-- A value that may be missing. -/
def optional (value : Reader α) : Reader (Option α) := do
  match ← peekToken with
  | some (.char 'n') => do skip; word "ull".toList; return none
  | _ => return some (← value)

/-- Whether a list goes on. -/
def hasElement (first : Bool) : Reader Bool := do
  match ← peekToken with
  | none => failAtNext .eofInList
  | some g =>
    if g = .char ']' then return false
    else if first then return true
    else if g = .char ',' then do
      skip
      match ← peekToken with
      | none => failAtNext .eofInValue
      | some g => if g = .char ']' then failAtNext .trailingComma else return true
    else failAtNext .expectedListCommaOrEnd

/-- Whether an object goes on, with a string as the next key. -/
def hasMember (first : Bool) : Reader Bool := do
  match ← peekToken with
  | none => failAtNext .eofInObject
  | some g =>
    if g = .char '\x7d' then return false
    else if first then
      if g = .char '\x22' then return true else failAtNext .keyMustBeString
    else if g = .char ',' then do
      skip
      match ← peekToken with
      | none => failAtNext .eofInValue
      | some g =>
        if g = .char '\x22' then return true
        else if g = .char '\x7d' then failAtNext .trailingComma
        else failAtNext .keyMustBeString
    else failAtNext .expectedObjectCommaOrEnd

/-- The key at its opening quote. -/
def key : Reader String := do skip; string

def colon : Reader Unit := do
  match ← peekToken with
  | none => failAtNext .eofInObject
  | some g => if g = .char ':' then skip else failAtNext .expectedColon

def closeList : Reader Unit := do
  match ← peekToken with
  | none => failAtNext .eofInList
  | some g =>
    if g = .char ']' then skip
    else if g = .char ',' then do
      skip
      match ← peekToken with
      | some (.char ']') => failAtNext .trailingComma
      | _ => failAtNext .trailingCharacters
    else failAtNext .trailingCharacters

def closeObject : Reader Unit := do
  match ← peekToken with
  | none => failAtNext .eofInObject
  | some g =>
    if g = .char '\x7d' then skip
    else if g = .char ',' then failAtNext .trailingComma
    else failAtNext .trailingCharacters

/-- Ends a list or an object. What is wrong with it as a whole is reported where its end was looked
for, whether or not it was there. -/
def closeWith (close : Reader Unit) (found : Except Mismatch α) : Reader α := do
  match found with
  | .ok a => do close; return a
  | .error m => do
    try close catch _ => pure ()
    mismatch m

/-- The elements of a list. -/
def elements (element : Reader α) : Nat → Bool → List α → Reader (List α)
  | 0, _, read => return read.reverse
  | fuel + 1, first, read => do
    if ← hasElement first then elements element fuel false ((← element) :: read)
    else return read.reverse

def list (element : Reader α) : Reader (List α) := do
  if (← valueStart) = .char '[' then do
    skip
    let read ← elements element ((← get).rest.length + 1) true []
    closeList
    return read
  else unexpected "a sequence"

/-- The members of an object, in the order in which they stand. -/
def members (value : Reader α) : Nat → Bool → List (String × α) → Reader (List (String × α))
  | 0, _, read => return read.reverse
  | fuel + 1, first, read => do
    if ← hasMember first then
      let name ← key
      colon
      members value fuel false ((name, ← value) :: read)
    else return read.reverse

/-- An object with values of one type under keys of any name. -/
def object (value : Reader α) : Reader (List (String × α)) := do
  if (← valueStart) = .char '\x7b' then do
    skip
    let read ← members value ((← get).rest.length + 1) true []
    closeObject
    return read
  else unexpected "a map"

end Reader

/-- A field of a structure: its name, how a value for it is read and stored, and whether the
structure needs one. -/
structure Slot (S : Type) where
  name : String
  required : Bool
  store : S → Reader S

namespace Slot

open Reader

/-- Members of an object, stored in their slots; the others are passed over. -/
def ofObject (slots : List (Slot S)) :
    Nat → Bool → List String → S → Reader (Except Mismatch (List String × S))
  | 0, _, seen, s => return .ok (seen, s)
  | fuel + 1, first, seen, s => do
    if ← hasMember first then
      let name ← key
      match slots.find? fun slot => slot.name == name with
      | none => do
        colon
        skipValue
        ofObject slots fuel false seen s
      | some slot =>
        if seen.contains name then return .error (.duplicateField name)
        else do
          colon
          ofObject slots fuel false (name :: seen) (← slot.store s)
    else return .ok (seen, s)

/-- The first slot that needs a value and got none. -/
def firstMissing? (slots : List (Slot S)) (seen : List String) : Option (Slot S) :=
  slots.find? fun slot => slot.required && !seen.contains slot.name

/-- Elements of a list, stored in the slots in their order. -/
def ofList (shape : String) : List (Slot S) → Nat → S → Reader (Except Mismatch S)
  | [], _, s => return .ok s
  | slot :: slots, index, s => do
    if ← hasElement (index == 0) then ofList shape slots (index + 1) (← slot.store s)
    else if slot.required then return .error (.invalidLength index shape)
    else ofList shape slots index s

end Slot

open Reader in
/-- A structure, given as an object or as a list of its fields; `s` holds what a field is if it is
not given. -/
def ofFields (title : String) (slots : List (Slot S)) (s : S) : Reader S := do
  let start ← valueStart
  if start = .char '\x7b' then do
    skip
    let found ← Slot.ofObject slots ((← get).rest.length + 1) true [] s
    closeWith closeObject <| found.bind fun (seen, s) =>
      match Slot.firstMissing? slots seen with
      | some slot => .error (.missingField slot.name)
      | none => .ok s
  else if start = .char '[' then do
    skip
    let count := toString slots.length ++ if slots.length = 1 then " element" else " elements"
    let found ← Slot.ofList (title ++ " with " ++ count) slots 0 s
    closeWith closeList found
  else unexpected title

open Reader in
/-- One of several names, given as a string or as an object with that key and the value null. -/
def choice (variants : List (String × α)) : Reader α := do
  let variant : Reader α := textAs "variant identifier" fun name =>
    match variants.lookup name with
    | some a => .ok a
    | none => .error (.unknownVariant name (variants.map Prod.fst))
  let start ← valueStart
  if start = .char '\x22' then variant
  else if start = .char '\x7b' then do
    skip
    let a ← variant
    colon
    let c ← valueStart
    if c = .char 'n' then do skip; word "ull".toList else unexpected "unit"
    match ← peekToken with
    | none => failHere .eofInObject
    | some g =>
      if g = .char '\x7d' then do skip; return a
      else failHere .expectedValue
  else failAtNext .expectedValue

/-- Reads a whole document. -/
def decode (value : Reader α) (document : List Glyph) : Except Error α :=
  let whole : Reader α := do
    let a ← value
    match ← Reader.peekToken with
    | none => return a
    | some _ => Reader.failAtNext .trailingCharacters
  (whole.run (Cursor.ofGlyphs document)).1

end AlarmEscalation.Json
