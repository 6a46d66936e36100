import AlarmEscalation.Decimal.Written
import AlarmEscalation.Error
import AlarmEscalation.Yaml.Document
import AlarmEscalation.Yaml.Scalar

/-!
Reading YAML documents into values of a known shape. What is wrong with a value is reported with its
place: the path from the root and the mark of the innermost collection or scalar. Where the document
is cut off, its fault is reported instead.
-/
namespace AlarmEscalation.Yaml

open Decoding

inductive Step where
  | key (name : String)
  /-- A key that is no scalar of its own. -/
  | unnamed
  | index (n : Nat)
deriving DecidableEq, Repr

/-- The steps from the root to a value, the last one first. -/
abbrev Path := List Step

/-- A path as it is shown; the root is a point. -/
def Path.shown : Path → String
  | [] => "."
  | .index n :: path => Path.shown path ++ "[" ++ toString n ++ "]"
  | step :: path =>
    let parent := if path.isEmpty then "" else Path.shown path ++ "."
    match step with
    | .key name => parent ++ name
    | _ => parent ++ "?"

inductive Error where
  | broken (fault : Fault)
  | severalDocuments
  | mismatch (mismatch : Mismatch) (place : Option (Path × Mark) := none)

def wording : Wording := ⟨"unit value", Decimal.Layout.plain.write⟩

def Fault.message : Fault → String
  | .problem p => p.message
  | .unknownAnchor mark => "unknown anchor" ++ mark.suffix
  | .endOfStream => "EOF while parsing a value"

namespace Error

def message : Error → String
  | .broken fault => fault.message
  | .severalDocuments =>
    "deserializing from YAML containing more than one document is not supported"
  | .mismatch m none => wording.message m
  | .mismatch m (some (path, mark)) =>
    let shown := Path.shown path
    (if shown = "." then "" else shown ++ ": ") ++ wording.message m ++ mark.suffix

def report (e : Error) : AlarmError := ⟨.yaml, e.message⟩

/-- Gives a mismatch a place, if it has none. -/
def placed (path : Path) (mark : Mark) : Error → Error
  | .mismatch m none => .mismatch m (some (path, mark))
  | e => e

end Error

namespace Document

/-- The node that a node stands for. -/
def follow (d : Document) : Node → Node
  | .alias _ target => (d.targets.lookup target).getD .cutOff
  | node => node

/-- What is reported where the document is cut off. -/
def brokenOff (d : Document) : Error := .broken (d.fault.getD .endOfStream)

end Document

/-- Core types that a tag can name. -/
def coreTag (name : String) : String := "tag:yaml.org,2002:" ++ name

/-- What is wrong with a scalar that is not of the expected type. -/
def scalarMismatch (tag : Option String) (text : String) (style : ScalarStyle)
    (expected : String) : Mismatch :=
  let wrong := fun found => Mismatch.invalidType found expected
  let tagged := fun (found : Option Found) kind =>
    match found with
    | some found => wrong found
    | none => .invalidValue (.text text) kind
  let isLocal := tag.all fun t => t.toList.head? = some '!'
  if tag = some (coreTag "bool") then tagged ((boolean? text).map .boolean) "a boolean"
  else if tag = some (coreTag "int") then
    tagged ((integer? text.toList).bind foundInteger?) "an integer"
  else if tag = some (coreTag "float") then tagged ((float? text.toList).map .float) "a float"
  else if tag = some (coreTag "null") then
    tagged (if isNull text then some .unit else none) "null"
  else if isLocal && style = .plain then wrong (resolve text)
  else wrong (.text text)

/-- Reads a node at a path of a document. -/
abbrev Decoder (α : Type) := Document → Path → Node → Except Error α

namespace Decoder

/-- Reports a node that is not of the expected type. -/
def refuse (expected : String) : Decoder α := fun d path node =>
  let wrong := fun m mark => Except.error (.mismatch m (some (path, mark)))
  match node with
  | .scalar mark tag text style => wrong (scalarMismatch tag text style expected) mark
  | .sequence mark _ => wrong (.invalidType .sequence expected) mark
  | .mapping mark _ => wrong (.invalidType .mapping expected) mark
  | _ => .error d.brokenOff

/-- The text of a scalar, whatever it stands for. -/
def textAs (expected : String) : Decoder String := fun d path node =>
  match d.follow node with
  | .scalar _ _ text _ => .ok text
  | node => refuse expected d path node

def text : Decoder String := textAs "a string"

/-- Scalars that are read as integers. -/
def mayBeInteger (tag : Option String) (style : ScalarStyle) : Bool :=
  style = .plain || style = .literal && tag = some (coreTag "int")

/-- A natural number up to `limit`, which is less than 2 ^ 64; `expected` names its type. -/
def natural (limit : Nat) (expected : String) : Decoder Nat := fun d path node =>
  let node := d.follow node
  match node with
  | .scalar mark tag text style =>
    match if mayBeInteger tag style then natural? text.toList else none with
    | some n =>
      if n ≤ limit then .ok n
      else if n ≤ 18446744073709551615 then
        .error (.mismatch (.invalidValue (.integer n) expected) (some (path, mark)))
      else refuse expected d path node
    | none => refuse expected d path node
  | _ => refuse expected d path node

/-- A value that may be null. -/
def optional (value : Decoder α) : Decoder (Option α) := fun d path node =>
  let node := d.follow node
  let present := fun _ : Unit => (value d path node).map some
  match node with
  | .scalar _ none text .plain => if text = "" ∨ isNull text then .ok none else present ()
  | .scalar _ (some tag) text .plain =>
    if tag ≠ coreTag "null" then present ()
    else if isNull text then .ok none
    else .error (.mismatch (.invalidValue (.text text) "null"))
  | _ => present ()

/-- The items of a sequence. -/
def items (item : Decoder α) (d : Document) (path : Path) : Nat → List Node → Except Error (List α)
  | _, [] => .ok []
  | index, node :: nodes => do
    let a ← item d (.index index :: path) node
    return a :: (← items item d path (index + 1) nodes)

/-- A list; an empty scalar is an empty list. -/
def list (item : Decoder α) : Decoder (List α) := fun d path node =>
  match d.follow node with
  | .sequence mark nodes => (items item d path 0 nodes).mapError (·.placed path mark)
  | .scalar mark tag text style =>
    if text = "" ∧ style = .plain then .ok []
    else refuse "a sequence" d path (.scalar mark tag text style)
  | node => refuse "a sequence" d path node

end Decoder

/-- A field of a structure: its name, and how a value for it is read and stored. -/
structure Slot (S : Type) where
  name : String
  store : S → Decoder S

namespace Slot

/-- The step to the value of a key. -/
def stepTo : Node → Step
  | .scalar _ _ text _ => .key text
  | _ => .unnamed

/-- Entries of a mapping, stored in their slots. The others are passed over. -/
def ofEntries (slots : List (Slot S)) (d : Document) (path : Path) :
    List String → S → List (Node × Node) → Except Error S
  | _, s, [] => .ok s
  | seen, s, (key, value) :: entries => do
    let name ← Decoder.textAs "field identifier" d path key
    match slots.find? fun slot => slot.name == name with
    | none =>
      if value.isWhole then ofEntries slots d path seen s entries
      else .error d.brokenOff
    | some slot =>
      if seen.contains name then .error (.mismatch (.duplicateField name))
      else
        let s ← slot.store s d (stepTo key :: path) value
        ofEntries slots d path (name :: seen) s entries

end Slot

/-- A structure; `s` holds what a field is if it is not given. An empty scalar gives no field. -/
def ofFields (title : String) (slots : List (Slot S)) (s : S) : Decoder S := fun d path node =>
  match d.follow node with
  | .mapping mark entries =>
    (Slot.ofEntries slots d path [] s entries).mapError (·.placed path mark)
  | .scalar mark tag text style =>
    if text = "" ∧ style = .plain then .ok s
    else Decoder.refuse title d path (.scalar mark tag text style)
  | node => Decoder.refuse title d path node

/-- Reads a whole text, which holds one document. -/
def decode (value : Decoder α) (text : String) : Except Error α := do
  let d := Document.ofText text
  let a ← value d [] d.root
  match d.fault with
  | some fault => .error (.broken fault)
  | none => if d.hasMore then .error .severalDocuments else return a

end AlarmEscalation.Yaml
