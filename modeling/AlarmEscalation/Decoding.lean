import AlarmEscalation.Text.Quoted

/-!
Disagreements between a document and the shape its reader expects. They are the same for all
document formats, up to the wording of a missing value and of a number with a fraction.
-/
namespace AlarmEscalation.Decoding

/-- What stands in a document where something else was expected. -/
inductive Found where
  | unit
  | boolean (value : Bool)
  | integer (value : Int)
  | float (value : Float)
  | text (value : String)
  | sequence
  | mapping
  /-- An integer of more than 64 bits, with the name of a type that would hold it. -/
  | wideInteger (value : Int) (type : String)

inductive Mismatch where
  | invalidType (found : Found) (expected : String)
  | invalidValue (found : Found) (expected : String)
  | invalidLength (length : Nat) (expected : String)
  | unknownVariant (name : String) (known : List String)
  | missingField (name : String)
  | duplicateField (name : String)
  /-- A text that is none of the values it stands for, for the reason given. -/
  | rejected (reason : String)

/-- The words of a document format. -/
structure Wording where
  unit : String
  float : Float → String

def ticked (text : String) : String := "\x60" ++ text ++ "\x60"

def Wording.describe (w : Wording) : Found → String
  | .unit => w.unit
  | .boolean value => "boolean " ++ ticked (if value then "true" else "false")
  | .integer value => "integer " ++ ticked (toString value)
  | .float value => "floating point " ++ ticked (w.float value)
  | .text value => "string " ++ Text.quoted value
  | .sequence => "sequence"
  | .mapping => "map"
  | .wideInteger value type => "integer " ++ ticked (toString value) ++ " as " ++ type

/-- The known names of a choice, in words. -/
def alternatives : List String → String
  | [] => "there are no variants"
  | [a] => "expected " ++ ticked a
  | [a, b] => "expected " ++ ticked a ++ " or " ++ ticked b
  | names => "expected one of " ++ ", ".intercalate (names.map ticked)

def Wording.message (w : Wording) : Mismatch → String
  | .invalidType found expected => "invalid type: " ++ w.describe found ++ ", expected " ++ expected
  | .invalidValue found expected =>
    "invalid value: " ++ w.describe found ++ ", expected " ++ expected
  | .invalidLength length expected =>
    "invalid length " ++ toString length ++ ", expected " ++ expected
  | .unknownVariant name known => "unknown variant " ++ ticked name ++ ", " ++ alternatives known
  | .missingField name => "missing field " ++ ticked name
  | .duplicateField name => "duplicate field " ++ ticked name
  | .rejected reason => reason

end AlarmEscalation.Decoding
