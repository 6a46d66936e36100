/-!
Written forms of JSON values, without blanks.
-/
namespace AlarmEscalation.Json

/-- How a character is written inside a string. -/
def escapedChar (c : Char) : List Char :=
  if c = '\x22' then ['\\', '\x22']
  else if c = '\\' then ['\\', '\\']
  else if c = '\x08' then ['\\', 'b']
  else if c = '\x0c' then ['\\', 'f']
  else if c = '\n' then ['\\', 'n']
  else if c = '\r' then ['\\', 'r']
  else if c = '\t' then ['\\', 't']
  else if c.toNat < 0x20 then
    ['\\', 'u', '0', '0', Nat.digitChar (c.toNat / 16), Nat.digitChar (c.toNat % 16)]
  else [c]

/-- A string as it is written, between quotes. -/
def writeString (text : String) : List Char :=
  '\x22' :: text.toList.flatMap escapedChar ++ ['\x22']

def writeBool (b : Bool) : List Char := if b then "true".toList else "false".toList

def writeNat (n : Nat) : List Char := Nat.toDigits 10 n

def writeOptional (write : α → List Char) : Option α → List Char
  | none => "null".toList
  | some a => write a

/-- Written values with commas between them. -/
def separated (values : List (List Char)) : List Char := [','].intercalate values

def writeList (values : List (List Char)) : List Char := '[' :: separated values ++ [']']

/-- A member of an object: its name and its written value. -/
def writeMember (name : String) (value : List Char) : List Char := writeString name ++ ':' :: value

def writeObject (members : List (String × List Char)) : List Char :=
  '\x7b' :: separated (members.map fun (name, value) => writeMember name value) ++ ['\x7d']

end AlarmEscalation.Json
