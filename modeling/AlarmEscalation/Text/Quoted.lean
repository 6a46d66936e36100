import AlarmEscalation.Text.Printable

/-!
Text shown between double quotes, with everything escaped that would not show as itself.
-/
namespace AlarmEscalation.Text

def lowerHex (n : Nat) : List Char := Nat.toDigits 16 n

/-- How a character is shown inside quotes. -/
def quotedChar (c : Char) : List Char :=
  if c = '\x00' then ['\\', '0']
  else if c = '\t' then ['\\', 't']
  else if c = '\n' then ['\\', 'n']
  else if c = '\r' then ['\\', 'r']
  else if c = '\\' ∨ c = '\x22' then ['\\', c]
  else if isPrintable c then [c]
  else "\\u\x7b".toList ++ lowerHex c.toNat ++ ['\x7d']

def quoted (text : String) : String :=
  String.ofList ('\x22' :: text.toList.flatMap quotedChar ++ ['\x22'])

end AlarmEscalation.Text
