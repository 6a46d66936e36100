/-!
Characters in their UTF-8 form.
-/
namespace AlarmEscalation.Text.Utf8

/-- A byte that continues a character adds six bits. -/
def continued? (value : Nat) (b : UInt8) : Option Nat :=
  if 0x80 ≤ b && b < 0xC0 then some (value * 64 + (b.toNat - 0x80)) else none

/-- A character that needs the number of bytes it was written in, which begin at `least`. -/
def char? (value least : Nat) : Option Char :=
  if h : value.isValidChar then
    if least ≤ value then some (Char.ofNatAux value h) else none
  else none

/-- The character that a sequence of bytes begins with, and the number of its bytes. -/
def lead? (bytes : List UInt8) : Option (Char × Nat) :=
  match bytes with
  | [] => none
  | a :: rest =>
    if a < 0x80 then (char? a.toNat 0).map (·, 1)
    else if a < 0xC0 then none
    else if a < 0xE0 then do
      let b ← rest[0]?
      let value ← continued? (a.toNat - 0xC0) b
      let c ← char? value 0x80
      some (c, 2)
    else if a < 0xF0 then do
      let value ← (rest[0]?).bind (continued? (a.toNat - 0xE0))
      let value ← (rest[1]?).bind (continued? value)
      let c ← char? value 0x800
      some (c, 3)
    else if a < 0xF8 then do
      let value ← (rest[0]?).bind (continued? (a.toNat - 0xF0))
      let value ← (rest[1]?).bind (continued? value)
      let value ← (rest[2]?).bind (continued? value)
      let c ← char? value 0x10000
      some (c, 4)
    else none

/-- The characters of a sequence of bytes, and the bytes that belong to none. The first `skip`
bytes belong to the character before. -/
def pieces (skip : Nat) : List UInt8 → List (Char ⊕ UInt8)
  | [] => []
  | b :: rest =>
    match skip with
    | skip + 1 => pieces skip rest
    | 0 =>
      match lead? (b :: rest) with
      | some (c, n) => .inl c :: pieces (n - 1) rest
      | none => .inr b :: pieces 0 rest

/-- The text that the bytes stand for, if all of them belong to characters. -/
def decode? (bytes : List UInt8) : Option String :=
  ((pieces 0 bytes).mapM Sum.getLeft?).map String.ofList

def encode (text : String) : List UInt8 := text.toUTF8.toList

end AlarmEscalation.Text.Utf8
