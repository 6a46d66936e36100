import AlarmEscalation.Time.Instant
import AlarmEscalation.Time.Calendar
import AlarmEscalation.Text.Blank

/-!
Reading an instant from a date, a time of day and an offset from UTC. The reading is more generous
than `Instant.written`: blanks may stand before every number and every separator, the date and the
time are parted by `T`, `t` or a blank, the fraction may have any number of digits, of which nine
count, and the offset is `Z`, `UTC` or a signed hour and minute.
-/
namespace AlarmEscalation.Instant

/-- Why a text is no instant. -/
inductive ReadFault where
  | outOfRange | impossible | invalid | tooShort | tooLong
deriving DecidableEq, Repr

def ReadFault.message : ReadFault → String
  | .outOfRange => "input is out of range"
  | .impossible => "no possible date and time matching input"
  | .invalid => "input contains invalid characters"
  | .tooShort => "premature end of input"
  | .tooLong => "trailing input"

/-- A step of the reading: from the text before it, what it found and the text after it. -/
abbrev Reader := StateT (List Char) (Except ReadFault)

/-- Largest number that a field is read into. -/
abbrev fieldLimit : Nat := 9223372036854775807

/-- The digits at the start of a text, at most `width` of them, taken after `value`. -/
def readDigits : Nat → Nat → Reader Nat
  | 0, value, text => .ok (value, text)
  | _ + 1, value, [] => .ok (value, [])
  | width + 1, value, c :: text =>
    if c.isDigit then
      let next := value * 10 + (c.toNat - '0'.toNat)
      if fieldLimit < next then .error .outOfRange else readDigits width next text
    else .ok (value, c :: text)

/-- A number of one to `width` digits. -/
def readNumber (width : Nat) : Reader Nat
  | [] => .error .tooShort
  | c :: text => if c.isDigit then readDigits width 0 (c :: text) else .error .invalid

def skipBlanks : Reader Unit := fun text => .ok ((), Text.dropBlanks text)

/-- A number of one or two digits between two bounds, after blanks. -/
def readField (low high : Nat) : Reader Nat := do
  skipBlanks
  let value ← readNumber 2
  if low ≤ value ∧ value ≤ high then pure value else throw .outOfRange

/-- A year has four digits at most unless it carries a sign. -/
def readSignedYear : Reader Int
  | '-' :: digits => do
    let (year, rest) ← readNumber digits.length digits
    .ok (-(year : Int), rest)
  | '+' :: digits => do
    let (year, rest) ← readNumber digits.length digits
    .ok ((year : Int), rest)
  | digits => do
    let (year, rest) ← readNumber 4 digits
    .ok ((year : Int), rest)

def readYear : Reader Int := do
  skipBlanks
  let year ← readSignedYear
  if -2147483648 ≤ year ∧ year ≤ 2147483647 then pure year else throw .outOfRange

/-- A separator, after blanks. -/
def readMark (mark : Char) : Reader Unit := fun text =>
  match Text.dropBlanks text with
  | [] => .error .tooShort
  | c :: rest => if c = mark then .ok ((), rest) else .error .invalid

/-- Nanoseconds from the digits after the point: nine digits count, the others are skipped. -/
def readFraction : Reader Nat
  | '.' :: digits => do
    let (value, rest) ← readNumber 9 digits
    .ok (value * Nat.pow 10 (9 - (digits.length - rest.length)), rest.dropWhile Char.isDigit)
  | text => .ok (0, text)

def readDate : Reader Date := do
  let year ← readYear
  readMark '-'
  let month ← readField 1 12
  readMark '-'
  let day ← readField 1 31
  pure ⟨year, month, day⟩

/-- The second of the day and the nanoseconds in it. Second 60 is the leap second after 59. -/
def readTimeOfDay : Reader (Nat × Nat) := do
  let hour ← readField 0 23
  readMark ':'
  let minute ← readField 0 59
  readMark ':'
  let second ← readField 0 60
  let nanos ← readFraction
  let minutes := (hour * 60 + minute) * 60
  if second = 60 then pure (minutes + 59, nanos + nanosPerSecond)
  else pure (minutes + second, nanos)

/-- Two digits; a single character that is written in one byte is too short to hold them. -/
def readPair : Reader (Nat × Nat)
  | [] => .error .tooShort
  | [c] => if c.utf8Size = 1 then .error .tooShort else .error .invalid
  | c :: d :: rest =>
    if c.isDigit ∧ d.isDigit then .ok ((c.toNat - '0'.toNat, d.toNat - '0'.toNat), rest)
    else .error .invalid

def skipColons : Reader Unit := fun text =>
  .ok ((), text.dropWhile fun c => c = ':' || Text.isBlank c)

/-- Hours and minutes of an offset, in seconds. -/
def readSpread : Reader Nat := do
  let (h₁, h₀) ← readPair
  skipColons
  let (m₁, m₀) ← readPair
  if 5 < m₁ then throw .outOfRange
  else pure ((h₁ * 10 + h₀) * 3600 + (m₁ * 10 + m₀) * 60)

/-- Seconds that the written time is ahead of UTC. -/
def readOffset : Reader Int
  | [] => .error .tooShort
  | 'Z' :: rest | 'z' :: rest => .ok (0, rest)
  | '+' :: rest => do
    let (offset, rest) ← readSpread rest
    .ok ((offset : Int), rest)
  | '-' :: rest | '−' :: rest => do
    let (offset, rest) ← readSpread rest
    .ok (-(offset : Int), rest)
  | _ :: _ => .error .invalid

def readZone : Reader Int := fun text =>
  let text := Text.dropBlanks text
  if (text.take 3).map Char.toLower = ['u', 't', 'c'] then .ok (0, text.drop 3)
  else readOffset text

/-- What stands between the date and the time. -/
def readDivider : Reader Unit
  | [] => .error .tooShort
  | c :: rest => if c = 'T' ∨ c = 't' ∨ c = ' ' then .ok ((), rest) else .error .invalid

/-- The instant of a local date and time, `offset` seconds ahead of UTC. -/
def ofLocal (date : Date) (second nanos : Nat) (offset : Int) : Except ReadFault Instant :=
  match date.day? with
  | none => .error .outOfRange
  | some day =>
    if date.year < -262143 ∨ 262142 < date.year ∨ 86400 ≤ offset.natAbs then .error .outOfRange
    else
      match ofParts? ((day - Date.epochDay) * 86400 + second - offset) nanos with
      | none => .error .impossible
      | some t => .ok t

/-- The parts of a written instant, and what follows them. -/
def readParts : Reader (Date × Nat × Nat × Int) := do
  let date ← readDate
  readDivider
  let (second, nanos) ← readTimeOfDay
  let offset ← readZone
  pure (date, second, nanos, offset)

def read (text : String) : Except ReadFault Instant := do
  let ((date, second, nanos, offset), rest) ← readParts text.toList
  if Text.dropBlanks rest ≠ [] then .error .tooLong
  else ofLocal date second nanos offset

end AlarmEscalation.Instant
