/-!
Moments of UTC time, the signed spans between them, and the lengths of intervals.

An `Instant` is a whole number of seconds since the epoch and the nanoseconds that have passed in
that second. Inside a leap second the nanoseconds run past one second; any second may be followed by
one. Instants cover the years -262143 to 262142. `Instant.shift?` moves one by a `Span`, and fails
exactly where the result would leave those years.
-/
namespace AlarmEscalation

/-- Nanoseconds in a second. -/
abbrev nanosPerSecond : Nat := 1000000000

/-- First second of the year -262143. -/
abbrev minSeconds : Int := -8334601228800

/-- Last second of the year 262142. -/
abbrev maxSeconds : Int := 8210266876799

structure Instant where
  seconds : Int
  nanos : Nat
  seconds_ge : minSeconds ≤ seconds
  seconds_le : seconds ≤ maxSeconds
  nanos_lt : nanos < 2 * nanosPerSecond
deriving DecidableEq, Repr

/-- A signed length of time in nanoseconds. -/
structure Span where
  nanos : Int
deriving DecidableEq, Repr

namespace Span

def ofSeconds (seconds : Nat) : Span := ⟨seconds * 1000000000⟩

def ofMillis (millis : Int) : Span := ⟨millis * 1000000⟩

/-- Whole seconds of the span, rounded towards zero. -/
def whole (span : Span) : Int := span.nanos.tdiv 1000000000

/-- What `whole` leaves over; it has the sign of the span. -/
def part (span : Span) : Int := span.nanos.tmod 1000000000

end Span

/-- How long an interval is that a timer keeps. -/
structure Duration where
  seconds : UInt64
  nanos : Nat
  nanos_lt : nanos < nanosPerSecond
deriving DecidableEq, Repr

namespace Duration

def ofSeconds (seconds : UInt64) : Duration := ⟨seconds, 0, by decide⟩

def ofMillis (millis : UInt64) : Duration where
  seconds := millis / 1000
  nanos := millis.toNat % 1000 * 1000000
  nanos_lt := by
    have hpart : millis.toNat % 1000 < 1000 := Nat.mod_lt _ (by decide)
    change _ < 1000000000
    omega

def zero : Duration := ofSeconds 0

def totalNanos (d : Duration) : Nat := nanosPerSecond * d.seconds.toNat + d.nanos

end Duration

namespace Instant

/-- What makes a pair of seconds and nanoseconds an instant. -/
def Valid (seconds : Int) (nanos : Nat) : Prop :=
  minSeconds ≤ seconds ∧ seconds ≤ maxSeconds ∧ nanos < 2 * nanosPerSecond

instance (seconds : Int) (nanos : Nat) : Decidable (Valid seconds nanos) := by
  unfold Valid; infer_instance

def ofParts? (seconds : Int) (nanos : Nat) : Option Instant :=
  if h : Valid seconds nanos then some ⟨seconds, nanos, h.1, h.2.1, h.2.2⟩ else none

def epoch : Instant := ⟨0, 0, by decide, by decide, by decide⟩

/-- Instants are ordered by second, and within a second by nanosecond. -/
instance : LE Instant where
  le a b := a.seconds < b.seconds ∨ a.seconds = b.seconds ∧ a.nanos ≤ b.nanos

instance : LT Instant where
  lt a b := a.seconds < b.seconds ∨ a.seconds = b.seconds ∧ a.nanos < b.nanos

theorem le_def {a b : Instant} :
    a ≤ b ↔ a.seconds < b.seconds ∨ a.seconds = b.seconds ∧ a.nanos ≤ b.nanos := Iff.rfl

theorem lt_def {a b : Instant} :
    a < b ↔ a.seconds < b.seconds ∨ a.seconds = b.seconds ∧ a.nanos < b.nanos := Iff.rfl

instance (a b : Instant) : Decidable (a ≤ b) := decidable_of_iff _ le_def.symm

instance (a b : Instant) : Decidable (a < b) := decidable_of_iff _ lt_def.symm

theorem not_lt {a b : Instant} : ¬ a < b ↔ b ≤ a := by
  rw [lt_def, le_def]; omega

theorem le_trans {a b c : Instant} (hab : a ≤ b) (hbc : b ≤ c) : a ≤ c := by
  rw [le_def] at *; omega

/-- Seconds and nanoseconds from which a shift by `span` counts on. A shift that leaves a leap
second counts from the ordinary second on the side it leaves to. -/
def shiftBase (t : Instant) (span : Span) : Int × Int :=
  if t.nanos < nanosPerSecond then (t.seconds, t.nanos)
  else if 0 < span.whole ∨ 2000000000 ≤ t.nanos + span.part then
    (t.seconds, t.nanos - 1000000000)
  else (t.seconds + 1, t.nanos - 1000000000)

/-- A shift that stays inside the leap second it starts in. -/
def StaysInLeap (t : Instant) (span : Span) : Prop :=
  nanosPerSecond ≤ t.nanos ∧ span.whole = 0 ∧ t.nanos + span.part < 2000000000

instance (t : Instant) (span : Span) : Decidable (t.StaysInLeap span) := by
  unfold StaysInLeap; infer_instance

/-- Seconds and nanoseconds after the shift, before the range is looked at. -/
def shiftParts (t : Instant) (span : Span) : Int × Int :=
  if t.StaysInLeap span then (t.seconds, t.nanos + span.part)
  else
    let (seconds, nanos) := t.shiftBase span
    let total := nanos + span.part
    if total < 0 then (seconds + span.whole - 1, total + 1000000000)
    else if 1000000000 ≤ total then (seconds + span.whole + 1, total - 1000000000)
    else (seconds + span.whole, total)

/-- The instant `span` later, if there is one. -/
def shift? (t : Instant) (span : Span) : Option Instant :=
  let (seconds, nanos) := t.shiftParts span
  ofParts? seconds nanos.toNat

/-- Whether the moment `span` after `t` has come at `now`; `none` if there is no such moment. -/
def due? (t : Instant) (span : Span) (now : Instant) : Option Bool :=
  (t.shift? span).map fun deadline => decide (deadline ≤ now)

end Instant

end AlarmEscalation
