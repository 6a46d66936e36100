/-!
Faults that break off a task in the middle of its work. What the task had written before stays.
-/
namespace AlarmEscalation

inductive Fault where
  /-- A sum of a time and a timeout left the range of times. -/
  | timeOverflow
  /-- A timer was set up with a period of zero. -/
  | zeroPeriod
deriving DecidableEq, Repr

def Fault.message : Fault → String
  | .timeOverflow => "\x60DateTime + TimeDelta\x60 overflowed"
  | .zeroPeriod => "\x60period\x60 must be non-zero."

end AlarmEscalation
