/-!
Sets of characters that are unions of ranges, given by the code points where membership changes.
-/
namespace AlarmEscalation.Text

/-- Whether a code point lies in the set whose membership changes at the points given in ascending
order, the first of which is the first member. -/
def changesTo (member : Bool) : List Nat → Nat → Bool
  | [], _ => member
  | point :: points, n => if n < point then member else changesTo (!member) points n

end AlarmEscalation.Text
