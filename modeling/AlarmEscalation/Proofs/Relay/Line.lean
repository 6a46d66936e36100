import AlarmEscalation.Notify.SerialRelay

/-! # A relay at its serial line

The board at the end of the line does what the last command says. A relay does not look at the
board: it goes by the state that it wrote last, and leaves out a command that would change nothing
in it. -/
namespace AlarmEscalation

theorem relayCommand_injective {on on' : Bool} (h : relayCommand on = relayCommand on') :
    on = on' := by
  revert on on'
  decide

/-- A serial line, with the commands that were written to it in full. -/
structure SerialLine where
  /-- How the line refuses to be opened or written, while it does. -/
  refusal : Option WriteFault := none
  written : List (List UInt8) := []
deriving DecidableEq, Repr

namespace SerialLine

def overwrite (line : SerialLine) (bytes : List UInt8) : Except WriteFault Unit × SerialLine :=
  match line.refusal with
  | some fault => (.error fault, line)
  | none => (.ok (), { line with written := line.written ++ [bytes] })

/-- A machine that has nothing but the line. -/
instance : Host (StateM SerialLine) where
  readBytes _ := return .error .notFound
  isFile _ := return false
  overwrite _ bytes := modifyGet fun line => line.overwrite bytes
  run _ _ := return .error .notFound
  environment _ := return none

/-- The line shows light, or dark. -/
def Shows (line : SerialLine) (on : Bool) : Prop :=
  line.written.getLast? = some (relayCommand on)

instance (line : SerialLine) (on : Bool) : Decidable (line.Shows on) :=
  inferInstanceAs (Decidable (_ = _))

/-- A line shows one thing at a time. -/
theorem Shows.unique {line : SerialLine} {on on' : Bool} (h : line.Shows on)
    (h' : line.Shows on') : on = on' := by
  rw [Shows, h] at h'
  exact relayCommand_injective (Option.some.inj h')

end SerialLine

namespace SerialRelay

/-- A relay is switched, at a line. -/
def switchAt (r : SerialRelay) (on : Bool) (line : SerialLine) : Switched × SerialLine :=
  (r.switch on : StateM SerialLine Switched).run line

/-- The ways in which a switch goes: nothing is left to do, the command is written, or the line
refuses it. -/
inductive Switches (r : SerialRelay) (on : Bool) (line : SerialLine) :
    Switched × SerialLine → Prop
  | unneeded : r.state = some on → Switches r on line ((.ok (), r, []), line)
  | written (logs : List LogLine) : r.state ≠ some on → line.refusal = none →
      Switches r on line ((.ok (), { r with state := some on }, logs),
        { line with written := line.written ++ [relayCommand on] })
  | refused (e : AlarmError) : r.state ≠ some on → line.refusal ≠ none →
      Switches r on line ((.error e, r, []), line)

theorem switches (r : SerialRelay) (on : Bool) (line : SerialLine) :
    r.Switches on line (r.switchAt on line) := by
  by_cases hstate : r.state = some on
  · have h : r.switchAt on line = ((.ok (), r, []), line) := by
      simp only [switchAt, switch, if_pos hstate]
      rfl
    rw [h]
    exact .unneeded hstate
  · have h : r.switchAt on line =
        (r.settle on (line.overwrite (relayCommand on)).1,
          (line.overwrite (relayCommand on)).2) := by
      simp only [switchAt, switch, if_neg hstate]
      rfl
    rw [h]
    obtain ⟨refusal, written⟩ := line
    cases refusal with
    | none => exact .written _ hstate rfl
    | some fault => cases fault <;> exact .refused _ hstate (Option.some_ne_none _)

/-- A relay that obeys is in the state that it was asked for, and one that does not stays as it is,
in the other state. -/
theorem state_switchAt (r : SerialRelay) (on : Bool) (line : SerialLine) :
    (r.switchAt on line).1.1.isOk = true ∧ (r.switchAt on line).1.2.1.state = some on ∨
      (r.switchAt on line).1.1.isOk = false ∧ (r.switchAt on line).1.2.1 = r ∧
        r.state ≠ some on ∧ line.refusal ≠ none := by
  have hswitches := r.switches on line
  generalize r.switchAt on line = s at hswitches
  cases hswitches with
  | unneeded hstate => exact .inl ⟨rfl, hstate⟩
  | written => exact .inl ⟨rfl, rfl⟩
  | refused _ hstate hrefusal => exact .inr ⟨rfl, rfl, hstate, hrefusal⟩

end SerialRelay

end AlarmEscalation
