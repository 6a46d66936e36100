import Mathlib.Data.List.Chain
import Mathlib.Data.List.Infix

/-! # On and off in turn

What is switched on and off, or asked or announced to be, takes turns: on and off, one after the
other. -/
namespace AlarmEscalation

/-- No value comes twice in a row, and the first one is on. -/
structure TakeTurns (requests : List Bool) : Prop where
  chain : requests.IsChain (· ≠ ·)
  first : requests.head? ≠ some false

namespace TakeTurns

theorem concat {requests : List Bool} (h : TakeTurns requests) {on : Bool}
    (hlast : requests.getLast?.getD false = !on) : TakeTurns (requests ++ [on]) := by
  constructor
  · refine h.chain.append (.singleton on) ?_
    intro last hl next hn
    rw [Option.mem_def.mp hl] at hlast
    cases hn
    cases on <;> simp_all
  · cases requests with
    | nil => simp_all
    | cons first rest => exact h.first

theorem left_of_append {first second : List Bool} (h : TakeTurns (first ++ second)) :
    TakeTurns first := by
  refine ⟨h.chain.left_of_append, ?_⟩
  cases first with
  | nil => simp
  | cons => exact h.first

theorem concat_iff {requests : List Bool} {on : Bool} :
    TakeTurns (requests ++ [on]) ↔ TakeTurns requests ∧ requests.getLast?.getD false = !on := by
  refine ⟨fun h => ⟨h.left_of_append, ?_⟩, fun ⟨h, hlast⟩ => h.concat hlast⟩
  cases hlast : requests.getLast? with
  | none =>
    have hfirst := h.first
    rw [List.getLast?_eq_none_iff] at hlast
    subst hlast
    cases on
    · exact absurd rfl hfirst
    · rfl
  | some last =>
    have hne : last ≠ on := (List.isChain_append.mp h.chain).2.2 last hlast on rfl
    cases last <;> cases on <;> simp_all

/-- Every off has had its on, and the last on may not have had its off. -/
theorem count_true {requests : List Bool} (h : TakeTurns requests) :
    requests.count true = requests.count false + (requests.getLast?.getD false).toNat := by
  induction requests using List.reverseRecOn with
  | nil => rfl
  | append_singleton requests on ih =>
    obtain ⟨hturns, hlast⟩ := concat_iff.mp h
    have hcount := ih hturns
    rw [hlast] at hcount
    cases on <;> simp_all [List.count_append]

end TakeTurns

end AlarmEscalation
