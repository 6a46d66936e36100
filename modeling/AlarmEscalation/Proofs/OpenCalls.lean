import Mathlib.Data.List.Perm.Basic

/-! # Calls that have not returned

Calls that overlap stand in a list, from which a call is taken when it returns. In which order they
stand there is of no account, and so is that of what they have still to do. -/
namespace AlarmEscalation.OpenCalls

variable {α β : Type} {calls : List α} {n : Nat} {c : α}

theorem perm_eraseIdx (h : calls[n]? = some c) : calls.Perm (c :: calls.eraseIdx n) := by
  obtain ⟨hlt, rfl⟩ := List.getElem?_eq_some_iff.mp h
  exact (List.getElem_cons_eraseIdx_perm hlt).symm

/-- A call goes on. -/
theorem set_perm (h : calls[n]? = some c) (c' : α) :
    (calls.set n c').Perm (c' :: calls.eraseIdx n) := by
  obtain ⟨hlt, -⟩ := List.getElem?_eq_some_iff.mp h
  exact List.set_perm_cons_eraseIdx hlt c'

/-- What one call has to do, and what the others have. -/
theorem filterMap_perm {l : List α} (h : l.Perm (c :: calls)) (f : α → Option β) :
    (l.filterMap f).Perm ((f c).toList ++ calls.filterMap f) := by
  have hperm := h.filterMap f
  rw [List.filterMap_cons] at hperm
  cases hf : f c <;> simpa [hf] using hperm

/-- A call that goes on changes what it has to do itself, and no more. -/
theorem filterMap_set_perm (h : calls[n]? = some c) (c' : α) (f : α → Option β) :
    ((f c).toList ++ (calls.set n c').filterMap f).Perm ((f c').toList ++ calls.filterMap f) := by
  have hbefore := filterMap_perm (perm_eraseIdx h) f
  have hafter := filterMap_perm (set_perm h c') f
  calc
    List.Perm _ ((f c).toList ++ ((f c').toList ++ (calls.eraseIdx n).filterMap f)) :=
      hafter.append_left _
    List.Perm _ ((f c').toList ++ ((f c).toList ++ (calls.eraseIdx n).filterMap f)) :=
      List.perm_append_comm_assoc _ _ _
    List.Perm _ ((f c').toList ++ calls.filterMap f) := hbefore.symm.append_left _

theorem eq_of_perm {l l' : List α} (h : l'.Perm l) (hl : l.length ≤ 1) : l' = l := by
  match l with
  | [] => exact h.eq_nil
  | [a] => exact h.eq_singleton

theorem of_perm_cons {l l' : List α} {a : α} (h : l.Perm (a :: l')) (hl : l.length ≤ 1) :
    l = [a] ∧ l' = [] := by
  have hlength := h.length_eq
  rw [List.length_cons] at hlength
  have hnil : l' = [] := List.eq_nil_of_length_eq_zero (by omega)
  subst hnil
  exact ⟨h.eq_singleton, rfl⟩

end AlarmEscalation.OpenCalls
