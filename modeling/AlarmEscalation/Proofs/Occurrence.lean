import Mathlib.Data.List.Induction

/-! # Runs, one occurrence after the other

A system goes from state to state as events happen to it. A run is kept as the list of its
occurrences, each with the state that it finds, so what a system remembers can be compared with
what has happened to it. -/
namespace AlarmEscalation

/-- An event and the state that it finds. -/
structure Occurrence (σ α : Type) where
  before : σ
  event : α

section Runs
variable {σ α : Type} (next : σ → α → σ)

/-- The state behind a run. -/
def behind (s : σ) (events : List α) : σ := events.foldl next s

/-- The occurrences of a run, the earliest first. -/
def occurrences (s : σ) : List α → List (Occurrence σ α)
  | [] => []
  | a :: rest => ⟨s, a⟩ :: occurrences (next s a) rest

theorem behind_append (s : σ) (first second : List α) :
    behind next s (first ++ second) = behind next (behind next s first) second :=
  List.foldl_append

theorem behind_concat (s : σ) (events : List α) (a : α) :
    behind next s (events ++ [a]) = next (behind next s events) a :=
  behind_append next s events [a]

theorem occurrences_append (s : σ) (first second : List α) :
    occurrences next s (first ++ second) =
      occurrences next s first ++ occurrences next (behind next s first) second := by
  induction first generalizing s with
  | nil => rfl
  | cons a rest ih => simp only [List.cons_append, occurrences, ih]; rfl

theorem occurrences_concat (s : σ) (events : List α) (a : α) :
    occurrences next s (events ++ [a]) =
      occurrences next s events ++ [⟨behind next s events, a⟩] :=
  occurrences_append next s events [a]

variable {next}

/-- What holds in the beginning, and every occurrence hands on, holds along every run. -/
theorem occurrences_induction {J : List (Occurrence σ α) → σ → Prop} {s : σ} (base : J [] s)
    (step : ∀ past s a, J past s → J (past ++ [⟨s, a⟩]) (next s a)) (events : List α) :
    J (occurrences next s events) (behind next s events) := by
  induction events using List.reverseRecOn with
  | nil => exact base
  | append_singleton events a ih =>
    rw [occurrences_concat, behind_concat]
    exact step _ _ a ih

end Runs

end AlarmEscalation
