import AlarmEscalation.Notify.CommandAlert
import Mathlib.Logic.Basic

/-! # The player of the sustained alert

An alert keeps the loop that it created last, until it is stopped. Loops end by themselves, too, but
none is ever left to play on: the only loop that can be playing is the one that is kept. -/
namespace AlarmEscalation.CommandAlert

variable {a : CommandAlert}

/-- No loop plays but the one that is kept. -/
def Sole (a : CommandAlert) : Prop := ∀ n, a.loops[n]? = some .playing → a.slot = some n

theorem isRunning_iff (a : CommandAlert) :
    a.isRunning = true ↔ ∃ n, a.slot = some n ∧ a.loops[n]? = some .playing := by
  simp [isRunning, Option.any_eq_true]

/-- The alert does not run if and only if nothing plays. -/
theorem Sole.isRunning_eq_false_iff (h : a.Sole) :
    a.isRunning = false ↔ .playing ∉ a.loops := by
  rw [← Bool.not_eq_true, isRunning_iff, not_iff_not]
  constructor
  · rintro ⟨n, -, hn⟩
    exact List.mem_of_getElem? hn
  · intro hmem
    obtain ⟨n, hn⟩ := List.mem_iff_getElem?.mp hmem
    exact ⟨n, h n hn, hn⟩

/-! ## Calls -/

/-- A start keeps a loop that plays, and otherwise creates one. -/
theorem start_cases (a : CommandAlert) :
    a.isRunning = true ∧ a.start.1 = a ∨
      a.isRunning = false ∧
        a.start.1 = { a with loops := a.loops ++ [.playing], slot := some a.loops.length } := by
  cases hrunning : a.isRunning with
  | true => exact .inl ⟨rfl, by simp [start, hrunning]⟩
  | false => exact .inr ⟨rfl, by simp [start, hrunning]⟩

theorem isRunning_start (a : CommandAlert) : a.start.1.isRunning = true := by
  rcases a.start_cases with ⟨hrunning, hsame⟩ | ⟨-, hnew⟩
  · rw [hsame, hrunning]
  · rw [hnew, isRunning_iff]
    exact ⟨a.loops.length, rfl, by simp⟩

theorem Sole.start (h : a.Sole) : a.start.1.Sole := by
  rcases a.start_cases with ⟨-, hsame⟩ | ⟨hstopped, hnew⟩
  · rw [hsame]
    exact h
  · rw [hnew]
    intro n hn
    by_cases hold : n < a.loops.length
    · -- a loop from before does not play: it would be the one that is kept, and the alert would run
      rw [List.getElem?_append_left hold] at hn
      have hsilent := h.isRunning_eq_false_iff.mp hstopped
      exact absurd (List.mem_of_getElem? hn) hsilent
    · obtain ⟨hlt, -⟩ := List.getElem?_eq_some_iff.mp hn
      rw [List.length_append, List.length_singleton] at hlt
      have heq : a.loops.length = n := by omega
      exact congrArg some heq

theorem isRunning_stop (a : CommandAlert) : a.stop.1.isRunning = false := by
  unfold stop
  split
  · rename_i hslot
    simp [isRunning, hslot]
  · rfl

theorem Sole.stop (h : a.Sole) : a.stop.1.Sole := by
  unfold CommandAlert.stop
  split
  · exact h
  · rename_i n hslot
    intro k hk
    rw [List.getElem?_modify] at hk
    obtain ⟨l, hl, hplaying⟩ := Option.map_eq_some_iff.mp hk
    by_cases hnk : n = k
    · rw [if_pos hnk] at hplaying
      split at hplaying
      · cases hplaying
      · rename_i hother
        exact absurd hplaying hother
    · rw [if_neg hnk] at hplaying
      subst hplaying
      have hkept := h k hl
      rw [hslot] at hkept
      exact absurd (Option.some.inj hkept) hnk

/-! ## Loops -/

/-- A loop ends by itself: it plays, and its command cannot be run. -/
def dies (a : CommandAlert) (n : Nat) (run : Except OsError Unit) : Bool :=
  a.loops[n]? == some .playing && !run.isOk

/-- A loop that does not end goes on as before. -/
theorem play_cases (a : CommandAlert) (n : Nat) (run : Except OsError Unit) :
    a.dies n run = false ∧ (a.play n run).1 = a ∨
      a.dies n run = true ∧
        (a.play n run).1 = { a with loops := a.loops.modify n fun _ => .ended } := by
  by_cases hplaying : a.loops[n]? = some .playing
  · cases run with
    | ok => exact .inl ⟨by simp [dies, Except.isOk, Except.toBool], by simp [play]⟩
    | error e =>
      exact .inr ⟨by simp [dies, hplaying, Except.isOk, Except.toBool], by simp [play, hplaying]⟩
  · refine .inl ⟨by simp [dies, hplaying], ?_⟩
    unfold play
    split
    · rename_i hother
      exact absurd hother hplaying
    · rfl

theorem Sole.play (h : a.Sole) (n : Nat) (run : Except OsError Unit) : (a.play n run).1.Sole := by
  rcases a.play_cases n run with ⟨-, hsame⟩ | ⟨-, hended⟩
  · rw [hsame]
    exact h
  · rw [hended]
    intro k hk
    rw [List.getElem?_modify] at hk
    obtain ⟨l, hl, hplaying⟩ := Option.map_eq_some_iff.mp hk
    by_cases hnk : n = k
    · rw [if_pos hnk] at hplaying
      cases hplaying
    · rw [if_neg hnk] at hplaying
      subst hplaying
      exact h k hl

/-- The alert runs on unless its loop ends. -/
theorem Sole.isRunning_play (h : a.Sole) (n : Nat) (run : Except OsError Unit) :
    (a.play n run).1.isRunning = (a.isRunning && !a.dies n run) := by
  rcases a.play_cases n run with ⟨hlives, hsame⟩ | ⟨hdies, hended⟩
  · rw [hsame, hlives]
    simp
  · rw [hdies, Bool.not_true, Bool.and_false, hended]
    have hplaying : a.loops[n]? = some .playing := by
      have hboth := Bool.and_eq_true_iff.mp hdies
      simpa using hboth.1
    simp [isRunning, h n hplaying, hplaying]

/-- A new alert has no loops. -/
theorem sole_of_ofArguments {argv : List String} (h : ofArguments argv = .ok a) :
    a.Sole ∧ a.isRunning = false := by
  cases argv with
  | nil => cases h
  | cons program arguments =>
    cases h
    refine ⟨?_, rfl⟩
    intro n hn
    cases hn

end AlarmEscalation.CommandAlert
