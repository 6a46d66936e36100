import AlarmEscalation.Proofs.Occurrence
import AlarmEscalation.Proofs.Relay.Line
import Mathlib.Logic.Function.Basic

/-! # Several relays at one line

The daemon has a relay of its own, and every manual override opens another one at the same line.
Each of them knows what it wrote itself, and nothing of the others. So a request can be left out as
done already though another relay has undone it; `Overruled` says when. -/
namespace AlarmEscalation

/-- The relays at a line, by numbers. All that will ever be opened are there from the beginning, and
have written nothing yet. -/
structure SharedLine where
  relays : Nat → SerialRelay
  line : SerialLine := {}

namespace SharedLine

inductive Event where
  | switch (n : Nat) (on : Bool)
  /-- From now on the line refuses to be written, or can be written again. -/
  | condition (refusal : Option WriteFault)

/-- What happens, and what the relay answers if it is asked for something. -/
def act (s : SharedLine) : Event → SharedLine × Option (Except AlarmError Unit)
  | .switch n on =>
    let ((result, r, _), line) := (s.relays n).switchAt on s.line
    ({ relays := Function.update s.relays n r, line }, some result)
  | .condition refusal => ({ s with line := { s.line with refusal } }, none)

def next (s : SharedLine) (event : Event) : SharedLine := (s.act event).1

/-- The relay that puts a command on the line, and the command. -/
def written? (m : Occurrence SharedLine Event) : Option (Nat × Bool) :=
  match m.event with
  | .switch n on =>
    if (m.before.next m.event).line.written = m.before.line.written then none else some (n, on)
  | .condition _ => none

/-- The commands that were written in a run, and by which relays. -/
def writes (past : List (Occurrence SharedLine Event)) : List (Nat × Bool) :=
  past.filterMap written?

def lastWrite (past : List (Occurrence SharedLine Event)) : Option Bool :=
  (writes past).getLast?.map Prod.snd

def lastWriteOf (n : Nat) (past : List (Occurrence SharedLine Event)) : Option Bool :=
  ((writes past).filter fun write => write.1 = n).getLast?.map Prod.snd

/-- A relay has written a command, and none since, but another one has written the opposite. -/
def Overruled (n : Nat) (on : Bool) (past : List (Occurrence SharedLine Event)) : Prop :=
  lastWriteOf n past = some on ∧ lastWrite past = some (!on)

instance (n : Nat) (on : Bool) (past : List (Occurrence SharedLine Event)) :
    Decidable (Overruled n on past) := inferInstanceAs (Decidable (_ ∧ _))

section Concat
variable {past : List (Occurrence SharedLine Event)} {m : Occurrence SharedLine Event}

theorem writes_concat (past : List (Occurrence SharedLine Event))
    (m : Occurrence SharedLine Event) :
    writes (past ++ [m]) = writes past ++ (written? m).toList := by
  rw [writes, List.filterMap_append, ← writes]
  cases h : written? m <;> simp [h]

theorem writes_of_unwritten (past : List (Occurrence SharedLine Event)) (h : written? m = none) :
    writes (past ++ [m]) = writes past := by
  rw [writes_concat, h, Option.toList_none, List.append_nil]

theorem lastWrite_of_written {n : Nat} {on : Bool} (h : written? m = some (n, on)) :
    lastWrite (past ++ [m]) = some on := by
  simp [lastWrite, writes_concat, h]

theorem lastWriteOf_of_written {n : Nat} {on : Bool} (h : written? m = some (n, on)) (k : Nat) :
    lastWriteOf k (past ++ [m]) = if k = n then some on else lastWriteOf k past := by
  rw [lastWriteOf, writes_concat, h, Option.toList_some, List.filter_append]
  split
  · rename_i hk
    simp [hk]
  · rename_i hk
    simp [lastWriteOf, Ne.symm hk]

/-- Where one relay has written, there is a last command. -/
theorem exists_lastWrite {n : Nat} {on : Bool} (h : lastWriteOf n past = some on) :
    ∃ last, lastWrite past = some last := by
  cases hlast : lastWrite past with
  | some last => exact ⟨last, rfl⟩
  | none =>
    have hnone : writes past = [] := by simpa [lastWrite] using hlast
    simp [lastWriteOf, hnone] at h

end Concat

/-! ## One request -/

variable {s : SharedLine} {n : Nat} {on : Bool}

/-- The ways in which a request goes. -/
inductive Switched (s : SharedLine) (n : Nat) (on : Bool) : Prop
  | unneeded : (s.relays n).state = some on → (s.act (.switch n on)).2 = some (.ok ()) →
      s.next (.switch n on) = s → Switched s n on
  | written (r : SerialRelay) : (s.relays n).state ≠ some on → s.line.refusal = none →
      (s.act (.switch n on)).2 = some (.ok ()) → r.state = some on →
      s.next (.switch n on) = ⟨Function.update s.relays n r,
        { s.line with written := s.line.written ++ [relayCommand on] }⟩ → Switched s n on
  | refused (e : AlarmError) : (s.relays n).state ≠ some on → s.line.refusal ≠ none →
      (s.act (.switch n on)).2 = some (.error e) → s.next (.switch n on) = s → Switched s n on

theorem switched (s : SharedLine) (n : Nat) (on : Bool) : s.Switched n on := by
  have hswitches := (s.relays n).switches on s.line
  have hanswer : (s.act (.switch n on)).2 = some ((s.relays n).switchAt on s.line).1.1 := rfl
  have hnext : s.next (.switch n on) =
      ⟨Function.update s.relays n ((s.relays n).switchAt on s.line).1.2.1,
        ((s.relays n).switchAt on s.line).2⟩ := rfl
  generalize (s.relays n).switchAt on s.line = answer at hswitches hanswer hnext
  cases hswitches with
  | unneeded hstate =>
    exact .unneeded hstate hanswer (by rw [hnext, Function.update_eq_self])
  | written _ hstate hrefusal => exact .written _ hstate hrefusal hanswer rfl hnext
  | refused e hstate hrefusal =>
    exact .refused e hstate hrefusal hanswer (by rw [hnext, Function.update_eq_self])

theorem written?_of_eq (h : s.next (.switch n on) = s) : written? ⟨s, .switch n on⟩ = none := by
  simp [written?, h]

/-! ## A whole run -/

/-- Each relay remembers what it wrote last, and the line shows what any of them did. -/
structure Tells (past : List (Occurrence SharedLine Event)) (s : SharedLine) : Prop where
  relays : ∀ n, (s.relays n).state = lastWriteOf n past
  line : ∀ on, lastWrite past = some on → s.line.Shows on

theorem Tells.of_unwritten {past : List (Occurrence SharedLine Event)}
    {m : Occurrence SharedLine Event} (h : Tells past s) (hnone : written? m = none) :
    Tells (past ++ [m]) s := by
  have hwrites := writes_of_unwritten past hnone
  refine ⟨fun n => ?_, fun on hlast => h.line on ?_⟩
  · rw [lastWriteOf, hwrites]
    exact h.relays n
  · rw [lastWrite, hwrites] at hlast
    exact hlast

theorem Tells.step {past : List (Occurrence SharedLine Event)} (h : Tells past s) (event : Event) :
    Tells (past ++ [⟨s, event⟩]) (s.next event) := by
  cases event with
  | condition refusal => exact ⟨(h.of_unwritten rfl).relays, (h.of_unwritten rfl).line⟩
  | switch n on =>
    cases s.switched n on with
    | unneeded _ _ hsame | refused _ _ _ _ hsame =>
      have hnone := written?_of_eq hsame
      rw [hsame]
      exact h.of_unwritten hnone
    | written r _ _ _ hr hnext =>
      have hwritten : written? ⟨s, .switch n on⟩ = some (n, on) := by simp [written?, hnext]
      rw [hnext]
      refine ⟨fun k => ?_, fun other hlast => ?_⟩
      · rw [lastWriteOf_of_written hwritten]
        change (Function.update s.relays n r k).state = _
        rw [Function.update_apply]
        split
        · exact hr
        · exact h.relays k
      · rw [lastWrite_of_written hwritten] at hlast
        cases hlast
        simp [SerialLine.Shows]

theorem tells (unused : ∀ n, (s.relays n).state = none) (events : List Event) :
    Tells (occurrences next s events) (behind next s events) :=
  occurrences_induction ⟨unused, fun _ hlast => by cases hlast⟩ (fun _ _ event h => h.step event)
    events

/-- What comes of a request for a relay behind `past`. -/
structure Obeys (past : List (Occurrence SharedLine Event)) (s : SharedLine) (n : Nat)
    (on : Bool) : Prop where
  answer : (s.act (.switch n on)).2 = some (.ok ()) ↔
    lastWriteOf n past = some on ∨ s.line.refusal = none
  shown : (s.act (.switch n on)).2 = some (.ok ()) →
    ((s.next (.switch n on)).line.Shows on ↔ ¬ Overruled n on past)

theorem Tells.obeys {past : List (Occurrence SharedLine Event)} (h : Tells past s) (n : Nat)
    (on : Bool) : Obeys past s n on := by
  have hstate := h.relays n
  cases s.switched n on with
  | unneeded hdone hanswer hsame =>
    rw [hstate] at hdone
    obtain ⟨last, hlast⟩ := exists_lastWrite hdone
    have hshows := h.line last hlast
    refine ⟨by simp [hanswer, hdone], fun _ => ?_⟩
    rw [hsame, Overruled, hlast]
    by_cases heq : last = on
    · subst heq
      simp [hshows]
    · have hother : ¬ s.line.Shows on := fun hon => heq (hshows.unique hon)
      have hopposite : last = !on := by cases last <;> cases on <;> simp_all
      simp [hother, hdone, hopposite]
  | written r hother hrefusal hanswer _ hnext =>
    rw [hstate] at hother
    refine ⟨by simp [hanswer, hrefusal], fun _ => ?_⟩
    simp [hnext, SerialLine.Shows, Overruled, hother]
  | refused e hother hrefusal hanswer =>
    rw [hstate] at hother
    exact ⟨by simp [hanswer, hother, hrefusal], by simp [hanswer]⟩

/-- A relay that has the line for itself is never overruled. -/
theorem not_overruled_of_sole {n : Nat} {past : List (Occurrence SharedLine Event)}
    (sole : ∀ m ∈ past, ∀ k on, m.event = .switch k on → k = n) (on : Bool) :
    ¬ Overruled n on past := by
  have hall : (writes past).filter (fun write => write.1 = n) = writes past := by
    refine List.filter_eq_self.mpr fun write hwrite => ?_
    obtain ⟨m, hm, hwritten⟩ := List.mem_filterMap.mp hwrite
    unfold written? at hwritten
    split at hwritten
    · rename_i k on hswitch
      split at hwritten
      · cases hwritten
      · cases hwritten
        simpa using sole m hm k on hswitch
    · cases hwritten
  rintro ⟨hown, hlast⟩
  rw [lastWriteOf, hall, ← lastWrite, hlast] at hown
  cases on <;> cases hown

/-- **What a switch that is reported done has done.** For any number of relays at one line, and
requests to them in any order, while the line can be written at some times and not at others: a
request is reported done exactly if its relay wrote this command last, or the line can be written.
Then the line shows the command, unless another relay has written the opposite behind it. -/
theorem shown_unless_overruled (unused : ∀ n, (s.relays n).state = none) (events : List Event)
    (n : Nat) (on : Bool) : Obeys (occurrences next s events) (behind next s events) n on :=
  (tells unused events).obeys n on

/-- Relays of one node, at a line that can be written. -/
def opened : SharedLine := { relays := fun _ => { node := "/dev/ttyUSB0" } }

/-- The daemon, which has the relay with the number zero, switches the light on, and an override
switches it off. -/
def overridden : List Event := [.switch 0 true, .switch 1 false]

/-- Another override switches the light on again. -/
theorem shown_unless_overruled_again :
    (∀ n, (opened.relays n).state = none) ∧
    ((behind next opened overridden).next (.switch 2 true)).line.Shows true := by
  have unused : ∀ n, (opened.relays n).state = none := fun _ => rfl
  have h := shown_unless_overruled unused overridden 2 true
  exact ⟨unused, (h.shown (h.answer.mpr (by decide))).mpr (by decide)⟩

/-- The daemon does not, and reports it done. -/
theorem dark_of_overridden :
    ((behind next opened overridden).act (.switch 0 true)).2 = some (.ok ()) ∧
    ((behind next opened overridden).next (.switch 0 true)).line.Shows false :=
  ⟨by decide, by decide⟩

end SharedLine

end AlarmEscalation
