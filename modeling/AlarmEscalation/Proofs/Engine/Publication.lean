import AlarmEscalation.Proofs.Engine.Actors
import AlarmEscalation.Proofs.Occurrence
import AlarmEscalation.Proofs.OpenCalls

/-! # What subscribers see when events come in at once

A call that takes in an event changes the store first and publishes the count behind that; while it
publishes no other call does, but the store may change between its look at the count and what it
makes of it. What holds all the time is that either some call has still to publish, or the last
count that a call has looked at is the true one. -/
namespace AlarmEscalation

namespace Engine

/-- Tells subscribers a count, if they see another one. -/
def tell (e : Engine) (count : Nat) : Engine :=
  if e.published = count then e
  else { e with published := count, publications := e.publications + 1 }

theorem publish_eq_tell (e : Engine) : e.publish = e.tell e.count := rfl

@[simp] theorem published_tell (e : Engine) (count : Nat) : (e.tell count).published = count := by
  unfold tell
  split
  · assumption
  · rfl

@[simp] theorem count_tell (e : Engine) (count : Nat) : (e.tell count).count = e.count := by
  unfold tell
  split <;> rfl

/-- What a receiver is told that has looked for the last time behind `seen` changes. -/
def hasChanged (e : Engine) (seen : Nat) : Bool := e.publications != seen

end Engine

/-- How far a call that takes in an event has come. -/
inductive Taking where
  | entering (event : AlarmRecord)
  /-- The store has the event, and the count is to be published. -/
  | stored
  /-- It publishes the count that it has looked at. -/
  | publishing (count : Nat)
deriving DecidableEq

def Taking.count? : Taking → Option Nat
  | .publishing count => some count
  | .entering _ | .stored => none

/-- An engine and the calls that take in events. -/
structure Intake where
  engine : Engine
  calls : List Taking := []

namespace Intake

inductive Event where
  /-- A call begins that takes in an event, or there is a turn of another kind. -/
  | turn (t : Engine.Turn)
  /-- A call that has not returned goes on. -/
  | resume (call : Nat)

/-- The counts that calls have looked at and not yet shown. -/
def counts (s : Intake) : List Nat := s.calls.filterMap Taking.count?

def resume (s : Intake) (call : Nat) : Intake :=
  match s.calls[call]? with
  | none => s
  | some (.entering event) =>
    { engine := (s.engine.apply event).2, calls := s.calls.set call .stored }
  | some .stored =>
    -- it waits while another one publishes
    if s.counts = [] then { s with calls := s.calls.set call (.publishing s.engine.count) } else s
  | some (.publishing count) =>
    { engine := s.engine.tell count, calls := s.calls.eraseIdx call }

def next (s : Intake) : Event → Intake
  | .turn (.action (.ingest event)) => { s with calls := s.calls ++ [.entering event] }
  | .turn t => { s with engine := (s.engine.take t).engine }
  | .resume call => s.resume call

/-- Calls publish one by one, and what they have done is shown in the end. -/
structure Settling (s : Intake) : Prop where
  alone : s.counts.length ≤ 1
  due : .stored ∈ s.calls ∨ s.counts.head?.getD s.engine.published = s.engine.count

variable {s : Intake}

/-! ## One event -/

theorem Settling.begin (h : s.Settling) (event : AlarmRecord) :
    Settling { s with calls := s.calls ++ [.entering event] } := by
  have hcounts : counts { s with calls := s.calls ++ [.entering event] } = s.counts := by
    simp [counts, Taking.count?]
  obtain ⟨halone, hdue⟩ := h
  refine ⟨hcounts ▸ halone, ?_⟩
  rw [hcounts]
  exact hdue.imp (List.mem_append_left _) id

theorem next_of_not_ingest (s : Intake) {t : Engine.Turn}
    (h : ∀ event, t ≠ .action (.ingest event)) :
    s.next (.turn t) = { s with engine := (s.engine.take t).engine } := by
  unfold Intake.next
  split
  · rename_i event heq
    cases heq
    exact absurd rfl (h event)
  · rename_i heq
    cases heq
    rfl
  · rename_i heq
    cases heq

theorem Settling.turn (h : s.Settling) {t : Engine.Turn}
    (other : ∀ event, t ≠ .action (.ingest event)) :
    Settling { s with engine := (s.engine.take t).engine } := by
  have hsame := Engine.take_sameAlarms (e := s.engine) other
  have hcount : (s.engine.take t).engine.count = s.engine.count :=
    AlarmStore.count_of_unmarked hsame.alarms
  obtain ⟨halone, hdue⟩ := h
  refine ⟨halone, ?_⟩
  change _ ∨ s.counts.head?.getD (s.engine.take t).engine.published = _
  rw [hsame.published, hcount]
  exact hdue

theorem Settling.store (h : s.Settling) {call : Nat} {event : AlarmRecord}
    (hcall : s.calls[call]? = some (.entering event)) :
    Settling { engine := (s.engine.apply event).2, calls := s.calls.set call .stored } := by
  have hcounts := OpenCalls.filterMap_set_perm hcall .stored Taking.count?
  have hstored := (OpenCalls.set_perm hcall .stored).mem_iff.mpr List.mem_cons_self
  exact ⟨hcounts.length_eq.trans_le h.alone, .inl hstored⟩

theorem Settling.look {call : Nat} (hcall : s.calls[call]? = some .stored)
    (hnone : s.counts = []) :
    Settling { s with calls := s.calls.set call (.publishing s.engine.count) } := by
  have hperm := OpenCalls.filterMap_set_perm hcall (.publishing s.engine.count) Taking.count?
  change List.Perm _ ([s.engine.count] ++ s.counts) at hperm
  rw [hnone] at hperm
  have hcounts : counts { s with calls := s.calls.set call (.publishing s.engine.count) } =
      [s.engine.count] := hperm.eq_singleton
  exact ⟨by simp [hcounts], .inr (by simp [hcounts])⟩

theorem Settling.reveal (h : s.Settling) {call count : Nat}
    (hcall : s.calls[call]? = some (.publishing count)) :
    Settling { engine := s.engine.tell count, calls := s.calls.eraseIdx call } := by
  have hcalls := OpenCalls.perm_eraseIdx hcall
  obtain ⟨hone, hnone⟩ := OpenCalls.of_perm_cons
    (OpenCalls.filterMap_perm hcalls Taking.count?) h.alone
  have hcounts : counts { engine := s.engine.tell count, calls := s.calls.eraseIdx call } = [] :=
    hnone
  refine ⟨by simp [hcounts], ?_⟩
  rw [hcounts]
  rcases h.due with hstored | htrue
  · left
    have hmem := hcalls.mem_iff.mp hstored
    simpa using hmem
  · right
    have htrue : count = s.engine.count := by
      rw [show s.counts = [count] from hone] at htrue
      exact htrue
    simp [← htrue]

theorem Settling.resume (h : s.Settling) (call : Nat) : (s.resume call).Settling := by
  unfold Intake.resume
  split
  · exact h
  · rename_i event hcall
    exact h.store hcall
  · rename_i hcall
    split
    · rename_i hnone
      exact .look hcall hnone
    · exact h
  · rename_i count hcall
    exact h.reveal hcall

theorem Settling.next (h : s.Settling) (event : Event) : (s.next event).Settling := by
  cases event with
  | resume call => exact h.resume call
  | turn t =>
    by_cases hingest : ∃ event, t = .action (.ingest event)
    · obtain ⟨event, rfl⟩ := hingest
      exact h.begin event
    · have hother : ∀ event, t ≠ .action (.ingest event) := fun event he => hingest ⟨event, he⟩
      rw [s.next_of_not_ingest hother]
      exact h.turn hother

/-! ## A whole run -/

variable {settings : EngineSettings} {attached : Attached} {e : Engine}

theorem settling (built : Engine.build settings attached = .ok e) (events : List Event) :
    (behind Intake.next { engine := e } events).Settling := by
  have hbase : Settling { engine := e } := by
    rw [Engine.eq_of_build built]
    exact ⟨Nat.zero_le 1, .inr rfl⟩
  exact occurrences_induction (J := fun _ s => Settling s) hbase
    (fun _ _ event h => h.next event) events

/-- When all calls have returned, the last one to publish has looked at the last count. -/
theorem Settling.published_eq (h : s.Settling) (hreturned : s.calls = []) :
    s.engine.published = s.engine.count := by
  rcases h.due with hstored | htrue
  · rw [hreturned] at hstored
    cases hstored
  · simpa [counts, hreturned] using htrue

/-- A turn that nothing comes between. -/
def uninterrupted : Engine.Turn → List Event
  | .action (.ingest event) =>
    [.turn (.action (.ingest event)), .resume 0, .resume 0, .resume 0]
  | t => [.turn t]

theorem behind_uninterrupted (e : Engine) (t : Engine.Turn) :
    behind Intake.next { engine := e } (uninterrupted t) = { engine := (e.take t).engine } := by
  unfold uninterrupted
  split
  · rfl
  · rename_i hother
    exact next_of_not_ingest { engine := e } hother

/-- Calls that do not overlap take in their events one after the other. -/
theorem behind_flatMap_uninterrupted (e : Engine) (turns : List Engine.Turn) :
    behind Intake.next { engine := e } (turns.flatMap uninterrupted) =
      { engine := e.afterTurns turns } := by
  induction turns using List.reverseRecOn with
  | nil => rfl
  | append_singleton turns t ih =>
    rw [List.flatMap_append, behind_append, ih, List.flatMap_singleton, behind_uninterrupted,
      Engine.afterTurns_concat]

/-- What subscribers are told of an event. -/
structure Told (e after : Engine) : Prop where
  count : after.published = after.count
  changed : after.hasChanged e.publications = true ↔ after.count ≠ e.published

theorem told_ingest (e : Engine) (event : AlarmRecord) : Told e (e.ingest event).2 := by
  have hingest : (e.ingest event).2 = (e.apply event).2.tell (e.apply event).2.count :=
    Engine.publish_eq_tell _
  have hpublished : (e.apply event).2.published = e.published := rfl
  have hpublications : (e.apply event).2.publications = e.publications := rfl
  rw [hingest]
  refine ⟨by simp, ?_⟩
  rw [Engine.count_tell]
  unfold Engine.tell
  rw [hpublished]
  split
  · rename_i hsame
    simp [Engine.hasChanged, hpublications, hsame]
  · rename_i hother
    simp [Engine.hasChanged, hpublications, Ne.symm hother]

/-- **Subscribers end up with the true count.** However the calls overlap that take in events, and
whatever else happens meanwhile: when all of them have returned, subscribers see the number of
active alarms. If the calls do not overlap, they see it behind each of them, and they are told of a
change exactly if the number is another one than they saw before. -/
theorem published_eq_count (built : Engine.build settings attached = .ok e) :
    (∀ events, (behind Intake.next { engine := e } events).calls = [] →
      (behind Intake.next { engine := e } events).engine.published =
        (behind Intake.next { engine := e } events).engine.count) ∧
    ∀ turns event,
      behind Intake.next { engine := e }
          ((turns ++ [.action (.ingest event)]).flatMap uninterrupted) =
        { engine := ((e.afterTurns turns).ingest event).2 } ∧
      Told (e.afterTurns turns) ((e.afterTurns turns).ingest event).2 := by
  refine ⟨?_, ?_⟩
  · intro events hreturned
    exact (settling built events).published_eq hreturned
  · intro turns event
    refine ⟨?_, told_ingest _ event⟩
    rw [behind_flatMap_uninterrupted, Engine.afterTurns_concat]
    rfl

/-- A second event comes between the look at the count and its publication. -/
def stalePublication : List Event :=
  let raised (id : String) : Event :=
    .turn (.action (.ingest ⟨id, "MAJOR", "HIHI", .epoch, false, false⟩))
  [raised "PV1", .resume 0, .resume 0, raised "PV2", .resume 1, .resume 1, .resume 0]

theorem published_eq_count_stalePublication :
    (behind Intake.next { engine := Engine.desk } stalePublication).engine.published = 1 ∧
    (behind Intake.next { engine := Engine.desk } stalePublication).engine.count = 2 ∧
    (behind Intake.next { engine := Engine.desk }
      (stalePublication ++ [.resume 0, .resume 0])).engine.published = 2 := by
  have built : Engine.build Engine.desk.settings Engine.desk.attached = .ok Engine.desk := rfl
  have hreturned : (behind Intake.next { engine := Engine.desk }
      (stalePublication ++ [.resume 0, .resume 0])).calls = [] := by decide
  have hpublished := (published_eq_count built).1 _ hreturned
  have hcount : (behind Intake.next { engine := Engine.desk }
      (stalePublication ++ [.resume 0, .resume 0])).engine.count = 2 := by decide
  exact ⟨by decide, by decide, hpublished.trans hcount⟩

end Intake

end AlarmEscalation
