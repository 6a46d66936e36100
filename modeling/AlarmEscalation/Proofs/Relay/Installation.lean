import AlarmEscalation.Proofs.Engine.Relay
import AlarmEscalation.Proofs.Occurrence
import AlarmEscalation.Proofs.Relay.Line

/-! # An engine and its relay

The engine remembers what it asked for, the relay what it wrote, and a request that the line refuses
parts the two: the engine goes on as if it had been obeyed. So the light is asked to go out once,
and if that is refused, it stays on until an episode has asked for it again and come to its end. -/
namespace AlarmEscalation

/-- A relay is asked for several things, one after the other. Its answers tell what it was asked for
and whether it obeyed. -/
def SerialRelay.carryOut (r : SerialRelay) (line : SerialLine) :
    List Bool → SerialRelay × SerialLine × List (Bool × Bool)
  | [] => (r, line, [])
  | on :: rest =>
    let ((result, r, _), line) := r.switchAt on line
    let (r, line, answers) := r.carryOut line rest
    (r, line, (on, result.isOk) :: answers)

/-- An engine and the relay that was attached to it. -/
structure Installation where
  engine : Engine
  relay : SerialRelay
  line : SerialLine := {}

namespace Installation

/-- What the engine does next, and whether the line refuses to be written meanwhile. What becomes of
the calls to the relay is up to the line; the action tells only what is logged of them. -/
structure Event where
  action : Engine.Action
  refusal : Option WriteFault

/-- The engine acts, and the relay does what it is asked for. -/
def act (i : Installation) (event : Event) : Installation × List (Bool × Bool) :=
  let m : Engine.Moment := ⟨i.engine, event.action⟩
  let (relay, line, answers) := i.relay.carryOut { i.line with refusal := event.refusal } m.switches
  ({ engine := m.after, relay, line }, answers)

def next (i : Installation) (event : Event) : Installation := (i.act event).1

/-- The answers of the relay along a run. -/
def answered (past : List (Occurrence Installation Event)) : List (Bool × Bool) :=
  past.flatMap fun m => (m.before.act m.event).2

theorem answered_concat (past : List (Occurrence Installation Event))
    (m : Occurrence Installation Event) :
    answered (past ++ [m]) = answered past ++ (m.before.act m.event).2 := by
  rw [answered, List.flatMap_append, List.flatMap_singleton, ← answered]

/-- The engine goes its way, whatever becomes of its requests. -/
theorem engine_behind (i : Installation) (events : List Event) :
    (behind next i events).engine = i.engine.afterAll (events.map Event.action) := by
  induction events using List.reverseRecOn with
  | nil => rfl
  | append_singleton events event ih =>
    rw [behind_concat, List.map_append, List.map_singleton, Engine.afterAll_concat, ← ih]
    rfl

/-! ## One event -/

variable {i : Installation} {a : Engine.Action}

theorem act_of_unasked (h : Engine.Moment.switches ⟨i.engine, a⟩ = [])
    (refusal : Option WriteFault) :
    (i.act ⟨a, refusal⟩).2 = [] ∧ (i.next ⟨a, refusal⟩).relay = i.relay := by
  simp [next, act, h, SerialRelay.carryOut]

theorem act_of_asked {on : Bool} (h : Engine.Moment.switches ⟨i.engine, a⟩ = [on])
    (refusal : Option WriteFault) :
    (i.act ⟨a, refusal⟩).2 = [(on, true)] ∧ (i.next ⟨a, refusal⟩).relay.state = some on ∨
      (i.act ⟨a, refusal⟩).2 = [(on, false)] ∧ (i.next ⟨a, refusal⟩).relay = i.relay ∧
        i.relay.state ≠ some on ∧ refusal ≠ none := by
  have hstate := i.relay.state_switchAt on { i.line with refusal }
  simp only [next, act, h, SerialRelay.carryOut]
  rcases hstate with ⟨hok, hstate⟩ | ⟨hok, hsame, hother, hrefusal⟩
  · exact .inl ⟨by rw [hok], hstate⟩
  · exact .inr ⟨by rw [hok], hsame, hother, hrefusal⟩

/-! ## A whole run -/

/-- The last request was one for dark, and it was refused behind one for light that was obeyed. -/
def DarkRefused (answers : List (Bool × Bool)) : Prop := [(true, true), (false, false)] <:+ answers

instance (answers : List (Bool × Bool)) : Decidable (DarkRefused answers) :=
  inferInstanceAs (Decidable (_ <:+ answers))

theorem darkRefused_concat (answers : List (Bool × Bool)) (answer : Bool × Bool) :
    DarkRefused (answers ++ [answer]) ↔
      answer = (false, false) ∧ answers.getLast? = some (true, true) := by
  rw [← List.singleton_suffix_iff_getLast?_eq_some, and_comm, eq_comm (a := answer), DarkRefused,
    ← List.singleton_inj]
  have hsuffix : [(true, true)] ++ [(false, false)] <:+ answers ++ [answer] ↔ _ :=
    List.suffix_append_inj_of_length_eq rfl
  exact hsuffix

theorem DarkRefused.getLast? {answers : List (Bool × Bool)} (h : DarkRefused answers) :
    answers.getLast? = some (false, false) := by
  obtain ⟨before, rfl⟩ := h
  simp

/-- What an engine and its relay remember, by the answers of the relay: the engine what it asked for
last, and the relay the light, if it went on at the last request or did not go out at it. -/
structure Remembers (i : Installation) (answers : List (Bool × Bool)) : Prop where
  asked : (answers.getLast?.map Prod.fst).getD false = i.engine.flashlightOn
  lit : i.relay.state = some true ↔
    answers.getLast? = some (true, true) ∨ DarkRefused answers

theorem Remembers.not_darkRefused {answers : List (Bool × Bool)} (h : i.Remembers answers)
    (hon : i.engine.flashlightOn = true) : ¬ DarkRefused answers := by
  intro hdark
  have hasked := h.asked
  rw [hdark.getLast?, hon] at hasked
  cases hasked

theorem Remembers.next {answers : List (Bool × Bool)} (h : i.Remembers answers)
    (hswitched : Engine.Moment.Switched ⟨i.engine, a⟩) (refusal : Option WriteFault) :
    (i.next ⟨a, refusal⟩).Remembers (answers ++ (i.act ⟨a, refusal⟩).2) := by
  cases hswitched with
  | on now fate _ _ _ hasked _ hafter =>
    have hafter : (i.next ⟨a, refusal⟩).engine.flashlightOn = true := hafter
    rcases act_of_asked hasked refusal with ⟨hanswer, hstate⟩ | ⟨hanswer, hsame, hdark, -⟩
    · exact ⟨by simp [hanswer, hafter], by simp [hanswer, hstate]⟩
    · exact ⟨by simp [hanswer, hafter], by simp [hanswer, hsame, hdark, darkRefused_concat]⟩
  | off _ hon hasked _ hafter =>
    have hafter : (i.next ⟨a, refusal⟩).engine.flashlightOn = false := hafter
    rcases act_of_asked hasked refusal with ⟨hanswer, hstate⟩ | ⟨hanswer, hsame, -⟩
    · exact ⟨by simp [hanswer, hafter], by simp [hanswer, hstate, darkRefused_concat]⟩
    · -- the light stays as it is, and it has been on only if the request before was obeyed
      refine ⟨by simp [hanswer, hafter], ?_⟩
      simp [hanswer, hsame, darkRefused_concat, h.lit, h.not_darkRefused hon]
  | unasked _ hasked _ hafter =>
    obtain ⟨hanswer, hsame⟩ := act_of_unasked hasked refusal
    have hafter : (i.next ⟨a, refusal⟩).engine.flashlightOn = i.engine.flashlightOn := hafter
    rw [hanswer, List.append_nil]
    exact ⟨hafter ▸ h.asked, hsame ▸ h.lit⟩

section Built
variable {settings : EngineSettings} {attached : Attached}

theorem switched_of_build (built : Engine.build settings attached = .ok i.engine)
    (relay : attached.relay = true) (laboratory : settings.laboratory ≠ 0)
    (events : List Event) (a : Engine.Action) :
    Engine.Moment.Switched ⟨(behind next i events).engine, a⟩ := by
  rw [engine_behind]
  exact Engine.switched_of_build built relay laboratory _ a

theorem remembers (built : Engine.build settings attached = .ok i.engine)
    (relay : attached.relay = true) (laboratory : settings.laboratory ≠ 0)
    (unused : i.relay.state = none) (events : List Event) :
    (behind next i events).Remembers (answered (occurrences next i events)) := by
  induction events using List.reverseRecOn with
  | nil =>
    refine ⟨?_, ?_⟩
    · change false = i.engine.flashlightOn
      rw [Engine.eq_of_build built]
    · change i.relay.state = some true ↔ ([] : List (Bool × Bool)).getLast? = _ ∨ DarkRefused []
      rw [unused]
      decide
  | append_singleton events event ih =>
    rw [occurrences_concat, behind_concat, answered_concat]
    exact ih.next (switched_of_build built relay laboratory events event.action) event.refusal

/-- **When the light stays on without alarms.** Along every run of an engine with a relay and a
laboratory timeout, whichever requests the line refuses: behind a poll that finds the store empty
while the line can be written, the light is on exactly if it was on at the last request, which was
one for dark, and this one was refused. The poll does not ask again then. -/
theorem lit_without_alarms_iff (built : Engine.build settings attached = .ok i.engine)
    (relay : attached.relay = true) (laboratory : settings.laboratory ≠ 0)
    (unused : i.relay.state = none) (events : List Event) (now : Instant)
    (fate : Call → CallOutcome)
    (drained : (behind next i events).engine.store.isEmpty = true) :
    (((behind next i events).next ⟨.pollFlashlight now fate, none⟩).relay.state = some true ↔
      DarkRefused (answered (occurrences next i events))) ∧
    (DarkRefused (answered (occurrences next i events)) →
      ((behind next i events).act ⟨.pollFlashlight now fate, none⟩).2 = []) := by
  have hremembers := remembers built relay laboratory unused events
  have hswitched := switched_of_build built relay laboratory events (.pollFlashlight now fate)
  generalize behind next i events = j at *
  generalize answered (occurrences next i events) = answers at *
  cases hswitched with
  | on _ _ _ _ helapsed =>
    rw [AlarmStore.isEmpty_of_episodeElapsed helapsed] at drained
    cases drained
  | off _ hon hasked =>
    have hnot := hremembers.not_darkRefused hon
    rcases act_of_asked hasked none with ⟨-, hstate⟩ | ⟨-, -, -, hrefusal⟩
    · exact ⟨by simp [hstate, hnot], fun hdark => absurd hdark hnot⟩
    · exact absurd rfl hrefusal
  | unasked hoff hasked =>
    obtain ⟨hanswer, hsame⟩ := act_of_unasked hasked none
    have hoff : j.engine.flashlightOn = false := hoff drained
    -- the engine takes the light to be out, so the last request was not one for light
    have hlast : answers.getLast? ≠ some (true, true) := by
      intro hlast
      have hasked := hremembers.asked
      rw [hlast, hoff] at hasked
      cases hasked
    refine ⟨?_, fun _ => hanswer⟩
    rw [hsame, hremembers.lit]
    simp [hlast]

end Built

/-- The flashlight of `Engine.lamp`, at a new line. -/
def wired : Installation := { engine := Engine.lamp, relay := { node := "/dev/ttyUSB0" } }

/-- An alarm that lasts for the timeout and is resolved. The line can be written until then. -/
def resolved : List Event :=
  [⟨.ingest ⟨"PV1", "MAJOR", "HIHI", .ofSecond 100, false, false⟩, none⟩,
    ⟨.pollFlashlight (.ofSecond 110) fun _ => .done, none⟩,
    ⟨.ingest ⟨"PV1", "OK", "NO_ALARM", .ofSecond 111, false, false⟩, none⟩]

/-- At the next poll the line is gone, for this one poll. -/
def unplugged : List Event :=
  resolved ++ [⟨.pollFlashlight (.ofSecond 112) Engine.unreachable, some (.opening .notFound)⟩]

/-- A line that can be written lets the light go out. -/
theorem lit_without_alarms_iff_resolved :
    (behind next wired resolved).engine.store.isEmpty = true ∧
    (behind next wired resolved).relay.state = some true ∧
    ((behind next wired resolved).next
      ⟨.pollFlashlight (.ofSecond 112) fun _ => .done, none⟩).relay.state ≠ some true := by
  have built : Engine.build wired.engine.settings wired.engine.attached = .ok wired.engine := by
    decide
  have drained : (behind next wired resolved).engine.store.isEmpty = true := by decide
  have h := lit_without_alarms_iff built rfl (by decide) rfl resolved (.ofSecond 112)
    (fun _ => .done) drained
  exact ⟨drained, by decide, fun hlit => absurd (h.1.mp hlit) (by decide)⟩

/-- The line is back and no alarm is left, and the light is on. -/
theorem lit_without_alarms_of_unplugged :
    Engine.build wired.engine.settings wired.engine.attached = .ok wired.engine ∧
    (behind next wired unplugged).engine.store.isEmpty = true ∧
    ((behind next wired unplugged).next
      ⟨.pollFlashlight (.ofSecond 113) fun _ => .done, none⟩).relay.state = some true :=
  ⟨by decide, by decide, by decide⟩

end Installation

end AlarmEscalation
