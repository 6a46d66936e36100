import AlarmEscalation.Proofs.Engine.Crew
import AlarmEscalation.Proofs.Occurrence
import AlarmEscalation.Proofs.OpenCalls

/-! # One crew after another

A shutdown clears the flag and takes the actors that are held; then it waits for them, and other
calls come and go meanwhile. A start looks at the flag and at nothing else. If it comes before the
actors of the last span have seen the flag cleared, they find it set again and stay, beside the new
ones. -/
namespace AlarmEscalation

/-- An engine, and for each shutdown that has not returned the actors that it waits for. -/
structure Succession where
  engine : Engine
  waiting : List (List Nat) := []

namespace Succession

inductive Event where
  /-- A turn of the engine; of a shutdown, the first half. -/
  | turn (t : Engine.Turn)
  /-- A shutdown returns, if all have come to their end that it waits for. -/
  | finish (call : Nat)

def beginShutdown (s : Succession) : Succession :=
  { engine := s.engine.beginShutdown.2, waiting := s.waiting ++ [s.engine.beginShutdown.1] }

def finish (s : Succession) (call : Nat) : Succession :=
  match s.waiting[call]? with
  | none => s
  | some taken =>
    if taken.all s.engine.hasEnded then { s with waiting := s.waiting.eraseIdx call } else s

def next (s : Succession) : Event → Succession
  | .turn (.action (.shutdown _)) => s.beginShutdown
  | .turn t => { s with engine := (s.engine.take t).engine }
  | .finish call => s.finish call

/-- A start succeeds while some actor is alive. -/
def overlaps (m : Occurrence Succession Event) : Bool :=
  match m.event with
  | .turn (.action (.start inRuntime)) =>
    (m.before.engine.start inRuntime).isOk && m.before.engine.isManned
  | _ => false

/-- No kind has two actors that are alive. -/
def Single (s : Succession) : Prop := ∀ kind, s.engine.aliveOf kind ≤ 1

/-- The states that a run comes by. -/
def states (past : List (Occurrence Succession Event)) (s : Succession) : List Succession :=
  past.map (·.before) ++ [s]

/-- A shutdown has begun and waits for an actor that is alive. -/
def Awaits (s : Succession) : Prop :=
  ∃ taken ∈ s.waiting, ∃ n ∈ taken, s.engine.hasEnded n = false

variable {s : Succession} {role : Role}

/-! ## One event -/

/-- All actors are of the engine's role, and somebody will wait for each that is alive. -/
structure Orderly (role : Role) (s : Succession) : Prop where
  settings : s.engine.settings.role = role
  kinds : ∀ actor ∈ s.engine.actors, actor.kind ∈ Engine.actorKinds role
  accounted : s.engine.Accounted s.waiting.flatten

theorem next_of_not_shutdown (s : Succession) {t : Engine.Turn}
    (h : ∀ now, t ≠ .action (.shutdown now)) :
    s.next (.turn t) = { s with engine := (s.engine.take t).engine } := by
  unfold next
  split
  · rename_i now heq
    cases heq
    exact absurd rfl (h now)
  · rename_i heq
    cases heq
    rfl
  · rename_i heq
    cases heq

theorem finish_engine (s : Succession) (call : Nat) : (s.finish call).engine = s.engine := by
  unfold finish
  split
  · rfl
  · split
    · rfl
    · rfl

theorem Orderly.beginShutdown (h : s.Orderly role) : s.beginShutdown.Orderly role := by
  refine ⟨h.settings, h.kinds, ?_⟩
  have hbegun := h.accounted.beginShutdown
  rw [Succession.beginShutdown, List.flatten_append, List.flatten_singleton]
  exact hbegun

theorem Orderly.finish (h : s.Orderly role) (call : Nat) : (s.finish call).Orderly role := by
  unfold Succession.finish
  split
  · exact h
  · rename_i taken htaken
    split
    · rename_i hended
      refine ⟨h.settings, h.kinds, h.accounted.weaken ?_⟩
      intro n hn halive
      have hperm := (OpenCalls.perm_eraseIdx htaken).flatten.mem_iff (a := n)
      rw [List.flatten_cons, List.mem_append] at hperm
      refine (hperm.mp hn).resolve_left ?_
      intro hmem
      rw [List.all_eq_true.mp hended n hmem] at halive
      cases halive
    · exact h

theorem Orderly.turn (h : s.Orderly role) {t : Engine.Turn}
    (ht : ∀ now, t ≠ .action (.shutdown now)) :
    Orderly role { s with engine := (s.engine.take t).engine } := by
  refine ⟨(congrArg _ (s.engine.take_settings t)).trans h.settings, ?_, h.accounted.take ht⟩
  refine Engine.actors_take h.kinds ?_ ?_ t
  · intro kind hkind
    rw [← h.settings]
    exact hkind
  · intro actor ending hkind
    exact hkind

theorem Orderly.next (h : s.Orderly role) (event : Event) : (s.next event).Orderly role := by
  cases event with
  | finish call => exact h.finish call
  | turn t =>
    by_cases ht : ∃ now, t = .action (.shutdown now)
    · obtain ⟨now, rfl⟩ := ht
      exact h.beginShutdown
    · have hne : ∀ now, t ≠ .action (.shutdown now) := fun now heq => ht ⟨now, heq⟩
      rw [s.next_of_not_shutdown hne]
      exact h.turn hne

/-- Whoever is alive when a start succeeds is waited for by a shutdown. -/
theorem Orderly.awaits (h : s.Orderly role) {event : Event}
    (hoverlaps : overlaps ⟨s, event⟩ = true) : s.Awaits := by
  unfold overlaps at hoverlaps
  split at hoverlaps
  · rename_i inRuntime _
    obtain ⟨hok, hmanned⟩ := Bool.and_eq_true_iff.mp hoverlaps
    rw [Engine.start_isOk, Bool.and_eq_true_iff] at hok
    have hstop : s.engine.running = false := by simpa using hok.2
    obtain ⟨n, halive⟩ := s.engine.isManned_iff_exists.mp hmanned
    have hwaited : n ∈ s.waiting.flatten := by
      refine (h.accounted.alive n halive).resolve_left ?_
      rw [h.accounted.stopped hstop]
      exact List.not_mem_nil
    obtain ⟨taken, htaken, hn⟩ := List.mem_flatten.mp hwaited
    exact ⟨taken, htaken, n, hn, halive⟩
  · cases hoverlaps

/-- Behind a start, a kind has two actors if and only if one was alive before. -/
theorem Orderly.single_start (h : s.Orderly role) {inRuntime : Bool} {e' : Engine}
    {logs : List LogLine} (hstart : s.engine.start inRuntime = .ok (e', logs)) :
    Single { s with engine := e' } ↔ s.engine.isManned = false := by
  have hcount := Engine.aliveOf_start hstart
  rw [h.settings] at hcount
  constructor
  · intro hsingle
    by_contra hunmanned
    have hmanned : s.engine.isManned = true := by simpa using hunmanned
    obtain ⟨actor, hmem, halive⟩ := List.any_eq_true.mp hmanned
    have hold : 0 < s.engine.aliveOf actor.kind :=
      (s.engine.aliveOf_pos_iff actor.kind).mpr ⟨actor, hmem, rfl, halive⟩
    have hnew : 0 < (Engine.actorKinds role).count actor.kind :=
      List.count_pos_iff.mpr (h.kinds actor hmem)
    have hone : e'.aliveOf actor.kind ≤ 1 := hsingle actor.kind
    rw [hcount] at hone
    omega
  · intro hunmanned kind
    change e'.aliveOf kind ≤ 1
    rw [hcount, Engine.aliveOf_of_unmanned hunmanned]
    cases role <;> cases kind <;> decide

/-- It takes a start to have two actors of a kind, and one that overlaps. -/
theorem Orderly.single_next (h : s.Orderly role) (hsingle : s.Single) (event : Event) :
    (s.next event).Single ↔ overlaps ⟨s, event⟩ = false := by
  have hfewer : ∀ e' : Engine, (∀ kind, e'.aliveOf kind ≤ s.engine.aliveOf kind) → ∀ waiting,
      Single { engine := e', waiting } := fun e' hle _ kind => (hle kind).trans (hsingle kind)
  cases event with
  | finish call =>
    refine iff_of_true ?_ rfl
    intro kind
    change (s.finish call).engine.aliveOf kind ≤ 1
    rw [finish_engine]
    exact hsingle kind
  | turn t =>
    cases t with
    | wake n now fate order =>
      refine iff_of_true (hfewer _ ?_ _) rfl
      exact fun kind => s.engine.aliveOf_wake_le n now order kind
    | action a =>
      cases a with
      | shutdown now => exact iff_of_true (hfewer s.engine.beginShutdown.2 (fun _ => le_rfl) _) rfl
      | start inRuntime =>
        rcases s.engine.start_cases inRuntime with ⟨hfail, hsame⟩ | ⟨hok, logs, hstart⟩
        · refine iff_of_true (hfewer _ ?_ _) (by simp [overlaps, hfail])
          intro kind
          exact (congrArg (Engine.aliveOf · kind) hsame).le
        · change Single { s with engine := (s.engine.act (.start inRuntime)).engine } ↔ _
          rw [h.single_start hstart]
          simp [overlaps, hok]
      | ingest | pollNotifications | pollFlashlight =>
        refine iff_of_true (hfewer _ ?_ _) rfl
        exact fun kind => ((Engine.act_sameCrew rfl).aliveOf kind).le

/-! ## Whole runs -/

/-- What a run tells of the crews of its engine. -/
structure Succeeds (role : Role) (past : List (Occurrence Succession Event)) (s : Succession) :
    Prop where
  orderly : s.Orderly role
  single : (∀ s' ∈ states past s, s'.Single) ↔ ∀ m ∈ past, overlaps m = false
  awaited : ∀ m ∈ past, overlaps m = true → m.before.Awaits

theorem Succeeds.step {past : List (Occurrence Succession Event)} (h : Succeeds role past s)
    (event : Event) : Succeeds role (past ++ [⟨s, event⟩]) (s.next event) := by
  refine ⟨h.orderly.next event, ?_, ?_⟩
  · have hstates : states (past ++ [⟨s, event⟩]) (s.next event) =
        states past s ++ [s.next event] := by
      simp [states]
    rw [hstates, List.forall_mem_append, List.forall_mem_append, h.single,
      List.forall_mem_singleton, List.forall_mem_singleton]
    refine and_congr_right fun hnone => h.orderly.single_next ?_ event
    exact h.single.mpr hnone s (by simp [states])
  · intro m hm
    rcases List.mem_append.mp hm with hm | hm
    · exact h.awaited m hm
    · rw [List.mem_singleton.mp hm]
      exact h.orderly.awaits

/-- **There are two actors of a kind if and only if a start came before the last shutdown was over.**
Whatever calls, events and wake-ups come between the halves of the shutdowns of a built engine: no
state of the run has two actors of a kind alive exactly if no start has succeeded while an actor was
alive; and each start that did came while a shutdown had begun and still waited for that actor. -/
theorem single_unless_overlapping {settings : EngineSettings} {attached : Attached} {e : Engine}
    (built : Engine.build settings attached = .ok e) (events : List Event) :
    ((∀ s ∈ states (occurrences next { engine := e } events) (behind next { engine := e } events),
        s.Single) ↔
      ∀ m ∈ occurrences next { engine := e } events, overlaps m = false) ∧
    ∀ m ∈ occurrences next { engine := e } events, overlaps m = true → m.before.Awaits := by
  have base : Succeeds settings.role [] { engine := e } := by
    rw [Engine.eq_of_build built]
    refine ⟨⟨rfl, ?_, .new settings attached⟩, ?_, ?_⟩
    · intro actor hactor
      cases hactor
    · refine iff_of_true ?_ ?_
      · intro s hs
        rw [List.mem_singleton.mp hs]
        intro kind
        exact Nat.zero_le 1
      · intro m hm
        cases hm
    · intro m hm
      cases hm
  have h := occurrences_induction base (fun _ _ event h => h.step event) events
  exact ⟨h.single, h.awaited⟩

/-- The shutdown is over before the engine is started again. -/
def relieved : List Event :=
  [.turn (.action (.start true)), .turn (.action (.shutdown (.ofSecond 0))),
    .turn (.wake 0 (.ofSecond 0) fun _ => .done), .finish 0, .turn (.action (.start true)),
    .turn (.wake 1 (.ofSecond 1) fun _ => .done)]

theorem single_unless_overlapping_relieved :
    Engine.build Engine.desk.settings Engine.desk.attached = .ok Engine.desk ∧
    (behind next { engine := Engine.desk } relieved).engine.running = true ∧
    (behind next { engine := Engine.desk } relieved).Single := by
  have built : Engine.build Engine.desk.settings Engine.desk.attached = .ok Engine.desk := by decide
  have hnone : ∀ m ∈ occurrences next { engine := Engine.desk } relieved, overlaps m = false := by
    decide
  refine ⟨built, by decide, ?_⟩
  exact (single_unless_overlapping built relieved).1.mpr hnone _ (by simp [states])

/-- The engine is started while a shutdown waits. The actor that it waits for finds the flag set, and
so does the new one: two are alive for notifications, and the shutdown does not return. -/
theorem two_alive_of_started_early :
    let events : List Event :=
      [.turn (.action (.start true)), .turn (.action (.shutdown (.ofSecond 0))),
        .turn (.action (.start true)), .turn (.wake 0 (.ofSecond 1) fun _ => .done),
        .turn (.wake 1 (.ofSecond 1) fun _ => .done), .finish 0]
    Engine.build Engine.desk.settings Engine.desk.attached = .ok Engine.desk ∧
    (behind next { engine := Engine.desk } events).engine.aliveOf .notification = 2 ∧
    (behind next { engine := Engine.desk } events).waiting = [[0]] := by
  decide

end Succession

end AlarmEscalation
