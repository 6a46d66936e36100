import AlarmEscalation.Proofs.Engine.Actors

/-! # The crew of an engine

An engine remembers whether it runs, which actors it ever started, and which of them the next
shutdown waits for. Polls and events leave all of this alone; a wake-up can end the actor that wakes
up, and no more. `Accounted` is what starts and shutdowns rely on: no actor is alive that nobody
will wait for. -/
namespace AlarmEscalation.Engine

/-! ## What changes the crew -/

/-- The engine runs or does not, has the actors and holds those that it did before. -/
structure SameCrew (e after : Engine) : Prop where
  running : after.running = e.running
  actors : after.actors = e.actors
  held : after.held = e.held

theorem SameCrew.refl (e : Engine) : e.SameCrew e := ⟨rfl, rfl, rfl⟩

theorem SameCrew.hasEnded {e after : Engine} (h : e.SameCrew after) (n : Nat) :
    after.hasEnded n = e.hasEnded n := by
  rw [Engine.hasEnded, Engine.hasEnded, h.actors]

theorem SameCrew.panicOf? {e after : Engine} (h : e.SameCrew after) (n : Nat) :
    after.panicOf? n = e.panicOf? n := by
  rw [Engine.panicOf?, Engine.panicOf?, h.actors]

/-- Starts and shutdowns are about the crew; all other actions leave it alone. -/
def Action.mans : Action → Bool
  | .start _ | .shutdown _ => true
  | .ingest _ | .pollNotifications _ _ _ | .pollFlashlight _ _ => false

theorem act_sameCrew {e : Engine} {a : Action} (h : a.mans = false) :
    e.SameCrew (e.act a).engine := by
  have hmoved := e.moved a
  generalize (e.act a).engine = after at hmoved
  cases hmoved with
  | ingested | lit => exact ⟨rfl, rfl, rfl⟩
  | polled now fate order hpolled =>
    obtain ⟨⟨_, _, _, rfl⟩, -, -⟩ := hpolled
    exact ⟨rfl, rfl, rfl⟩
  | started | stopped => cases h

theorem pollAs_sameCrew (e : Engine) (kind : ActorKind) (now : Instant) (order : ScanOrder) :
    e.SameCrew (e.pollAs kind now order).engine := by
  rw [(e.pollAs_eq kind now (fun _ => .done) order).1]
  apply act_sameCrew
  cases kind <;> rfl

/-- A wake-up can be the end of its actor. -/
theorem wake_crew (e : Engine) (n : Nat) (now : Instant) (order : ScanOrder) :
    e.SameCrew (e.wake n now order).engine ∨
      ∃ after ending, e.SameCrew after ∧ (e.wake n now order).engine = after.endActor n ending := by
  have hwoken := e.woken n now order
  generalize e.wake n now order = s at hwoken
  cases hwoken with
  | idle => exact .inl (.refl e)
  | exited => exact .inr ⟨e, .exited, .refl e, rfl⟩
  | polled => exact .inl (e.pollAs_sameCrew _ now order)
  | panicked => exact .inr ⟨_, _, e.pollAs_sameCrew _ now order, rfl⟩

theorem wake_running (e : Engine) (n : Nat) (now : Instant) (order : ScanOrder) :
    (e.wake n now order).engine.running = e.running := by
  rcases e.wake_crew n now order with h | ⟨after, ending, h, hended⟩
  · exact h.running
  · rw [hended]
    exact h.running

theorem wake_held (e : Engine) (n : Nat) (now : Instant) (order : ScanOrder) :
    (e.wake n now order).engine.held = e.held := by
  rcases e.wake_crew n now order with h | ⟨after, ending, h, hended⟩
  · exact h.held
  · rw [hended]
    exact h.held

theorem hasEnded_endActor (e : Engine) (n : Nat) (ending : ActorEnd) (m : Nat) :
    (e.endActor n ending).hasEnded m = (decide (n = m) || e.hasEnded m) := by
  rw [hasEnded, endActor, List.getElem?_modify]
  by_cases h : n = m
  · simp [h, Actor.isAlive, Option.all_map]
  · simp [h, hasEnded]

/-- Nobody comes back. -/
theorem alive_of_wake {e : Engine} {n : Nat} {now : Instant} {order : ScanOrder} {m : Nat}
    (h : (e.wake n now order).engine.hasEnded m = false) : e.hasEnded m = false := by
  rcases e.wake_crew n now order with hsame | ⟨after, ending, hsame, hended⟩
  · exact hsame.hasEnded m ▸ h
  · rw [hended, hasEnded_endActor, hsame.hasEnded, Bool.or_eq_false_iff] at h
    exact h.2

theorem take_settings (e : Engine) (t : Turn) : (e.take t).engine.settings = e.settings := by
  cases t with
  | action a => exact (e.moved a).built.1
  | wake n now fate order =>
    change (e.wake n now order).engine.settings = e.settings
    rcases e.wake_cases n now fate order with ⟨actors, hengine, -⟩ | ⟨kind, actors, hengine, -⟩
    · rw [hengine]
    · rw [hengine]
      exact (e.moved (.poll now fate order kind)).built.1

/-! ## The actors of a stopped engine -/

/-- The actors of a stopped engine exit when they wake up. -/
theorem wake_of_stopped {e : Engine} (hstop : e.running = false) (n : Nat) (now : Instant)
    (order : ScanOrder) :
    e.wake n now order = .done (if e.hasEnded n then e else e.endActor n .exited) () := by
  unfold wake
  cases hactor : e.actors[n]? with
  | none => simp [hasEnded, hactor]
  | some actor => cases halive : actor.isAlive <;> simp [hasEnded, hactor, halive, hstop]

theorem wake_engine_of_stopped {e : Engine} (hstop : e.running = false) (n : Nat)
    (now : Instant) (order : ScanOrder) :
    (e.wake n now order).engine = if e.hasEnded n then e else e.endActor n .exited := by
  rw [wake_of_stopped hstop]; rfl

theorem hasEnded_wake {e : Engine} (hstop : e.running = false) (n : Nat) (now : Instant) (m : Nat) :
    (e.wake n now).engine.hasEnded m = (decide (n = m) || e.hasEnded m) := by
  rw [wake_engine_of_stopped hstop]
  split
  · rename_i hended
    by_cases h : n = m
    · simp [← h, hended]
    · simp [h]
  · exact e.hasEnded_endActor n .exited m

theorem hasEnded_wakeAll {e : Engine} (hstop : e.running = false) (now : Instant) (ns : List Nat)
    (m : Nat) : (e.wakeAll now ns).engine.hasEnded m = (decide (m ∈ ns) || e.hasEnded m) := by
  induction ns generalizing e with
  | nil => simp [wakeAll, Step.done]
  | cons n rest ih =>
    rw [wakeAll_cons_engine, ih ((e.wake_running n now .ascending).trans hstop),
      hasEnded_wake hstop]
    by_cases hm : m = n <;> simp [hm, eq_comm]

/-- A stopped engine is left with the panics that it had. -/
theorem panicOf?_wake_of_stopped {e : Engine} (hstop : e.running = false) (n : Nat) (now : Instant)
    (order : ScanOrder) (m : Nat) :
    (e.wake n now order).engine.panicOf? m = e.panicOf? m := by
  rw [wake_engine_of_stopped hstop]
  split
  · rfl
  · rename_i halive
    by_cases h : n = m
    · subst h
      obtain ⟨kind, hactor⟩ : ∃ kind, e.actors[n]? = some { kind } := by
        cases hactor : e.actors[n]? with
        | none => simp [hasEnded, hactor] at halive
        | some actor =>
          obtain ⟨kind, ending⟩ := actor
          cases ending with
          | none => exact ⟨kind, rfl⟩
          | some ending => simp [hasEnded, hactor, Actor.isAlive] at halive
      simp [panicOf?, endActor, hactor]
    · simp [panicOf?, endActor, h]

theorem panicOf?_wakeAll {e : Engine} (hstop : e.running = false) (now : Instant) (ns : List Nat)
    (m : Nat) : (e.wakeAll now ns).engine.panicOf? m = e.panicOf? m := by
  induction ns generalizing e with
  | nil => rfl
  | cons n rest ih =>
    rw [wakeAll_cons_engine, ih ((e.wake_running n now .ascending).trans hstop),
      panicOf?_wake_of_stopped hstop]

/-! ## Starts -/

/-- The actors that a start brings up. -/
def newActors (e : Engine) : List Actor := (actorKinds e.settings.role).map fun kind => { kind }

theorem start_isOk (e : Engine) (inRuntime : Bool) :
    (e.start inRuntime).isOk = (inRuntime && !e.running) := by
  unfold start
  cases inRuntime <;> cases e.running <;> rfl

theorem start_eq {e e' : Engine} {inRuntime : Bool} {logs : List LogLine}
    (h : e.start inRuntime = .ok (e', logs)) :
    inRuntime = true ∧ e.running = false ∧
      e' = { e with
        running := true
        actors := e.actors ++ e.newActors
        held := e.held ++ List.range' e.actors.length e.newActors.length } := by
  have hok := e.start_isOk inRuntime
  rw [h] at hok
  obtain ⟨hruntime, hstopped⟩ := Bool.and_eq_true_iff.mp hok.symm
  have hstopped : e.running = false := by simpa using hstopped
  subst hruntime
  simp only [start, hstopped, Bool.not_true, Bool.false_eq_true, if_false, Except.ok.injEq,
    Prod.mk.injEq] at h
  refine ⟨rfl, hstopped, ?_⟩
  rw [← h.1, newActors, List.length_map]

theorem logs_start {e e' : Engine} {inRuntime : Bool} {logs : List LogLine}
    (h : e.start inRuntime = .ok (e', logs)) : logs = [startLine e.settings] := by
  obtain ⟨rfl, hstop, -⟩ := start_eq h
  simp only [start, hstop, Bool.not_true, Bool.false_eq_true, if_false, Except.ok.injEq,
    Prod.mk.injEq] at h
  exact h.2.symm

theorem exists_start {e : Engine} (hstop : e.running = false) :
    ∃ e' logs, e.start = .ok (e', logs) := by
  have hok := e.start_isOk true
  rw [hstop] at hok
  cases hstart : e.start with
  | error refusal =>
    rw [hstart] at hok
    cases hok
  | ok started => exact ⟨started.1, started.2, rfl⟩

/-- A start that fails leaves the engine alone. -/
theorem start_cases (e : Engine) (inRuntime : Bool) :
    (e.start inRuntime).isOk = false ∧ (e.act (.start inRuntime)).engine = e ∨
      (e.start inRuntime).isOk = true ∧
        ∃ logs, e.start inRuntime = .ok ((e.act (.start inRuntime)).engine, logs) := by
  cases hstart : e.start inRuntime with
  | error refusal =>
    refine .inl ⟨rfl, ?_⟩
    simp only [act, hstart]
    rfl
  | ok started =>
    refine .inr ⟨rfl, started.2, ?_⟩
    simp only [act, hstart]

/-- The actors behind a start: those from before, and the new ones. -/
theorem alive_of_start {e e' : Engine} {inRuntime : Bool} {logs : List LogLine}
    (h : e.start inRuntime = .ok (e', logs)) {n : Nat} (halive : e'.hasEnded n = false) :
    e.hasEnded n = false ∨ n ∈ List.range' e.actors.length e.newActors.length := by
  obtain ⟨-, -, rfl⟩ := start_eq h
  by_cases hn : n < e.actors.length
  · left
    simpa [hasEnded, List.getElem?_append_left hn] using halive
  · right
    have hlt : n < e.actors.length + e.newActors.length := by
      by_contra hge
      have hnone : (e.actors ++ e.newActors)[n]? = none := by
        rw [List.getElem?_eq_none_iff, List.length_append]
        omega
      simp [hasEnded, hnone] at halive
    rw [List.mem_range'_1]
    omega

/-- New actors are alive. -/
theorem alive_of_new {e e' : Engine} {inRuntime : Bool} {logs : List LogLine}
    (h : e.start inRuntime = .ok (e', logs)) {n : Nat}
    (hn : n ∈ List.range' e.actors.length e.newActors.length) : e'.hasEnded n = false := by
  obtain ⟨-, -, rfl⟩ := start_eq h
  rw [List.mem_range'_1] at hn
  have hlt : n - e.actors.length < e.newActors.length := by omega
  obtain ⟨actor, hactor⟩ : ∃ actor, e.newActors[n - e.actors.length]? = some actor :=
    ⟨_, List.getElem?_eq_getElem hlt⟩
  have halive : actor.isAlive = true := by
    obtain ⟨kind, -, rfl⟩ := List.mem_map.mp (List.mem_of_getElem? hactor)
    rfl
  simp [hasEnded, List.getElem?_append_right hn.1, hactor, halive]

theorem panicOf?_start {e e' : Engine} {inRuntime : Bool} {logs : List LogLine}
    (h : e.start inRuntime = .ok (e', logs)) (n : Nat) : e'.panicOf? n = e.panicOf? n := by
  obtain ⟨-, -, rfl⟩ := start_eq h
  by_cases hn : n < e.actors.length
  · simp [panicOf?, List.getElem?_append_left hn]
  · have hnew : ∀ actor, e.newActors[n - e.actors.length]? = some actor → actor.ending = none := by
      intro actor hactor
      obtain ⟨kind, -, rfl⟩ := List.mem_map.mp (List.mem_of_getElem? hactor)
      rfl
    have hold : e.actors[n]? = none := List.getElem?_eq_none (by omega)
    simp only [panicOf?, hold, List.getElem?_append_right (Nat.le_of_not_lt hn)]
    split
    · rename_i text hactor
      cases hnew _ hactor
    · rfl

/-! ## How many are alive -/

/-- The number of actors of a kind that are alive. -/
def aliveOf (e : Engine) (kind : ActorKind) : Nat :=
  e.actors.countP fun actor => actor.kind = kind && actor.isAlive

/-- Some actor is alive. -/
def isManned (e : Engine) : Bool := e.actors.any Actor.isAlive

theorem isManned_iff_exists (e : Engine) : e.isManned = true ↔ ∃ n, e.hasEnded n = false := by
  rw [isManned, List.any_eq_true]
  constructor
  · rintro ⟨actor, hmem, halive⟩
    obtain ⟨n, hn⟩ := List.mem_iff_getElem?.mp hmem
    exact ⟨n, by simp [hasEnded, hn, halive]⟩
  · rintro ⟨n, hn⟩
    cases hactor : e.actors[n]? with
    | none => simp [hasEnded, hactor] at hn
    | some actor =>
      exact ⟨actor, List.mem_of_getElem? hactor, by simpa [hasEnded, hactor] using hn⟩

theorem aliveOf_pos_iff (e : Engine) (kind : ActorKind) :
    0 < e.aliveOf kind ↔ ∃ actor ∈ e.actors, actor.kind = kind ∧ actor.isAlive = true := by
  simp [aliveOf, List.countP_pos_iff]

theorem aliveOf_of_unmanned {e : Engine} (h : e.isManned = false) (kind : ActorKind) :
    e.aliveOf kind = 0 := by
  by_contra hpos
  obtain ⟨actor, hmem, -, halive⟩ := (e.aliveOf_pos_iff kind).mp (Nat.pos_of_ne_zero hpos)
  have hmanned : e.isManned = true := List.any_eq_true.mpr ⟨actor, hmem, halive⟩
  rw [h] at hmanned
  cases hmanned

theorem SameCrew.aliveOf {e after : Engine} (h : e.SameCrew after) (kind : ActorKind) :
    after.aliveOf kind = e.aliveOf kind := by
  rw [Engine.aliveOf, Engine.aliveOf, h.actors]

theorem aliveOf_endActor_le (e : Engine) (n : Nat) (ending : ActorEnd) (kind : ActorKind) :
    (e.endActor n ending).aliveOf kind ≤ e.aliveOf kind := by
  simp only [aliveOf, endActor]
  generalize e.actors = actors
  induction actors generalizing n with
  | nil => simp
  | cons actor rest ih =>
    cases n with
    | zero =>
      have hended : Actor.isAlive { actor with ending := some ending } = false := rfl
      simp [List.countP_cons, hended]
    | succ n =>
      rw [List.modify_succ_cons, List.countP_cons, List.countP_cons]
      exact Nat.add_le_add_right (ih n) _

theorem aliveOf_wake_le (e : Engine) (n : Nat) (now : Instant) (order : ScanOrder)
    (kind : ActorKind) : (e.wake n now order).engine.aliveOf kind ≤ e.aliveOf kind := by
  rcases e.wake_crew n now order with h | ⟨after, ending, h, hended⟩
  · exact (h.aliveOf kind).le
  · rw [hended, ← h.aliveOf kind]
    exact after.aliveOf_endActor_le n ending kind

theorem aliveOf_start {e e' : Engine} {inRuntime : Bool} {logs : List LogLine}
    (h : e.start inRuntime = .ok (e', logs)) (kind : ActorKind) :
    e'.aliveOf kind = e.aliveOf kind + (actorKinds e.settings.role).count kind := by
  obtain ⟨-, -, rfl⟩ := start_eq h
  have hnew : (e.newActors.countP fun actor => actor.kind = kind && actor.isAlive) =
      (actorKinds e.settings.role).count kind := by
    unfold newActors
    cases e.settings.role <;> cases kind <;> rfl
  rw [aliveOf, List.countP_append, hnew]
  rfl

/-! ## Nobody is forgotten -/

/-- An actor that is alive is held for the next shutdown, or waited for by one that has begun; a
stopped engine holds none. -/
structure Accounted (waited : List Nat) (e : Engine) : Prop where
  stopped : e.running = false → e.held = []
  alive : ∀ n, e.hasEnded n = false → n ∈ e.held ∨ n ∈ waited

namespace Accounted

variable {e e' : Engine} {waited : List Nat}

theorem new (settings : EngineSettings) (attached : Attached) :
    Accounted waited { settings, attached } := by
  refine ⟨fun _ => rfl, ?_⟩
  intro n halive
  simp [hasEnded] at halive

theorem sameCrew (h : e.Accounted waited) (hsame : e.SameCrew e') : e'.Accounted waited := by
  constructor
  · intro hstop
    rw [hsame.held]
    exact h.stopped (hsame.running ▸ hstop)
  · intro n halive
    rw [hsame.held]
    exact h.alive n (hsame.hasEnded n ▸ halive)

theorem wake (h : e.Accounted waited) (n : Nat) (now : Instant) (order : ScanOrder) :
    (e.wake n now order).engine.Accounted waited := by
  constructor
  · intro hstop
    rw [wake_held]
    exact h.stopped (e.wake_running n now order ▸ hstop)
  · intro m halive
    rw [wake_held]
    exact h.alive m (alive_of_wake halive)

theorem start (h : e.Accounted waited) {inRuntime : Bool} {logs : List LogLine}
    (hstart : e.start inRuntime = .ok (e', logs)) : e'.Accounted waited := by
  have hnew := fun n => alive_of_start hstart (n := n)
  obtain ⟨-, -, rfl⟩ := start_eq hstart
  refine ⟨fun hrun => (nomatch hrun), ?_⟩
  intro n halive
  rcases hnew n halive with hold | hnew
  · exact (h.alive n hold).imp (List.mem_append_left _) id
  · exact .inl (List.mem_append_right _ hnew)

/-- Every turn but a shutdown leaves all accounted for. -/
theorem take (h : e.Accounted waited) {t : Turn} (ht : ∀ now, t ≠ .action (.shutdown now)) :
    (e.take t).engine.Accounted waited := by
  cases t with
  | wake n now fate order => exact h.wake n now order
  | action a =>
    change (e.act a).engine.Accounted waited
    cases a with
    | shutdown now => exact absurd rfl (ht now)
    | start inRuntime =>
      rcases e.start_cases inRuntime with ⟨-, hsame⟩ | ⟨-, logs, hstart⟩
      · rw [hsame]
        exact h
      · exact h.start hstart
    | ingest | pollNotifications | pollFlashlight => exact h.sameCrew (act_sameCrew rfl)

theorem beginShutdown (h : e.Accounted waited) :
    e.beginShutdown.2.Accounted (waited ++ e.held) := by
  refine ⟨fun _ => rfl, ?_⟩
  intro n halive
  right
  rw [List.mem_append, or_comm]
  exact h.alive n halive

/-- In an engine that is stopped and not waited for nobody is alive. -/
theorem unmanned (h : e.Accounted []) (hstop : e.running = false) : e.isManned = false := by
  by_contra hmanned
  obtain ⟨n, hn⟩ := e.isManned_iff_exists.mp (by simpa using hmanned)
  have hheld := h.alive n hn
  simp [h.stopped hstop] at hheld

/-- A shutdown that nothing comes between leaves nobody alive that it was to wait for. -/
theorem shutdown (h : e.Accounted []) (now : Instant) (n : Nat) :
    (e.shutdown now).2.1.hasEnded n = true := by
  change (e.beginShutdown.2.wakeAll now e.held).engine.hasEnded n = true
  rw [hasEnded_wakeAll rfl]
  cases hended : e.hasEnded n with
  | true =>
    have hbegun : e.beginShutdown.2.hasEnded n = true := hended
    simp [hbegun]
  | false =>
    have hheld : n ∈ e.held := (h.alive n hended).resolve_right List.not_mem_nil
    simp [hheld]

/-- What is left of a shutdown when the actors that it waits for have ended. -/
theorem weaken (h : e.Accounted waited) {rest : List Nat}
    (hended : ∀ n ∈ waited, e.hasEnded n = false → n ∈ rest) : e.Accounted rest := by
  refine ⟨h.stopped, ?_⟩
  intro n halive
  exact (h.alive n halive).imp id fun hn => hended n hn halive

end Accounted

end AlarmEscalation.Engine
