import AlarmEscalation.Proofs.Engine.Frame
import Mathlib.Data.List.DropRight

/-! # Runs of an engine

An engine is driven by events, by polls and by being started and stopped, in any order. The clock is
read anew at each poll and may have been moved in either direction; calls to the collaborators end
as they may. A run is kept as the list of its moments, and a statement about what happened earlier
is one about this list. -/
namespace AlarmEscalation.Engine

/-- What happens to an engine. `fate` is what becomes of the calls that a poll makes, `order` the one
in which it comes by the alarms. -/
inductive Action where
  | ingest (event : AlarmRecord)
  | pollNotifications (now : Instant) (fate : Call → CallOutcome)
      (order : ScanOrder := .ascending)
  | pollFlashlight (now : Instant) (fate : Call → CallOutcome)
  | start (inRuntime : Bool)
  | shutdown (now : Instant)

/-- The engine is polled for notifications. -/
def Action.isPoll : Action → Bool
  | .pollNotifications _ _ _ => true
  | .ingest _ | .pollFlashlight _ _ | .start _ | .shutdown _ => false

theorem Action.eq_of_isPoll {a : Action} (h : a.isPoll = true) :
    ∃ now fate order, a = .pollNotifications now fate order := by
  cases a with
  | pollNotifications now fate order => exact ⟨now, fate, order, rfl⟩
  | ingest | pollFlashlight | start | shutdown => cases h

/-- What an engine answers to it. -/
inductive Answer where
  | ingested (outcome : IngestOutcome)
  | polled (tick : NotificationTick)
  | lit (action : Option FlashlightAction)
  | started (result : Except StartRefusal Unit)
  | stopped (result : Except AlarmError Unit)

namespace Step

variable {α β : Type}

def map (f : α → β) (s : Step α) : Step β :=
  { engine := s.engine, found := s.found.map f, calls := s.calls, logs := s.logs }

/-- A step with what is logged about its calls when their outcomes are known. -/
def reported (fate : Call → CallOutcome) (s : Step α) : Step α :=
  { s with logs := s.logs ++ s.calls.flatMap fun c => c.report (fate c) }

theorem found_of_map {f : α → β} {s : Step α} {b : β} (h : (s.map f).found = .ok b) :
    ∃ a, s.found = .ok a ∧ b = f a := by
  unfold map at h
  cases hfound : s.found with
  | error fault =>
    rw [hfound] at h
    cases h
  | ok a =>
    rw [hfound] at h
    cases h
    exact ⟨a, rfl, rfl⟩

end Step

def act (e : Engine) : Action → Step Answer
  | .ingest event => .done (e.ingest event).2 (.ingested (e.ingest event).1)
  | .pollNotifications now fate order => ((e.pollNotifications now order).map .polled).reported fate
  | .pollFlashlight now fate => ((e.pollFlashlight now).map .lit).reported fate
  | .start inRuntime =>
    match e.start inRuntime with
    | .error refusal => .done e (.started (.error refusal))
    | .ok (e, logs) => { engine := e, found := .ok (.started (.ok ())), logs }
  | .shutdown now =>
    let (result, e, logs) := e.shutdown now
    { engine := e, found := .ok (.stopped result), logs }

/-- The engine after a run. -/
def afterAll (e : Engine) (actions : List Action) : Engine :=
  actions.foldl (fun e a => (e.act a).engine) e

/-- An action and the engine that it finds. -/
structure Moment where
  before : Engine
  action : Action

namespace Moment

variable (m : Moment)

def step : Step Answer := m.before.act m.action

def after : Engine := m.step.engine

def calls : List Call := m.step.calls

end Moment

/-- The moments of a run, the earliest first. -/
def history (e : Engine) : List Action → List Moment
  | [] => []
  | a :: rest => ⟨e, a⟩ :: (e.act a).engine.history rest

theorem afterAll_concat (e : Engine) (actions : List Action) (a : Action) :
    e.afterAll (actions ++ [a]) = ((e.afterAll actions).act a).engine := by
  rw [afterAll, List.foldl_append]; rfl

theorem history_concat (e : Engine) (actions : List Action) (a : Action) :
    e.history (actions ++ [a]) = e.history actions ++ [⟨e.afterAll actions, a⟩] := by
  induction actions generalizing e with
  | nil => rfl
  | cons b rest ih => simp only [List.cons_append, history, ih]; rfl

/-- What a new engine has, and every allowed action hands on, holds along every run. -/
theorem run_induction {J : List Moment → Engine → Prop} {allowed : Action → Prop} {e : Engine}
    (base : J [] e)
    (step : ∀ past e a, allowed a → J past e → J (past ++ [⟨e, a⟩]) (e.act a).engine)
    {actions : List Action} (h : ∀ a ∈ actions, allowed a) :
    J (e.history actions) (e.afterAll actions) := by
  induction actions using List.reverseRecOn with
  | nil => exact base
  | append_singleton actions a ih =>
    rw [history_concat, afterAll_concat]
    exact step _ _ a (h a (by simp)) (ih fun b hb => h b (by simp [hb]))

/-! ## What has happened since -/

section Since
variable {α : Type} (p q : α → Bool)

/-- Whether `q` was so at some time behind the last one at which `p` was. -/
def since (past : List α) : Bool := (past.rtakeWhile fun m => !p m).any q

/-- All up to the last time at which `p` was so. -/
def upTo (past : List α) : List α := past.rdropWhile fun m => !p m

theorem since_concat (past : List α) (m : α) :
    since p q (past ++ [m]) = (!p m && (since p q past || q m)) := by
  cases h : p m <;> simp [since, h]

theorem upTo_concat (past : List α) (m : α) :
    upTo p (past ++ [m]) = if p m then past ++ [m] else upTo p past := by
  cases h : p m <;> simp [upTo, h]

end Since

/-! ## Building -/

/-- A built engine is new. -/
theorem eq_of_build {settings : EngineSettings} {attached : Attached} {e : Engine}
    (h : build settings attached = .ok e) : e = { settings, attached } := by
  unfold build at h
  split at h
  · cases h
  · split at h
    · cases h
    · split at h
      · cases h
      · split at h
        · cases h
        · cases h
          rfl

/-- A desktop with popups and an alert after three seconds. -/
def desk : Engine :=
  { settings := { role := .desktop, desktop := 3 }, attached := { desktop := true, alert := true } }

/-! ## One action -/

/-- The engine after an action: what the action may have changed, and nothing else. -/
inductive Moved (e : Engine) : Action → Engine → Prop
  | ingested (event : AlarmRecord) (published publications : Nat) : Moved e (.ingest event)
      { e with store := (e.store.ingest event).2, published, publications }
  | polled (now : Instant) (fate : Call → CallOutcome) (order : ScanOrder) {after : Engine} :
      Polled e after → Moved e (.pollNotifications now fate order) after
  | lit (now : Instant) (fate : Call → CallOutcome) (flashlightOn : Bool) :
      Moved e (.pollFlashlight now fate) { e with flashlightOn }
  | started (inRuntime running : Bool) (actors : List Actor) (held : List Nat) :
      Moved e (.start inRuntime) { e with running, actors, held }
  | stopped (now : Instant) (running : Bool) (actors : List Actor) (held : List Nat) :
      Moved e (.shutdown now) { e with running, actors, held }

theorem moved (e : Engine) (a : Action) : e.Moved a (e.act a).engine := by
  cases a with
  | ingest event =>
    obtain ⟨published, publications, h⟩ := e.ingest_engine event
    rw [show (e.act (.ingest event)).engine = _ from h]
    exact .ingested event published publications
  | pollNotifications now fate order =>
    exact .polled now fate order (e.pollNotifications_within now order).engine
  | pollFlashlight now fate =>
    obtain ⟨on, h⟩ := (e.pollFlashlight_within now).engine
    rw [show (e.act (.pollFlashlight now fate)).engine = _ from h]
    exact .lit now fate on
  | start inRuntime =>
    simp only [act]
    split
    · exact .started inRuntime e.running e.actors e.held
    · rename_i h
      obtain ⟨running, actors, held, rfl⟩ := start_engine h
      exact .started inRuntime running actors held
  | shutdown now =>
    obtain ⟨actors, h⟩ := e.shutdown_engine now
    rw [show (e.act (.shutdown now)).engine = _ from h]
    exact .stopped now false actors []

/-- What an engine was built with stays as it is. -/
theorem Moved.built {e after : Engine} {a : Action} (h : e.Moved a after) :
    after.settings = e.settings ∧ after.attached = e.attached := by
  cases h with
  | ingested | lit | started | stopped => exact ⟨rfl, rfl⟩
  | polled _ _ _ h => exact ⟨h.settings, h.attached⟩

theorem afterAll_built (e : Engine) (actions : List Action) :
    (e.afterAll actions).settings = e.settings ∧ (e.afterAll actions).attached = e.attached := by
  induction actions using List.reverseRecOn with
  | nil => exact ⟨rfl, rfl⟩
  | append_singleton actions a ih =>
    obtain ⟨hs, ha⟩ := ((e.afterAll actions).moved a).built
    rw [afterAll_concat]
    exact ⟨hs.trans ih.1, ha.trans ih.2⟩

theorem afterAll_of_build {settings : EngineSettings} {attached : Attached} {e : Engine}
    (built : build settings attached = .ok e) (actions : List Action) :
    (e.afterAll actions).settings = settings ∧ (e.afterAll actions).attached = attached := by
  obtain ⟨hs, ha⟩ := e.afterAll_built actions
  rw [hs, ha, eq_of_build built]
  exact ⟨rfl, rfl⟩

/-- Only an event can take alarms in or out. -/
theorem Moved.isEmpty {e after : Engine} {a : Action} (h : e.Moved a after)
    (ha : ∀ event, a ≠ .ingest event) : after.store.isEmpty = e.store.isEmpty := by
  cases h with
  | ingested event => exact absurd rfl (ha event)
  | polled _ _ _ h => exact h.isEmpty
  | lit | started | stopped => rfl

/-- No action but an event brings a new time into the store. -/
theorem Moved.timesIn {P : Instant → Prop} {e after : Engine} {a : Action} (h : e.Moved a after)
    (ha : ∀ event, a = .ingest event → event.isClearing = false → P event.triggerTime)
    (hs : e.store.TimesIn P) : after.store.TimesIn P := by
  cases h with
  | ingested event => exact hs.ingest (ha event rfl)
  | polled _ _ _ h =>
    refine ⟨?_, fun t ht => hs.oldest t (h.oldest ▸ ht)⟩
    intro id r hr
    obtain ⟨d, m, hdm⟩ := h.records id
    rw [hdm] at hr
    obtain ⟨r0, hr0, rfl⟩ := Option.map_eq_some_iff.mp hr
    exact hs.records id r0 hr0
  | lit | started | stopped => exact hs

/-- The answers that an action can get. -/
inductive Answers : Action → Answer → Prop
  | ingested (event : AlarmRecord) (outcome : IngestOutcome) :
      Answers (.ingest event) (.ingested outcome)
  | polled (now : Instant) (fate : Call → CallOutcome) (order : ScanOrder)
      (tick : NotificationTick) : Answers (.pollNotifications now fate order) (.polled tick)
  | lit (now : Instant) (fate : Call → CallOutcome) (action : Option FlashlightAction) :
      Answers (.pollFlashlight now fate) (.lit action)
  | started (inRuntime : Bool) (result : Except StartRefusal Unit) :
      Answers (.start inRuntime) (.started result)
  | stopped (now : Instant) (result : Except AlarmError Unit) :
      Answers (.shutdown now) (.stopped result)

theorem answers {e : Engine} {a : Action} {answer : Answer} (h : (e.act a).found = .ok answer) :
    Answers a answer := by
  cases a with
  | ingest event =>
    cases h
    exact .ingested event _
  | pollNotifications now fate order =>
    obtain ⟨tick, -, rfl⟩ := Step.found_of_map h
    exact .polled now fate order tick
  | pollFlashlight now fate =>
    obtain ⟨action, -, rfl⟩ := Step.found_of_map h
    exact .lit now fate action
  | start inRuntime =>
    simp only [act] at h
    split at h
    · cases h
      exact .started inRuntime _
    · cases h
      exact .started inRuntime _
  | shutdown now =>
    cases h
    exact .stopped now _

/-- Only a poll for the flashlight makes calls to the relay. -/
theorem relay_of_mem_calls {e : Engine} {a : Action} {c : Call} (hc : c ∈ (e.act a).calls)
    (hrelay : c.channel = .relay) : ∃ now fate, a = .pollFlashlight now fate := by
  cases a with
  | ingest | shutdown => simp [act, Step.done] at hc
  | start inRuntime =>
    simp only [act] at hc
    split at hc <;> simp [Step.done] at hc
  | pollNotifications now fate order =>
    exact absurd hrelay ((e.pollNotifications_within now order).calls c hc)
  | pollFlashlight now fate => exact ⟨now, fate, rfl⟩

/-- Only a poll for notifications makes calls to anything else. -/
theorem relay_of_not_poll {e : Engine} {a : Action} (h : a.isPoll = false) {c : Call}
    (hc : c ∈ (e.act a).calls) : c.channel = .relay := by
  cases a with
  | ingest | shutdown => simp [act, Step.done] at hc
  | start inRuntime =>
    simp only [act] at hc
    split at hc <;> simp [Step.done] at hc
  | pollNotifications now fate order => cases h
  | pollFlashlight now fate => exact (e.pollFlashlight_within now).calls c hc

end AlarmEscalation.Engine
