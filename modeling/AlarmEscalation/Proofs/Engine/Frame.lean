import AlarmEscalation.Engine.Lifecycle
import AlarmEscalation.Proofs.Store.View

/-! # What an engine's operations leave alone

Each operation of an engine changes a part of it only: an event the store and the published count, a
poll for notifications the marks in the store and two flags, a poll for the flashlight one flag,
starting and stopping the actors and what is held of them. These lemmas ask nothing of the times
involved: they hold of a poll that is broken off, too. -/
namespace AlarmEscalation.Engine

/-! ## Steps that keep a property -/

namespace Step

variable {α β : Type}

/-- A step that leaves the engine with `P` and makes only calls that have `Q`. -/
structure Within (P : Engine → Prop) (Q : Call → Prop) (s : Step α) : Prop where
  engine : P s.engine
  calls : ∀ c ∈ s.calls, Q c

variable {P : Engine → Prop} {Q : Call → Prop}

theorem within_done {e : Engine} (h : P e) (a : α) : Within P Q (done e a) := ⟨h, by simp [done]⟩

theorem within_broken {e : Engine} (h : P e) (fault : Fault) :
    Within P Q (broken e fault : Step α) := ⟨h, by simp [broken]⟩

theorem Within.andThen {s : Step α} {next : Engine → α → Step β} (hs : Within P Q s)
    (hnext : ∀ e a, P e → Within P Q (next e a)) : Within P Q (s.andThen next) := by
  unfold Step.andThen
  split
  · exact ⟨hs.engine, hs.calls⟩
  · rename_i a _
    have hn := hnext s.engine a hs.engine
    refine ⟨hn.engine, ?_⟩
    intro c hc
    rcases List.mem_append.mp hc with hc | hc
    · exact hs.calls c hc
    · exact hn.calls c hc

end Step

/-- Asking whether a channel may speak changes nothing. -/
theorem gate_within {P : Engine → Prop} {Q : Call → Prop} {e : Engine} (h : P e) (timeout : UInt32)
    (now : Instant) : (e.gate timeout now).Within P Q := by
  unfold gate
  split
  · exact Step.within_done h _
  · split
    · exact Step.within_broken h _
    · exact Step.within_done h _

/-! ## Events -/

theorem ingest_engine (e : Engine) (event : AlarmRecord) :
    ∃ published publications, (e.ingest event).2 =
      { e with store := (e.store.ingest event).2, published, publications } := by
  change ∃ _ _, publish { e with store := (e.store.ingest event).2 } = _
  unfold publish
  split
  · exact ⟨_, _, rfl⟩
  · exact ⟨_, _, rfl⟩

theorem store_ingest (e : Engine) (event : AlarmRecord) :
    (e.ingest event).2.store = (e.store.ingest event).2 := by
  obtain ⟨published, publications, hingest⟩ := e.ingest_engine event
  rw [hingest]

theorem outcome_ingest (e : Engine) (event : AlarmRecord) :
    (e.ingest event).1 = (e.store.ingest event).1 := rfl

/-! ## Polls for notifications -/

/-- The engine before and after a poll for notifications: records are marked, and no more. -/
structure Polled (before after : Engine) : Prop where
  rest : ∃ store alarmSeen alertActive, after = { before with store, alarmSeen, alertActive }
  oldest : after.store.oldest = before.store.oldest
  records : ∀ id, ∃ desktop email,
    after.store.get? id = (before.store.get? id).map (·.marked desktop email)

theorem Polled.of_store_eq {before after : Engine} {alarmSeen alertActive : Bool}
    (h : after = { before with alarmSeen, alertActive }) : Polled before after := by
  subst h
  exact ⟨⟨_, _, _, rfl⟩, rfl, fun id => ⟨false, false, by simp⟩⟩

theorem Polled.refl (e : Engine) : Polled e e := .of_store_eq rfl

theorem Polled.trans {a b c : Engine} (hab : Polled a b) (hbc : Polled b c) : Polled a c := by
  obtain ⟨⟨s, x, y, rfl⟩, hold, hrecords⟩ := hab
  obtain ⟨⟨t, x', y', rfl⟩, hold', hrecords'⟩ := hbc
  refine ⟨⟨t, x', y', rfl⟩, hold'.trans hold, ?_⟩
  intro id
  obtain ⟨d, m, hdm⟩ := hrecords id
  obtain ⟨d', m', hdm'⟩ := hrecords' id
  refine ⟨d || d', m || m', ?_⟩
  rw [hdm', hdm, Option.map_map]
  congr 1
  funext r
  exact r.marked_marked d m d' m'

theorem Polled.settings {before after : Engine} (h : Polled before after) :
    after.settings = before.settings := by
  obtain ⟨⟨_, _, _, rfl⟩, -, -⟩ := h
  rfl

theorem Polled.attached {before after : Engine} (h : Polled before after) :
    after.attached = before.attached := by
  obtain ⟨⟨_, _, _, rfl⟩, -, -⟩ := h
  rfl

theorem Polled.flashlightOn {before after : Engine} (h : Polled before after) :
    after.flashlightOn = before.flashlightOn := by
  obtain ⟨⟨_, _, _, rfl⟩, -, -⟩ := h
  rfl

theorem Polled.isEmpty {before after : Engine} (h : Polled before after) :
    after.store.isEmpty = before.store.isEmpty := AlarmStore.isEmpty_of_marked h.records

/-- A call to the desktop, the mail or the alert. -/
def Notifies (c : Call) : Prop := c.channel ≠ .relay

variable {before : Engine}

theorem handOutDesktop_within {e : Engine} (h : Polled before e) (now : Instant)
    (order : ScanOrder) :
    (e.handOutDesktop now order).Within (Polled before) Notifies := by
  have hbatch : Polled before
      { e with store := (e.store.desktopBatch now (timeoutSpan e.settings.desktop) order).2 } :=
    h.trans ⟨⟨_, _, _, rfl⟩, rfl, fun id =>
      (e.store.get?_desktopBatch now (timeoutSpan e.settings.desktop) order id).imp fun _ hb =>
        ⟨false, hb⟩⟩
  unfold handOutDesktop
  split
  · dsimp only
    split
    · exact Step.within_broken hbatch _
    · refine ⟨hbatch, ?_⟩
      intro c hc
      split at hc
      · cases hc
      · rw [List.mem_singleton.mp hc]
        exact Channel.noConfusion
  · exact Step.within_done h _

theorem raiseAlert_within {e : Engine} (h : Polled before e) :
    e.raiseAlert.Within (Polled before) Notifies := by
  unfold raiseAlert
  split
  · refine ⟨h.trans (.of_store_eq rfl), ?_⟩
    intro c hc
    rw [List.mem_singleton.mp hc]
    exact Channel.noConfusion
  · exact Step.within_done h _

theorem handOutEmail_within {e : Engine} (h : Polled before e) :
    e.handOutEmail.Within (Polled before) Notifies := by
  unfold handOutEmail
  split
  · refine ⟨h.trans ⟨⟨_, _, _, rfl⟩, rfl, fun id => ⟨false, true, e.store.get?_emailBatch id⟩⟩,
      fun c hc => ?_⟩
    dsimp only at hc
    split at hc
    · cases hc
    · rw [List.mem_singleton.mp hc]
      exact Channel.noConfusion
  · exact Step.within_done h _

theorem pollDesktop_within {e : Engine} (h : Polled before e) (now : Instant) (order : ScanOrder) :
    (e.pollDesktop now order).Within (Polled before) Notifies := by
  refine (gate_within h _ now).andThen fun e elapsed h => ?_
  split
  · refine (handOutDesktop_within h now order).andThen fun e batch h => ?_
    exact (raiseAlert_within h).andThen fun e _ h => Step.within_done h _
  · exact Step.within_done h _

theorem pollEmail_within {e : Engine} (h : Polled before e) (now : Instant) :
    (e.pollEmail now).Within (Polled before) Notifies := by
  unfold pollEmail
  split
  · refine (gate_within h _ now).andThen fun e elapsed h => ?_
    split
    · exact handOutEmail_within h
    · exact Step.within_done h _
  · exact Step.within_done h _

theorem allClear_within {e : Engine} (h : Polled before e) :
    e.allClear.Within (Polled before) Notifies := by
  refine ⟨h.trans (.of_store_eq rfl), ?_⟩
  intro c hc
  rcases List.mem_append.mp hc with hc | hc <;> split at hc <;> simp_all [Notifies, Call.channel]

theorem pollEmpty_within {e : Engine} (h : Polled before e) :
    e.pollEmpty.Within (Polled before) Notifies := by
  unfold pollEmpty
  split
  · exact (allClear_within h).andThen fun e' _ h => Step.within_done h _
  · exact Step.within_done h _

theorem pollNotifications_within (e : Engine) (now : Instant) (order : ScanOrder) :
    (e.pollNotifications now order).Within (Polled e) Notifies := by
  unfold pollNotifications
  split
  · exact pollEmpty_within (.refl e)
  · have hseen : Polled e { e with alarmSeen := true } := .of_store_eq rfl
    refine (pollDesktop_within hseen now order).andThen fun e' desktop h => ?_
    exact (pollEmail_within h now).andThen fun e'' email h => Step.within_done h _

/-! ## Polls for the flashlight -/

/-- The engine before and after a poll for the flashlight. -/
def Lit (before after : Engine) : Prop := ∃ flashlightOn, after = { before with flashlightOn }

theorem switchLight_within {e : Engine} (h : Lit before e) (on : Bool) (action : FlashlightAction) :
    (e.switchLight on action).Within (Lit before) (·.channel = .relay) := by
  obtain ⟨lit, rfl⟩ := h
  refine ⟨⟨on, rfl⟩, ?_⟩
  intro c hc
  rw [List.mem_singleton.mp hc]
  rfl

theorem pollFlashlight_within (e : Engine) (now : Instant) :
    (e.pollFlashlight now).Within (Lit e) (·.channel = .relay) := by
  have hsame : Lit e e := ⟨_, rfl⟩
  unfold pollFlashlight
  split
  · exact Step.within_done hsame _
  · split
    · unfold lightDown
      split
      · exact switchLight_within hsame _ _
      · exact Step.within_done hsame _
    · refine (gate_within hsame _ now).andThen fun e' elapsed h => ?_
      split
      · exact switchLight_within h _ _
      · exact Step.within_done h _

/-! ## Starting and stopping -/

theorem start_engine {e e' : Engine} {inRuntime : Bool} {logs : List LogLine}
    (h : e.start inRuntime = .ok (e', logs)) :
    ∃ running actors held, e' = { e with running, actors, held } := by
  unfold start at h
  split at h
  · cases h
  · split at h
    · cases h
    · cases h
      exact ⟨_, _, _, rfl⟩

/-- A stopped engine before and after some of its actors wake up: these come to their end, and poll
no more. -/
def Ended (before after : Engine) : Prop := ∃ actors, after = { before with actors }

theorem wake_within_of_stopped {e : Engine} (hstop : before.running = false) (h : Ended before e)
    (n : Nat) (now : Instant) (order : ScanOrder) :
    (e.wake n now order).Within (Ended before) fun _ => False := by
  have hstop' : e.running = false := by
    obtain ⟨_, rfl⟩ := h
    exact hstop
  unfold wake
  split
  · exact Step.within_done h _
  · split
    · exact Step.within_done h _
    · rw [if_pos (by simp [hstop'])]
      obtain ⟨_, rfl⟩ := h
      exact Step.within_done ⟨_, rfl⟩ _

theorem wakeAll_within_of_stopped (hstop : before.running = false) (now : Instant)
    (ns : List Nat) {e : Engine} (h : Ended before e) :
    (e.wakeAll now ns).Within (Ended before) fun _ => False := by
  induction ns generalizing e with
  | nil => exact Step.within_done h _
  | cons n rest ih =>
    exact (wake_within_of_stopped hstop h n now .ascending).andThen fun e' _ h => ih h

theorem shutdown_engine (e : Engine) (now : Instant) :
    ∃ actors, (e.shutdown now).2.1 = { e with running := false, held := [], actors } := by
  have hended : Ended e.beginShutdown.2 (e.beginShutdown.2.wakeAll now e.held).engine :=
    (wakeAll_within_of_stopped rfl now e.held ⟨_, rfl⟩).engine
  exact hended

end AlarmEscalation.Engine
