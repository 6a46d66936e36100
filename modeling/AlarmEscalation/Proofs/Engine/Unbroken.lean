import AlarmEscalation.Proofs.Engine.Actors
import AlarmEscalation.Proofs.Engine.Escalation

/-! # No poll is broken off as long as the deadlines of all events exist

A poll adds timeouts to the trigger times of the records and to the beginning of the episode, which
may be that of an alarm long gone. All of these are times of events that have come in, whatever
happened to the alarms since: so if the deadlines of the events exist, no sum leaves the range of
times, and no poll ends the actor that makes it. -/
namespace AlarmEscalation

namespace EngineSettings

def timeouts (settings : EngineSettings) : List UInt32 :=
  [settings.laboratory, settings.desktop, settings.email]

/-- The deadlines of all channels that are not turned off are times that exist. -/
def Covers (settings : EngineSettings) (t : Instant) : Prop :=
  ∀ timeout ∈ settings.timeouts, timeout ≠ 0 → (t.shift? (timeoutSpan timeout)).isSome

-- by the list of the timeouts, not by all numbers that a timeout may be
instance (settings : EngineSettings) : DecidablePred settings.Covers := fun _ =>
  List.decidableBAll _ settings.timeouts

/-- A channel that is turned off has a deadline, too: the time itself. -/
theorem Covers.isSome_shift? {settings : EngineSettings} {t : Instant} (h : settings.Covers t)
    {timeout : UInt32} (ht : timeout ∈ settings.timeouts) :
    (t.shift? (timeoutSpan timeout)).isSome := by
  by_cases hzero : timeout = 0
  · rw [hzero]
    exact Option.isSome_of_eq_some t.shift?_zero
  · exact h timeout ht hzero

end EngineSettings

theorem AlarmStore.Deadlines.episodeElapsed {s : AlarmStore} {timeout : Span}
    (h : s.Deadlines timeout) (now : Instant) :
    ∃ elapsed, s.episodeElapsed now timeout = .ok elapsed := by
  unfold AlarmStore.episodeElapsed
  split
  · exact ⟨false, rfl⟩
  · rename_i t ht
    split
    · exact ⟨false, rfl⟩
    · rw [Instant.due?_of_inRange (h.oldest t ht)]
      exact ⟨_, rfl⟩

namespace Engine

/-- An event whose deadlines are times that exist, if it has any. -/
def Turn.Covered (settings : EngineSettings) : Turn → Prop
  | .action (.ingest event) => event.isClearing = false → settings.Covers event.triggerTime
  | _ => True

instance (settings : EngineSettings) : DecidablePred (Turn.Covered settings)
  | .action (.ingest event) =>
    inferInstanceAs (Decidable (event.isClearing = false → settings.Covers event.triggerTime))
  | .action (.pollNotifications _ _ _) | .action (.pollFlashlight _ _) | .action (.start _)
  | .action (.shutdown _) | .wake _ _ _ _ => isTrue trivial

variable {e : Engine} {settings : EngineSettings}

/-! ## One poll -/

/-- All times in the store have deadlines that exist, and no actor has panicked. -/
structure Unbroken (settings : EngineSettings) (e : Engine) : Prop where
  settings_eq : e.settings = settings
  times : e.store.TimesIn settings.Covers
  alive : ∀ a ∈ e.actors, ∀ text, a.ending ≠ some (.panicked text)

theorem Unbroken.deadlines (h : Unbroken settings e) {timeout : UInt32}
    (ht : timeout ∈ settings.timeouts) : e.store.Deadlines (timeoutSpan timeout) :=
  h.times.deadlines fun _ hcovers => hcovers.isSome_shift? ht

theorem Unbroken.pollNotifications (h : Unbroken settings e) (now : Instant)
    (order : ScanOrder) :
    ∃ tick, (e.pollNotifications now order).found = .ok tick := by
  have hdesktop : e.store.Deadlines (timeoutSpan e.settings.desktop) :=
    h.deadlines (by simp [h.settings_eq, EngineSettings.timeouts])
  have hemail : e.store.Deadlines (timeoutSpan e.settings.email) :=
    h.deadlines (by simp [h.settings_eq, EngineSettings.timeouts])
  exact ⟨_, (pollNotifications_yields hdesktop hemail).found⟩

theorem Unbroken.pollFlashlight (h : Unbroken settings e) (now : Instant) :
    ∃ action, (e.pollFlashlight now).found = .ok action := by
  have hlaboratory : e.store.Deadlines (timeoutSpan e.settings.laboratory) :=
    h.deadlines (by simp [h.settings_eq, EngineSettings.timeouts])
  obtain ⟨elapsed, helapsed⟩ := hlaboratory.episodeElapsed now
  unfold Engine.pollFlashlight
  split
  · exact ⟨none, rfl⟩
  · rename_i hgiven
    have hon : e.settings.laboratory ≠ 0 := by
      intro hzero
      exact hgiven (by simp [hzero])
    split
    · unfold lightDown
      split
      · exact ⟨_, rfl⟩
      · exact ⟨_, rfl⟩
    · simp only [lightUp, gate, if_neg hon, helapsed, Step.done_andThen]
      split
      · exact ⟨_, rfl⟩
      · exact ⟨_, rfl⟩

theorem Unbroken.pollAs (h : Unbroken settings e) (kind : ActorKind) (now : Instant)
    (order : ScanOrder) : (e.pollAs kind now order).found = .ok () := by
  cases kind with
  | notification =>
    obtain ⟨tick, htick⟩ := h.pollNotifications now order
    simp [Engine.pollAs, Step.andThen_done, Step.map, htick, Except.map]
  | flashlight =>
    obtain ⟨action, haction⟩ := h.pollFlashlight now
    simp [Engine.pollAs, Step.andThen_done, Step.map, haction, Except.map]

/-! ## One turn -/

theorem Unbroken.act (h : Unbroken settings e) {a : Action}
    (covered : Turn.Covered settings (.action a)) : Unbroken settings (e.act a).engine := by
  have hmoved := e.moved a
  refine ⟨hmoved.built.1.trans h.settings_eq, hmoved.timesIn ?_ h.times, ?_⟩
  · rintro event rfl
    exact covered
  · exact actors_act h.alive (fun kind _ text hending => by cases hending)
      (fun a _ text hending => by cases hending) a

theorem Unbroken.wake (h : Unbroken settings e) (n : Nat) (now : Instant) (order : ScanOrder) :
    Unbroken settings (e.wake n now order).engine := by
  have hwoken := e.woken n now order
  generalize e.wake n now order = s at hwoken
  cases hwoken with
  | idle => exact h
  | exited =>
    refine ⟨h.settings_eq, h.times, actors_endActor h.alive ?_ n⟩
    intro a _ text hending
    cases hending
  | @polled actor =>
    have hpoll := (e.pollAs_eq actor.kind now (fun _ => .done) order).1
    rw [hpoll]
    refine h.act ?_
    cases actor.kind with
    | notification => exact trivial
    | flashlight => exact trivial
  | panicked _ _ _ hfound =>
    rw [h.pollAs] at hfound
    cases hfound

theorem Unbroken.take (h : Unbroken settings e) {t : Turn} (covered : t.Covered settings) :
    Unbroken settings (e.take t).engine := by
  cases t with
  | action a => exact h.act covered
  | wake n now fate order => exact h.wake n now order

/-- **No poll is broken off as long as the deadlines of all events exist.** Along every run of a
built engine, with its actors at work, whose events have deadlines that exist for each channel that
is not turned off, the next poll of either kind comes to its end, wherever the clock stands,
whatever became of the alarms and in whatever order the poll comes by them; and no actor has
panicked. -/
theorem polls_never_broken_off {attached : Attached} (built : build settings attached = .ok e)
    {turns : List Turn} (covered : ∀ t ∈ turns, t.Covered settings) (now : Instant)
    (order : ScanOrder) :
    (∃ tick, ((e.afterTurns turns).pollNotifications now order).found = .ok tick) ∧
    (∃ action, ((e.afterTurns turns).pollFlashlight now).found = .ok action) ∧
    ∀ actor ∈ (e.afterTurns turns).actors, ∀ text, actor.ending ≠ some (.panicked text) := by
  have base : Unbroken settings e := by
    rw [eq_of_build built]
    exact ⟨rfl, AlarmStore.timesIn_empty _, by simp⟩
  have h : Unbroken settings (e.afterTurns turns) :=
    turns_induction base (fun _ _ ht h => h.take ht) covered
  exact ⟨h.pollNotifications now order, h.pollFlashlight now, h.alive⟩

/-- A server that is given all its channels. -/
def equipped : Engine :=
  { settings := { role := .server, laboratory := 10, desktop := 5, email := 20 }
    attached := { desktop := true, mail := true, relay := true } }

/-- The alarm that opens the episode is cleared, and the episode goes on at the end of all times
while the actors are at work. -/
def lastMinute : List Turn :=
  [.action (.start true),
    .action (.ingest ⟨"PV1", "MAJOR", "HIHI", .ofSecond (maxSeconds - 20), false, false⟩),
    .wake 0 (.ofSecond 0) fun _ => .done,
    .action (.ingest ⟨"PV2", "MINOR", "LOW", .ofSecond (maxSeconds - 30), false, false⟩),
    .wake 1 (.ofSecond (maxSeconds - 1)) fun _ => .done,
    .action (.ingest ⟨"PV1", "OK", "NO_ALARM", .ofSecond maxSeconds, false, false⟩)]

theorem polls_never_broken_off_lastMinute :
    build equipped.settings equipped.attached = .ok equipped ∧
    (∀ t ∈ lastMinute, t.Covered equipped.settings) ∧
    (equipped.afterTurns lastMinute).store.oldest = some (.ofSecond (maxSeconds - 20)) ∧
    ∃ tick, ((equipped.afterTurns lastMinute).pollNotifications (.ofSecond maxSeconds)).found =
      .ok tick := by
  have built : build equipped.settings equipped.attached = .ok equipped := by decide
  have covered : ∀ t ∈ lastMinute, t.Covered equipped.settings := by decide
  exact ⟨built, covered, by decide,
    (polls_never_broken_off built covered (.ofSecond maxSeconds) .ascending).1⟩

end Engine

end AlarmEscalation
