import AlarmEscalation.Proofs.Engine.Run

/-! # Attempts to switch the light on

An engine remembers that it asked for the light, and asks again only behind a poll that found the
store empty. Episodes begin and end between the polls, at events. So an episode whose predecessor
ended without such a poll behind it inherits what the engine remembers, and gets no attempt of its
own; `Moment.findsDrained` and `lightLeftOn` say which episodes these are. -/
namespace AlarmEscalation

theorem AlarmStore.isEmpty_of_episodeElapsed {s : AlarmStore} {now : Instant} {timeout : Span}
    (h : s.episodeElapsed now timeout = .ok true) : s.isEmpty = false := by
  unfold episodeElapsed at h
  split at h
  · cases h
  · split at h
    · cases h
    · rename_i hne
      simpa using hne

namespace Engine

/-- The ways in which a poll for the flashlight goes, with a relay and a timeout. -/
inductive Lighting (e : Engine) (now : Instant) : Step (Option FlashlightAction) → Prop
  | drained : e.flashlightOn = true → e.store.isEmpty = true →
      Lighting e now (e.switchLight false .switchedOff)
  | lit : e.flashlightOn = true → e.store.isEmpty = false → Lighting e now (.done e none)
  | due : e.flashlightOn = false →
      e.store.episodeElapsed now (timeoutSpan e.settings.laboratory) = .ok true →
      Lighting e now (e.switchLight true .switchedOn)
  | early : e.flashlightOn = false →
      e.store.episodeElapsed now (timeoutSpan e.settings.laboratory) = .ok false →
      Lighting e now (.done e none)
  | broken {fault : Fault} : e.flashlightOn = false →
      e.store.episodeElapsed now (timeoutSpan e.settings.laboratory) = .error fault →
      Lighting e now (.broken e fault)

theorem lighting {e : Engine} (relay : e.attached.relay = true)
    (laboratory : e.settings.laboratory ≠ 0) (now : Instant) :
    e.Lighting now (e.pollFlashlight now) := by
  unfold pollFlashlight
  rw [if_neg (by simp [relay, laboratory])]
  split
  · rename_i hon
    unfold lightDown
    split
    · rename_i hempty
      exact .drained hon hempty
    · rename_i hne
      exact .lit hon (by simpa using hne)
  · rename_i hoff
    have hoff : e.flashlightOn = false := by simpa using hoff
    unfold lightUp gate
    rw [if_neg laboratory]
    cases h : e.store.episodeElapsed now (timeoutSpan e.settings.laboratory) with
    | error fault => exact .broken hoff h
    | ok elapsed =>
      rw [Step.done_andThen]
      cases elapsed with
      | true => exact .due hoff h
      | false => exact .early hoff h

/-- A poll that finds the store empty leaves the light out, and only one that does not know it on
switches it on. -/
theorem Lighting.flashlightOn {e : Engine} {now : Instant} {s : Step (Option FlashlightAction)}
    (h : e.Lighting now s) :
    s.engine.flashlightOn =
      (!e.store.isEmpty && (e.flashlightOn || decide (.switchLight true ∈ s.calls))) ∧
    (decide (.switchLight true ∈ s.calls) = true → e.flashlightOn = false) := by
  cases h with
  | drained hon hempty => simp [switchLight, hempty]
  | lit hon hne => simp [Step.done, hon, hne]
  | due hoff helapsed =>
    have hne := AlarmStore.isEmpty_of_episodeElapsed helapsed
    simp [switchLight, hoff, hne]
  | early hoff => simp [Step.done, hoff]
  | broken hoff => simp [Step.broken, hoff]

/-- When the timeout has passed, the engine remembers the light on. -/
theorem Lighting.flashlightOn_of_elapsed {e : Engine} {now : Instant}
    {s : Step (Option FlashlightAction)} (h : e.Lighting now s)
    (elapsed : e.store.episodeElapsed now (timeoutSpan e.settings.laboratory) = .ok true) :
    s.engine.flashlightOn = true := by
  cases h with
  | drained _ hempty =>
    rw [AlarmStore.isEmpty_of_episodeElapsed elapsed] at hempty
    cases hempty
  | lit hon => exact hon
  | due => rfl
  | early _ hearly => cases elapsed.symm.trans hearly
  | broken _ hbroken => cases elapsed.symm.trans hbroken

namespace Moment

/-- The relay is asked to switch the light on. -/
def switchesOn (m : Moment) : Bool := decide (Call.switchLight true ∈ m.calls)

/-- An event takes the store from empty to non-empty. -/
def opensEpisode (m : Moment) : Bool := m.before.store.isEmpty && !m.after.store.isEmpty

/-- A poll for the flashlight finds the store empty. -/
def findsDrained (m : Moment) : Bool :=
  match m.action with
  | .pollFlashlight _ _ => m.before.store.isEmpty
  | _ => false

/-- What one action does to the light that the engine remembers: a poll that finds the store empty
puts it out, and only a poll that does not know it on switches it on. -/
theorem light {m : Moment} (relay : m.before.attached.relay = true)
    (laboratory : m.before.settings.laboratory ≠ 0) :
    m.after.flashlightOn = (!m.findsDrained && (m.before.flashlightOn || m.switchesOn)) ∧
    (m.switchesOn = true → m.before.flashlightOn = false) := by
  obtain ⟨e, a⟩ := m
  by_cases hflash : ∃ now fate, a = .pollFlashlight now fate
  · obtain ⟨now, fate, rfl⟩ := hflash
    exact (lighting relay laboratory now).flashlightOn
  · have hno : (⟨e, a⟩ : Moment).switchesOn = false := by
      exact decide_eq_false fun hc => hflash (relay_of_mem_calls hc rfl)
    have hmoved := e.moved a
    simp only [after, step, hno]
    generalize (e.act a).engine = e' at hmoved
    cases hmoved with
    | ingested | started | stopped => simp [findsDrained]
    | polled now fate order h => simp [findsDrained, h.flashlightOn]
    | lit now fate => exact absurd ⟨now, fate, rfl⟩ hflash

end Moment

/-- The light was asked for, and no poll has found the store empty since. -/
def lightLeftOn : List Moment → Bool := since Moment.findsDrained Moment.switchesOn

/-- The light was asked for since the current episode began. -/
def attempted : List Moment → Bool := since Moment.opensEpisode Moment.switchesOn

/-- What an engine remembers of the light, against its history: since the current episode began it
has asked for the light exactly if it remembers it on and did not so at the beginning. -/
structure LightRemembered (past : List Moment) (e : Engine) : Prop where
  relay : e.attached.relay = true
  laboratory : e.settings.laboratory ≠ 0
  remembered : e.flashlightOn = lightLeftOn past
  episode : e.store.isEmpty = false →
    (lightLeftOn (upTo Moment.opensEpisode past) = true → e.flashlightOn = true) ∧
    attempted past = (e.flashlightOn && !lightLeftOn (upTo Moment.opensEpisode past))

theorem Moment.findsDrained_of_nonempty {m : Moment} (h : m.before.store.isEmpty = false) :
    m.findsDrained = false := by
  unfold findsDrained
  split
  · exact h
  · rfl

theorem LightRemembered.step {past : List Moment} {e : Engine} (h : LightRemembered past e)
    (a : Action) : LightRemembered (past ++ [⟨e, a⟩]) (e.act a).engine := by
  obtain ⟨hsettings, hattached⟩ := (e.moved a).built
  obtain ⟨hlight, hdark⟩ := Moment.light (m := ⟨e, a⟩) h.relay h.laboratory
  change (e.act a).engine.flashlightOn = _ at hlight
  have hremembered : (e.act a).engine.flashlightOn = lightLeftOn (past ++ [⟨e, a⟩]) := by
    rw [hlight, lightLeftOn, since_concat, ← lightLeftOn, ← h.remembered]
  refine ⟨hattached ▸ h.relay, hsettings ▸ h.laboratory, hremembered, ?_⟩
  intro hne
  rw [upTo_concat, attempted, since_concat, ← attempted]
  cases hopens : Moment.opensEpisode ⟨e, a⟩ with
  | true =>
    rw [if_pos rfl, hremembered]
    simp
  | false =>
    -- the episode goes on: no poll finds the store empty, and what was left on is still remembered
    have hbefore : e.store.isEmpty = false := by
      cases hb : e.store.isEmpty with
      | false => rfl
      | true => simp [Moment.opensEpisode, Moment.after, Moment.step, hb, hne] at hopens
    have hdrained := Moment.findsDrained_of_nonempty (m := ⟨e, a⟩) hbefore
    obtain ⟨hinherited, hattempts⟩ := h.episode hbefore
    rw [if_neg Bool.false_ne_true, hlight, hdrained, hattempts]
    generalize lightLeftOn (upTo Moment.opensEpisode past) = left at hinherited
    cases hon : e.flashlightOn <;> cases left <;> simp_all

theorem lightRemembered {settings : EngineSettings} {attached : Attached} {e : Engine}
    (built : build settings attached = .ok e) (relay : attached.relay = true)
    (laboratory : settings.laboratory ≠ 0) (actions : List Action) :
    LightRemembered (e.history actions) (e.afterAll actions) := by
  have base : LightRemembered [] e := by
    rw [eq_of_build built]
    exact ⟨relay, laboratory, rfl, fun hne => by cases hne⟩
  exact run_induction base (fun _ _ a (_ : True) h => h.step a) (by simp)

/-- **When an episode gets its attempt.** Behind every poll for the flashlight at which the
laboratory timeout has passed, the relay has been asked to switch the light on since the episode
began, unless the engine remembered the light on from before: it had asked for it, and no poll had
found the store empty until the episode began. What became of the calls is of no account. -/
theorem attempted_iff {settings : EngineSettings} {attached : Attached} {e : Engine}
    (built : build settings attached = .ok e) (relay : attached.relay = true)
    (laboratory : settings.laboratory ≠ 0) (past : List Action) (now : Instant)
    (fate : Call → CallOutcome)
    (elapsed : (e.afterAll past).store.episodeElapsed now (timeoutSpan settings.laboratory) =
      .ok true) :
    attempted (e.history (past ++ [.pollFlashlight now fate])) = true ↔
      lightLeftOn (upTo Moment.opensEpisode (e.history past)) = false := by
  have hpast := lightRemembered built relay laboratory past
  obtain rfl := eq_of_build built
  generalize hnow : Engine.afterAll { settings, attached } past = e at elapsed hpast
  have hsettings : e.settings = settings := by
    rw [← hnow]
    exact (afterAll_built _ past).1
  rw [← hsettings] at elapsed
  have hne := AlarmStore.isEmpty_of_episodeElapsed elapsed
  have hne' : (e.act (.pollFlashlight now fate)).engine.store.isEmpty = false :=
    ((e.moved _).isEmpty fun _ => Action.noConfusion).trans hne
  have hon : (e.act (.pollFlashlight now fate)).engine.flashlightOn = true :=
    (lighting hpast.relay hpast.laboratory now).flashlightOn_of_elapsed elapsed
  have hsame : Moment.opensEpisode ⟨e, .pollFlashlight now fate⟩ = false := by
    simp [Moment.opensEpisode, hne]
  have hepisode := ((hpast.step (.pollFlashlight now fate)).episode hne').2
  rw [history_concat, hnow, hepisode, hon, upTo_concat, hsame]
  simp

/-! ## Two episodes in quick succession -/

/-- A relay that does not obey. -/
def unreachable (_ : Call) : CallOutcome := .failed ⟨.io, "no such device"⟩

/-- The first attempt fails, the alarm goes, and before the next poll another one comes. -/
def refilled : List Action :=
  [.ingest ⟨"PV1", "MAJOR", "HIHI", .ofSecond 100, false, false⟩,
    .pollFlashlight (.ofSecond 110) unreachable,
    .ingest ⟨"PV1", "OK", "NO_ALARM", .ofSecond 111, false, false⟩,
    .ingest ⟨"PV2", "MAJOR", "HIHI", .ofSecond 120, false, false⟩]

/-- The same with a poll between the two alarms. -/
def drained : List Action :=
  [.ingest ⟨"PV1", "MAJOR", "HIHI", .ofSecond 100, false, false⟩,
    .pollFlashlight (.ofSecond 110) unreachable,
    .ingest ⟨"PV1", "OK", "NO_ALARM", .ofSecond 111, false, false⟩,
    .pollFlashlight (.ofSecond 115) unreachable,
    .ingest ⟨"PV2", "MAJOR", "HIHI", .ofSecond 120, false, false⟩]

/-- A server that asks for the light after ten seconds. -/
def lamp : Engine :=
  { settings := { role := .server, laboratory := 10 }, attached := { relay := true } }

theorem attempted_of_drained :
    (lamp.afterAll drained).store.episodeElapsed (.ofSecond 200) (timeoutSpan 10) = .ok true ∧
    attempted (lamp.history (drained ++ [.pollFlashlight (.ofSecond 200) unreachable])) = true := by
  have elapsed : (lamp.afterAll drained).store.episodeElapsed (.ofSecond 200) (timeoutSpan 10) =
      .ok true := by decide
  have built : build lamp.settings lamp.attached = .ok lamp := by decide
  exact ⟨elapsed, (attempted_iff built rfl (by decide) drained (.ofSecond 200) unreachable
    elapsed).mpr (by decide)⟩

/-- The second episode is old enough and gets no attempt: the failed one of the first is why. -/
theorem not_attempted_of_refilled :
    build lamp.settings lamp.attached = .ok lamp ∧
    (lamp.afterAll refilled).store.episodeElapsed (.ofSecond 200) (timeoutSpan 10) = .ok true ∧
    attempted (lamp.history (refilled ++ [.pollFlashlight (.ofSecond 200) unreachable])) = false :=
  ⟨by decide, by decide, by decide⟩

end Engine

end AlarmEscalation
