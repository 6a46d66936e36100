import AlarmEscalation.Proofs.Engine.Light
import AlarmEscalation.Proofs.Turns

/-! # What the relay is asked for

An engine asks for the light only while it remembers it out, and for dark only while it remembers it
on, and it remembers what it asked for last, whether or not the relay obeyed. So the requests take
turns along every run, and each goes with a state of the store: light with an episode that has
lasted for the timeout, dark with a poll that finds the store empty. -/
namespace AlarmEscalation

/-- What a call asks of the relay. -/
def Call.switched? : Call → Option Bool
  | .switchLight on => some on
  | _ => none

theorem AlarmStore.due_of_episodeElapsed {s : AlarmStore} {now : Instant} {timeout : Span}
    (h : s.episodeElapsed now timeout = .ok true) :
    ∃ oldest deadline, s.oldest = some oldest ∧ oldest.shift? timeout = some deadline ∧
      deadline ≤ now := by
  unfold episodeElapsed at h
  split at h
  · cases h
  · rename_i oldest holdest
    split at h
    · cases h
    · cases hshift : oldest.shift? timeout with
      | none => simp [Instant.due?, hshift] at h
      | some deadline =>
        refine ⟨oldest, deadline, holdest, hshift, ?_⟩
        simpa [Instant.due?, hshift] using h

namespace Engine

namespace Moment

/-- What the relay is asked for at a moment, in this order. -/
def switches (m : Moment) : List Bool := m.calls.filterMap Call.switched?

/-- What a poll for the flashlight answers. -/
def lit? (m : Moment) : Option FlashlightAction :=
  match m.step.found with
  | .ok (.lit action) => action
  | _ => none

theorem switchesOn_iff (m : Moment) : m.switchesOn = true ↔ true ∈ m.switches := by
  rw [switchesOn, decide_eq_true_iff, switches, List.mem_filterMap]
  constructor
  · exact fun hc => ⟨_, hc, rfl⟩
  · rintro ⟨call, hc, hon⟩
    cases call with
    | switchLight on =>
      cases hon
      exact hc
    | _ => cases hon

theorem lit?_of_not_poll {m : Moment} (h : ∀ now fate, m.action ≠ .pollFlashlight now fate) :
    m.lit? = none := by
  obtain ⟨e, a⟩ := m
  unfold lit?
  split
  · rename_i action hfound
    cases answers hfound with
    | lit now fate => exact absurd rfl (h now fate)
  · rfl

theorem lit?_poll (e : Engine) (now : Instant) (fate : Call → CallOutcome) :
    lit? ⟨e, .pollFlashlight now fate⟩ = (e.pollFlashlight now).found.toOption.join := by
  simp only [lit?, step, act, Step.reported, Step.map]
  cases (e.pollFlashlight now).found <;> rfl

theorem switches_of_not_poll {m : Moment} (h : ∀ now fate, m.action ≠ .pollFlashlight now fate) :
    m.switches = [] := by
  rw [switches, List.filterMap_eq_nil_iff]
  intro call hcall
  cases call with
  | switchLight on =>
    obtain ⟨now, fate, hpoll⟩ := relay_of_mem_calls hcall rfl
    exact absurd hpoll (h now fate)
  | _ => rfl

theorem findsDrained_of_not_poll {m : Moment}
    (h : ∀ now fate, m.action ≠ .pollFlashlight now fate) : m.findsDrained = false := by
  unfold findsDrained
  split
  · rename_i now fate hpoll
    exact absurd hpoll (h now fate)
  · rfl

/-- The ways in which a moment goes for the relay: what it is asked for, what the poll answers, and
what the engine remembers behind it. -/
inductive Switched (m : Moment) : Prop
  | on (now : Instant) (fate : Call → CallOutcome) : m.action = .pollFlashlight now fate →
      m.before.flashlightOn = false →
      m.before.store.episodeElapsed now (timeoutSpan m.before.settings.laboratory) = .ok true →
      m.switches = [true] → m.lit? = some .switchedOn → m.after.flashlightOn = true → Switched m
  | off : m.findsDrained = true → m.before.flashlightOn = true →
      m.switches = [false] → m.lit? = some .switchedOff → m.after.flashlightOn = false → Switched m
  | unasked : (m.findsDrained = true → m.before.flashlightOn = false) →
      m.switches = [] → m.lit? = none → m.after.flashlightOn = m.before.flashlightOn → Switched m

theorem switched_of_poll {e : Engine} (relay : e.attached.relay = true)
    (laboratory : e.settings.laboratory ≠ 0) (now : Instant) (fate : Call → CallOutcome) :
    Switched ⟨e, .pollFlashlight now fate⟩ := by
  have hasked : switches ⟨e, .pollFlashlight now fate⟩ =
      (e.pollFlashlight now).calls.filterMap Call.switched? := rfl
  have hanswer := lit?_poll e now fate
  have hafter : after ⟨e, .pollFlashlight now fate⟩ = (e.pollFlashlight now).engine := rfl
  have hlighting := lighting relay laboratory now
  generalize e.pollFlashlight now = s at hlighting hasked hanswer hafter
  cases hlighting with
  | drained hon hempty => exact .off hempty hon hasked hanswer (by rw [hafter]; rfl)
  | lit hon hne =>
    exact .unasked (fun hempty => absurd hempty (by simp [findsDrained, hne])) hasked hanswer
      (by rw [hafter]; rfl)
  | due hoff helapsed =>
    exact .on now fate rfl hoff helapsed hasked hanswer (by rw [hafter]; rfl)
  | early hoff | broken hoff =>
    exact .unasked (fun _ => hoff) hasked hanswer (by rw [hafter]; rfl)

theorem switched {m : Moment} (relay : m.before.attached.relay = true)
    (laboratory : m.before.settings.laboratory ≠ 0) : m.Switched := by
  by_cases hflash : ∃ now fate, m.action = .pollFlashlight now fate
  · obtain ⟨e, a⟩ := m
    obtain ⟨now, fate, rfl⟩ := hflash
    exact switched_of_poll relay laboratory now fate
  · have hno : ∀ now fate, m.action ≠ .pollFlashlight now fate :=
      fun now fate hpoll => hflash ⟨now, fate, hpoll⟩
    have hasked := switches_of_not_poll hno
    have hdrained := findsDrained_of_not_poll hno
    have hon : m.switchesOn = false := by
      rw [← Bool.not_eq_true, switchesOn_iff, hasked]
      exact List.not_mem_nil
    have hsame : m.after.flashlightOn = m.before.flashlightOn := by
      rw [(light relay laboratory).1, hdrained, hon]
      simp
    refine .unasked (fun hempty => ?_) hasked (lit?_of_not_poll hno) hsame
    rw [hdrained] at hempty
    cases hempty

end Moment

/-- What the relay is asked for at several moments. -/
def switchings (moments : List Moment) : List Bool := moments.flatMap Moment.switches

theorem switchings_concat (past : List Moment) (m : Moment) :
    switchings (past ++ [m]) = switchings past ++ m.switches := by
  rw [switchings, List.flatMap_append, List.flatMap_singleton, ← switchings]

/-! ## A whole run -/

/-- The requests of a run take turns, and the engine remembers the last one. -/
structure Alternating (past : List Moment) (e : Engine) : Prop where
  turns : TakeTurns (switchings past)
  last : (switchings past).getLast?.getD false = e.flashlightOn

theorem Alternating.step {past : List Moment} {m : Moment} (h : Alternating past m.before)
    (hswitched : m.Switched) : Alternating (past ++ [m]) m.after := by
  have hconcat := switchings_concat past m
  cases hswitched with
  | on now fate _ hoff _ hasked _ hafter =>
    rw [hasked] at hconcat
    refine ⟨hconcat ▸ h.turns.concat (h.last.trans hoff), ?_⟩
    simp [hconcat, hafter]
  | off _ hon hasked _ hafter =>
    rw [hasked] at hconcat
    refine ⟨hconcat ▸ h.turns.concat (h.last.trans hon), ?_⟩
    simp [hconcat, hafter]
  | unasked _ hasked _ hafter =>
    rw [hasked, List.append_nil] at hconcat
    exact ⟨hconcat ▸ h.turns, hconcat ▸ hafter ▸ h.last⟩

/-- The moments behind the last one at which an episode began. -/
def currentEpisode (past : List Moment) : List Moment :=
  past.rtakeWhile fun m => !m.opensEpisode

/-- An episode in which the light was not asked for has no request for it. -/
theorem not_mem_switchings_of_not_attempted {past : List Moment} (h : attempted past = false) :
    true ∉ switchings (currentEpisode past) := by
  intro hmem
  obtain ⟨m, hm, hon⟩ := List.mem_flatMap.mp hmem
  have hnone : ¬ m.switchesOn = true := List.any_eq_false.mp h m hm
  exact hnone (m.switchesOn_iff.mpr hon)

section Built
variable {settings : EngineSettings} {attached : Attached} {e : Engine}

theorem switched_of_build (built : build settings attached = .ok e)
    (relay : attached.relay = true) (laboratory : settings.laboratory ≠ 0)
    (actions : List Action) (a : Action) : Moment.Switched ⟨e.afterAll actions, a⟩ := by
  have h := lightRemembered built relay laboratory actions
  exact Moment.switched h.relay h.laboratory

theorem alternating (built : build settings attached = .ok e) (relay : attached.relay = true)
    (laboratory : settings.laboratory ≠ 0) (actions : List Action) :
    Alternating (e.history actions) (e.afterAll actions) := by
  induction actions using List.reverseRecOn with
  | nil =>
    rw [eq_of_build built]
    exact ⟨⟨.nil, by simp [switchings, history]⟩, rfl⟩
  | append_singleton actions a ih =>
    rw [history_concat, afterAll_concat]
    exact ih.step (switched_of_build built relay laboratory actions a)

/-- The light is asked for while the engine does not remember it on, so not a second time in the
same episode. -/
theorem switched_on_once (built : build settings attached = .ok e) (relay : attached.relay = true)
    (laboratory : settings.laboratory ≠ 0) (actions : List Action) :
    (switchings (currentEpisode (e.history actions))).count true ≤ 1 := by
  induction actions using List.reverseRecOn with
  | nil => exact Nat.zero_le 1
  | append_singleton actions a ih =>
    rw [history_concat, currentEpisode, List.rtakeWhile_concat]
    split
    · rw [← currentEpisode, switchings_concat, List.count_append]
      cases switched_of_build built relay laboratory actions a with
      | on now fate _ hoff helapsed hasked =>
        have hne := AlarmStore.isEmpty_of_episodeElapsed helapsed
        have hattempted : attempted (e.history actions) = false := by
          rw [((lightRemembered built relay laboratory actions).episode hne).2, hoff]
          rfl
        rw [List.count_eq_zero.mpr (not_mem_switchings_of_not_attempted hattempted), hasked]
        simp
      | off _ _ hasked => simpa [hasked] using ih
      | unasked _ hasked => simpa [hasked] using ih
    · exact Nat.zero_le 1

/-- How an engine keeps to its part with the relay when `m` comes next behind `past`. -/
structure Serves (timeout : UInt32) (past : List Moment) (m : Moment) : Prop where
  turns : TakeTurns (switchings (past ++ [m]))
  on : true ∈ m.switches → ∃ now fate oldest deadline,
    m.action = .pollFlashlight now fate ∧ m.before.store.isEmpty = false ∧
      m.before.store.oldest = some oldest ∧ oldest.shift? (timeoutSpan timeout) = some deadline ∧
      deadline ≤ now
  off : false ∈ m.switches → m.findsDrained = true
  once : (switchings (currentEpisode (past ++ [m]))).count true ≤ 1
  answersOn : m.lit? = some .switchedOn ↔ true ∈ m.switches
  answersOff : m.lit? = some .switchedOff ↔ false ∈ m.switches
  drained : lightLeftOn past = true → m.findsDrained = true → m.switches = [false]

/-- **The relay is asked in turn for light and for dark.** Along every run of an engine with a relay
and a laboratory timeout, whatever becomes of the calls, the requests alternate, one for the light
first. The light is asked for by polls that find an episode that has lasted for the timeout, and at
most once in an episode; the dark by polls that find the store empty, and by the first such poll
behind every request for the light. A poll answers what it asked for. -/
theorem relay_asked_in_turn (built : build settings attached = .ok e)
    (relay : attached.relay = true) (laboratory : settings.laboratory ≠ 0)
    (actions : List Action) (a : Action) :
    Serves settings.laboratory (e.history actions) ⟨e.afterAll actions, a⟩ := by
  have hturns := (alternating built relay laboratory (actions ++ [a])).turns
  have honce := switched_on_once built relay laboratory (actions ++ [a])
  rw [history_concat] at hturns honce
  have hleft := (lightRemembered built relay laboratory actions).remembered
  have hsettings : (e.afterAll actions).settings = settings := by
    rw [(e.afterAll_built actions).1, eq_of_build built]
  cases switched_of_build built relay laboratory actions a with
  | on now fate hpoll hoff helapsed hasked hanswer =>
    obtain ⟨oldest, deadline, holdest, hshift, hle⟩ := AlarmStore.due_of_episodeElapsed helapsed
    rw [hsettings] at hshift
    refine ⟨hturns, fun _ => ⟨now, fate, oldest, deadline, hpoll,
      AlarmStore.isEmpty_of_episodeElapsed helapsed, holdest, hshift, hle⟩, ?_, honce,
      by simp [hasked, hanswer], by simp [hasked, hanswer], ?_⟩
    · simp [hasked]
    · intro hon
      rw [← hleft, hoff] at hon
      cases hon
  | off hdrained hon hasked hanswer =>
    exact ⟨hturns, by simp [hasked], fun _ => hdrained, honce, by simp [hasked, hanswer],
      by simp [hasked, hanswer], fun _ _ => hasked⟩
  | unasked hdark hasked hanswer =>
    refine ⟨hturns, by simp [hasked], by simp [hasked], honce, by simp [hasked, hanswer],
      by simp [hasked, hanswer], ?_⟩
    intro hon hdrained
    rw [← hleft, hdark hdrained] at hon
    cases hon

end Built

/-- A relay that does not obey is asked all the same, and again in the next episode. -/
theorem relay_asked_in_turn_drained :
    Serves 10 (lamp.history drained)
      ⟨lamp.afterAll drained, .pollFlashlight (.ofSecond 200) unreachable⟩ ∧
    switchings (lamp.history (drained ++ [.pollFlashlight (.ofSecond 200) unreachable])) =
      [true, false, true] := by
  have built : build lamp.settings lamp.attached = .ok lamp := by decide
  exact ⟨relay_asked_in_turn built rfl (by decide) drained _, by decide⟩

end Engine

end AlarmEscalation
