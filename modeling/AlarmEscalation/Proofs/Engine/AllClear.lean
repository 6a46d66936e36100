import AlarmEscalation.Proofs.Engine.Dispatch
import AlarmEscalation.Proofs.Engine.Escalation
import AlarmEscalation.Proofs.Engine.Light

/-! # When the all-clear is given

The all-clear belongs to the end of an episode, but an engine gives it only at a poll that finds the
store empty. So a drain goes unnoticed if new alarms come in before that poll, and a sustained alert
that was running sounds on into the next episode. `drainedSincePoll` and `sounding` tell both off
the history. -/
namespace AlarmEscalation

/-- A call that belongs to the all-clear. -/
def Call.isAllClear : Call → Bool
  | .clear | .stopAlert => true
  | .show _ | .send _ | .switchLight _ | .startAlert => false

namespace Engine

/-! ## The sustained alert during a poll -/

/-- What a step that finds alarms does to the sustained alert: it may start it. -/
structure Step.Rings {α : Type} (e : Engine) (s : Step α) : Prop where
  alarmSeen : s.engine.alarmSeen = e.alarmSeen
  alertActive : s.engine.alertActive = (e.alertActive || decide (.startAlert ∈ s.calls))
  attached : .startAlert ∈ s.calls → e.attached.alert = true
  noAllClear : ∀ c ∈ s.calls, c.isAllClear = false

variable {e : Engine} {now : Instant} {order : ScanOrder}

theorem DesktopPoll.rings {s : Step (List AlarmRecord)} (h : e.DesktopPoll now order s) :
    s.Rings e ∧ (.startAlert ∈ s.calls → e.lasted e.settings.desktop now = true) := by
  cases h with
  | early | outOfRange | scanBroken =>
    exact ⟨⟨rfl, by simp [Step.done, Step.broken], by simp [Step.done, Step.broken],
      by simp [Step.done, Step.broken]⟩, by simp [Step.done, Step.broken]⟩
  | @handedOut batch store hlasted =>
    have hstarts : .startAlert ∈ (if batch.isEmpty then [] else [.show batch]) ++ e.alertCalls ↔
        e.attached.alert = true ∧ e.alertActive = false := by
      unfold alertCalls
      split <;> split <;> simp_all
    refine ⟨⟨rfl, ?_, fun hc => (hstarts.mp hc).1, ?_⟩, fun _ => hlasted⟩
    · simp only [hstarts]
      cases e.alertActive <;> simp
    · intro c hc
      unfold alertCalls at hc
      rcases List.mem_append.mp hc with hc | hc <;> split at hc <;> simp_all [Call.isAllClear]

theorem EmailPoll.rings {s : Step (List AlarmRecord)} (h : e.EmailPoll now s) :
    s.Rings e ∧ .startAlert ∉ s.calls := by
  cases h with
  | idle | outOfRange =>
    exact ⟨⟨rfl, by simp [Step.done, Step.broken], by simp [Step.done, Step.broken],
      by simp [Step.done, Step.broken]⟩, by simp [Step.done, Step.broken]⟩
  | handedOut =>
    dsimp only
    refine ⟨⟨rfl, ?_, ?_, ?_⟩, ?_⟩ <;> split <;> simp [Call.isAllClear]

/-- What comes of a poll that finds no alarms. -/
structure FoundEmpty (e : Engine) (s : Step NotificationTick) : Prop where
  found : s.found = .ok { cleared := e.alarmSeen }
  alarmSeen : s.engine.alarmSeen = false
  alertActive : s.engine.alertActive = (e.alertActive && !e.alarmSeen)
  noStart : .startAlert ∉ s.calls
  allClear : s.calls.filter Call.isAllClear =
    if e.alarmSeen then
      (if e.alertActive && e.attached.alert then [.stopAlert] else []) ++
        (if e.attached.desktop then [.clear] else [])
    else []

/-- What comes of a poll that finds alarms, be it broken off or not. -/
structure FoundAlarms (e : Engine) (now : Instant) (s : Step NotificationTick) : Prop where
  found : ∀ tick, s.found = .ok tick → tick.cleared = false
  alarmSeen : s.engine.alarmSeen = true
  alertActive : s.engine.alertActive = (e.alertActive || decide (.startAlert ∈ s.calls))
  started : .startAlert ∈ s.calls →
    e.attached.alert = true ∧ e.lasted e.settings.desktop now = true
  noAllClear : ∀ c ∈ s.calls, c.isAllClear = false

theorem NotificationPoll.foundEmpty {s : Step NotificationTick}
    (h : e.NotificationPoll now order s) (hempty : e.store.isEmpty = true) : e.FoundEmpty s := by
  cases h with
  | quiet _ hseen => exact ⟨by simp [Step.done, hseen], hseen, by simp [Step.done, hseen],
      by simp [Step.done], by simp [Step.done, hseen]⟩
  | allClear _ hseen =>
    refine ⟨by rw [hseen], rfl, by simp [Engine.allClear, hseen], ?_, ?_⟩
    · simp only [Engine.allClear]
      split <;> split <;> simp
    · simp only [Engine.allClear, hseen]
      split <;> split <;> rfl
  | desktopBroken hne | active hne =>
    rw [hempty] at hne
    cases hne

theorem NotificationPoll.foundAlarms {s : Step NotificationTick}
    (h : e.NotificationPoll now order s) (hne : e.store.isEmpty = false) :
    e.FoundAlarms now s := by
  cases h with
  | quiet hempty | allClear hempty =>
    rw [hne] at hempty
    cases hempty
  | desktopBroken _ hdesktop =>
    obtain ⟨hrings, hlasted⟩ := hdesktop.rings
    refine ⟨?_, hrings.alarmSeen, hrings.alertActive, ?_, hrings.noAllClear⟩
    · intro tick hfound
      cases hfound
    · intro hc
      exact ⟨hrings.attached hc, hlasted hc⟩
  | active _ hdesktop _ hemail =>
    obtain ⟨hrings, hlasted⟩ := hdesktop.rings
    obtain ⟨hmails, hnostart⟩ := hemail.rings
    refine ⟨?_, hmails.alarmSeen.trans hrings.alarmSeen, ?_, ?_, ?_⟩
    · intro tick hfound
      obtain ⟨mails, -, rfl⟩ := found_mails hfound
      rfl
    · simp [hmails.alertActive, hrings.alertActive, hnostart]
    · intro hc
      have hc := (List.mem_append.mp hc).resolve_right hnostart
      exact ⟨hrings.attached hc, hlasted hc⟩
    · intro c hc
      rcases List.mem_append.mp hc with hc | hc
      · exact hrings.noAllClear c hc
      · exact hmails.noAllClear c hc

/-! ## What a history tells of the alert -/

namespace Moment

/-- A poll for notifications takes place. -/
def polls (m : Moment) : Bool :=
  match m.action with
  | .pollNotifications _ _ _ => true
  | _ => false

/-- A poll for notifications finds that the desktop timeout has passed. -/
def findsElapsed (m : Moment) : Bool :=
  match m.action with
  | .pollNotifications now _ _ =>
    !m.before.store.isEmpty && m.before.lasted m.before.settings.desktop now
  | _ => false

def leavesEmpty (m : Moment) : Bool := m.after.store.isEmpty

/-- A poll for notifications reports that the store drained. -/
def reportsCleared (m : Moment) : Bool := m.tick?.any NotificationTick.cleared

def startsAlert (m : Moment) : Bool := decide (Call.startAlert ∈ m.calls)

def stopsAlert (m : Moment) : Bool := decide (Call.stopAlert ∈ m.calls)

theorem polls_eq (m : Moment) : m.polls = m.action.isPoll := by
  unfold polls
  cases m.action <;> rfl

theorem no_alert_of_not_poll {e : Engine} {a : Action} (h : a.isPoll = false) :
    startsAlert ⟨e, a⟩ = false ∧ stopsAlert ⟨e, a⟩ = false := by
  constructor
  · exact decide_eq_false fun hc => by cases relay_of_not_poll h hc
  · exact decide_eq_false fun hc => by cases relay_of_not_poll h hc

end Moment

/-- Only a poll for notifications changes what is remembered of alarms and alert. -/
theorem flags_of_not_poll (e : Engine) {a : Action} (h : a.isPoll = false) :
    (e.act a).engine.alarmSeen = e.alarmSeen ∧
      (e.act a).engine.alertActive = e.alertActive := by
  have hmoved := e.moved a
  generalize (e.act a).engine = after at hmoved
  cases hmoved with
  | polled now fate order => cases h
  | ingested | lit | started | stopped => exact ⟨rfl, rfl⟩

/-- The last poll for notifications. -/
def lastPoll? (past : List Moment) : Option Moment := (past.filter Moment.polls).getLast?

/-- The last poll for notifications found alarms, and since then the store has been empty. -/
def drainedSincePoll (past : List Moment) : Bool :=
  (lastPoll? past).any (fun m => !m.before.store.isEmpty) &&
    since Moment.polls Moment.leavesEmpty past

/-- The alert was started and has not been stopped since. -/
def sounding : List Moment → Bool := since Moment.stopsAlert Moment.startsAlert

/-- A poll of the current episode found that the desktop timeout has passed. -/
def elapsedInEpisode : List Moment → Bool := since Moment.opensEpisode Moment.findsElapsed

theorem lastPoll?_concat (past : List Moment) (m : Moment) :
    lastPoll? (past ++ [m]) = if m.polls then some m else lastPoll? past := by
  cases h : m.polls <;> simp [lastPoll?, List.filter_append, h]

/-- What an engine remembers of alarms and alert, against its history. -/
structure Watchful (past : List Moment) (e : Engine) : Prop where
  alarmSeen : e.alarmSeen = (lastPoll? past).any fun m => !m.before.store.isEmpty
  emptied : e.alarmSeen = true → e.store.isEmpty = true →
    since Moment.polls Moment.leavesEmpty past = true
  alertActive : e.alertActive = sounding past
  alert : e.alertActive = true → e.alarmSeen = true ∧ e.attached.alert = true
  reason : sounding past = true →
    elapsedInEpisode past = true ∨ sounding (upTo Moment.opensEpisode past) = true

variable {past : List Moment}

theorem Moment.opensEpisode_poll (e : Engine) (now : Instant) (fate : Call → CallOutcome)
    (order : ScanOrder) :
    opensEpisode ⟨e, .pollNotifications now fate order⟩ = false := by
  have hkept : (after ⟨e, .pollNotifications now fate order⟩).store.isEmpty = e.store.isEmpty :=
    (e.pollNotifications_within now order).engine.isEmpty
  simp [opensEpisode, hkept]

theorem Watchful.poll_of_empty (h : Watchful past e) (hempty : e.store.isEmpty = true)
    (now : Instant) (fate : Call → CallOutcome) (order : ScanOrder) :
    Watchful (past ++ [⟨e, .pollNotifications now fate order⟩])
      (e.pollNotifications now order).engine := by
  have hpoll := (e.notificationPoll now order).foundEmpty hempty
  have hquiet : (e.pollNotifications now order).engine.alertActive = false := by
    rw [hpoll.alertActive]
    cases hactive : e.alertActive with
    | false => rfl
    | true => rw [(h.alert hactive).1]; rfl
  have hsilent : sounding (past ++ [⟨e, .pollNotifications now fate order⟩]) = false := by
    have hstarts : Moment.startsAlert ⟨e, .pollNotifications now fate order⟩ = false :=
      decide_eq_false hpoll.noStart
    rw [sounding, since_concat, hstarts, ← sounding, ← h.alertActive]
    cases hactive : e.alertActive with
    | false => simp
    | true =>
      -- an alert that sounds is stopped: the engine has seen alarms, and there is an alert
      obtain ⟨hseen, hattached⟩ := h.alert hactive
      have hstop : .stopAlert ∈ (e.pollNotifications now order).calls := by
        apply List.mem_of_mem_filter (p := Call.isAllClear)
        rw [hpoll.allClear, hseen, hactive, hattached]
        simp
      simp [show Moment.stopsAlert ⟨e, .pollNotifications now fate order⟩ = true from
        decide_eq_true hstop]
  refine ⟨?_, ?_, hquiet.trans hsilent.symm, ?_, ?_⟩
  · rw [lastPoll?_concat, hpoll.alarmSeen]
    simp [Moment.polls, hempty]
  · intro hs
    rw [hpoll.alarmSeen] at hs
    cases hs
  · intro ha
    rw [hquiet] at ha
    cases ha
  · intro hs
    rw [hsilent] at hs
    cases hs

theorem Watchful.poll_of_alarms (h : Watchful past e) (hne : e.store.isEmpty = false)
    (now : Instant) (fate : Call → CallOutcome) (order : ScanOrder) :
    Watchful (past ++ [⟨e, .pollNotifications now fate order⟩])
      (e.pollNotifications now order).engine := by
  have hpoll := (e.notificationPoll now order).foundAlarms hne
  have hkept := (e.pollNotifications_within now order).engine
  have hstops : Moment.stopsAlert ⟨e, .pollNotifications now fate order⟩ = false :=
    decide_eq_false fun hc => by cases hpoll.noAllClear _ hc
  have hsounding : sounding (past ++ [⟨e, .pollNotifications now fate order⟩]) =
      (sounding past || decide (.startAlert ∈ (e.pollNotifications now order).calls)) := by
    rw [sounding, since_concat, hstops]
    rfl
  refine ⟨?_, ?_, ?_, ?_, ?_⟩
  · rw [lastPoll?_concat, hpoll.alarmSeen]
    simp [Moment.polls, hne]
  · intro _ he
    rw [hkept.isEmpty, hne] at he
    cases he
  · rw [hpoll.alertActive, hsounding, h.alertActive]
  · intro ha
    refine ⟨hpoll.alarmSeen, hkept.attached ▸ ?_⟩
    rw [hpoll.alertActive, Bool.or_eq_true_iff] at ha
    rcases ha with ha | ha
    · exact (h.alert ha).2
    · exact (hpoll.started (of_decide_eq_true ha)).1
  · intro hs
    rw [elapsedInEpisode, since_concat, upTo_concat, Moment.opensEpisode_poll, ← elapsedInEpisode]
    rw [hsounding, Bool.or_eq_true_iff] at hs
    rcases hs with hs | hs
    · rcases h.reason hs with hr | hr
      · exact .inl (by simp [hr])
      · exact .inr (by simpa using hr)
    · have hlasted := (hpoll.started (of_decide_eq_true hs)).2
      exact .inl (by simp [Moment.findsElapsed, hne, hlasted])

theorem Watchful.aside (h : Watchful past e) {a : Action} (ha : a.isPoll = false) :
    Watchful (past ++ [⟨e, a⟩]) (e.act a).engine := by
  obtain ⟨hstarts, hstops⟩ := Moment.no_alert_of_not_poll (e := e) ha
  have hpolls : Moment.polls ⟨e, a⟩ = false := (Moment.polls_eq _).trans ha
  have hflags := e.flags_of_not_poll ha
  have hsounding : sounding (past ++ [⟨e, a⟩]) = sounding past := by
    simp [sounding, since_concat, hstarts, hstops]
  refine ⟨?_, ?_, ?_, ?_, ?_⟩
  · rw [hflags.1, lastPoll?_concat, hpolls, h.alarmSeen]
    rfl
  · intro _ he
    rw [since_concat, hpolls]
    simp [Moment.leavesEmpty, Moment.after, Moment.step, he]
  · rw [hflags.2, hsounding, h.alertActive]
  · rw [hflags.1, hflags.2, (e.moved a).built.2]
    exact h.alert
  · intro hs
    rw [upTo_concat]
    cases hopens : Moment.opensEpisode ⟨e, a⟩ with
    | true => exact .inr hs
    | false =>
      rw [elapsedInEpisode, since_concat, hopens, ← elapsedInEpisode]
      rcases h.reason (hsounding ▸ hs) with hr | hr
      · exact .inl (by simp [hr])
      · exact .inr hr

theorem watchful {settings : EngineSettings} {attached : Attached}
    (built : build settings attached = .ok e) (actions : List Action) :
    Watchful (e.history actions) (e.afterAll actions) := by
  have base : Watchful [] e := by
    rw [eq_of_build built]
    refine ⟨rfl, ?_, rfl, ?_, ?_⟩
    all_goals
      intro h
      cases h
  refine run_induction base (fun past e a (_ : True) h => ?_) (by simp)
  cases hpoll : a.isPoll with
  | true =>
    obtain ⟨now, fate, order, rfl⟩ := Action.eq_of_isPoll hpoll
    cases hempty : e.store.isEmpty with
    | true => exact h.poll_of_empty hempty now fate order
    | false => exact h.poll_of_alarms hempty now fate order
  | false => exact h.aside hpoll

/-! ## The poll behind a drain -/

/-- What a poll makes of a drain, and what keeps the alert sounding behind it. -/
structure Noticed (past : List Moment) (poll : Moment) : Prop where
  cleared : poll.reportsCleared = (drainedSincePoll past && poll.before.store.isEmpty)
  sideEffects : poll.calls.filter Call.isAllClear =
    if poll.reportsCleared then
      (if sounding past then [.stopAlert] else []) ++
        (if poll.before.attached.desktop then [.clear] else [])
    else []
  silent : poll.before.store.isEmpty = true → sounding (past ++ [poll]) = false
  reason : sounding (past ++ [poll]) = true →
    elapsedInEpisode (past ++ [poll]) = true ∨ sounding (upTo Moment.opensEpisode past) = true

theorem Watchful.noticed (h : Watchful past e) (now : Instant) (fate : Call → CallOutcome)
    (order : ScanOrder) : Noticed past ⟨e, .pollNotifications now fate order⟩ := by
  have htick := Moment.tick?_poll e now fate order
  cases hempty : e.store.isEmpty with
  | true =>
    have hpoll := (e.notificationPoll now order).foundEmpty hempty
    have hafter := h.poll_of_empty hempty now fate order
    have hcleared : Moment.reportsCleared ⟨e, .pollNotifications now fate order⟩ = e.alarmSeen := by
      rw [Moment.reportsCleared, htick, hpoll.found]
      rfl
    have hsilent : sounding (past ++ [⟨e, .pollNotifications now fate order⟩]) = false := by
      rw [← hafter.alertActive, Bool.eq_false_iff]
      intro ha
      have hseen := (hafter.alert ha).1
      rw [hpoll.alarmSeen] at hseen
      cases hseen
    refine ⟨?_, ?_, fun _ => hsilent, ?_⟩
    · rw [hcleared, hempty, Bool.and_true, drainedSincePoll, ← h.alarmSeen]
      cases hseen : e.alarmSeen with
      | false => rfl
      | true => rw [h.emptied hseen hempty]; rfl
    · rw [hcleared, ← h.alertActive]
      refine hpoll.allClear.trans ?_
      have halert := h.alert
      cases hactive : e.alertActive with
      | false => simp
      | true => simp [(halert hactive).2]
    · intro hs
      rw [hsilent] at hs
      cases hs
  | false =>
    have hpoll := (e.notificationPoll now order).foundAlarms hempty
    have hafter := h.poll_of_alarms hempty now fate order
    have hcleared : Moment.reportsCleared ⟨e, .pollNotifications now fate order⟩ = false := by
      rw [Moment.reportsCleared, htick]
      cases hfound : (e.pollNotifications now order).found with
      | error fault => rfl
      | ok tick => exact hpoll.found tick hfound
    refine ⟨by rw [hcleared, hempty, Bool.and_false], ?_, ?_, ?_⟩
    · rw [hcleared]
      refine List.filter_eq_nil_iff.mpr fun c hc => ?_
      rw [hpoll.noAllClear c hc]
      exact Bool.false_ne_true
    · intro he
      rw [hempty] at he
      cases he
    · intro hs
      have hreason := hafter.reason hs
      rw [upTo_concat, Moment.opensEpisode_poll] at hreason
      exact hreason

/-- **The all-clear is given for a drain exactly if the store is still empty at the next poll.**
Along every run of a built engine the next poll reports the drain if alarms were active at the last
poll, there was a moment without any since, and there are none now; then, and only then, it stops a
sounding alert and takes back what is shown on the desktop. Behind a poll an alert sounds only if a
poll of the current episode found that its desktop timeout has passed, or if it sounded already
when this episode began. -/
theorem cleared_iff_still_empty {settings : EngineSettings} {attached : Attached}
    (built : build settings attached = .ok e) (actions : List Action) (now : Instant)
    (fate : Call → CallOutcome) (order : ScanOrder) :
    (e.afterAll actions).attached = attached ∧
    Noticed (e.history actions) ⟨e.afterAll actions, .pollNotifications now fate order⟩ := by
  obtain ⟨-, hattached⟩ := afterAll_built e actions
  refine ⟨?_, (watchful built actions).noticed now fate order⟩
  rw [hattached, eq_of_build built]

/-- An alarm that is announced and then resolved. -/
def resolved : List Action :=
  [.ingest ⟨"PV1", "MAJOR", "HIHI", .ofSecond 0, false, false⟩,
    .pollNotifications (.ofSecond 3) fun _ => .done,
    .ingest ⟨"PV1", "OK", "NO_ALARM", .ofSecond 4, false, false⟩]

/-- The same, and another alarm comes in before the next poll. -/
def supplanted : List Action :=
  resolved ++ [.ingest ⟨"PV2", "MAJOR", "HIHI", .ofSecond 5, false, false⟩]

/-- The poll at the fifth second. -/
def fifth (actions : List Action) : Moment :=
  ⟨desk.afterAll actions, .pollNotifications (.ofSecond 5) fun _ => .done⟩

theorem cleared_of_resolved :
    build desk.settings desk.attached = .ok desk ∧
    drainedSincePoll (desk.history resolved) = true ∧
    (fifth resolved).reportsCleared = true ∧
    (fifth resolved).calls.filter Call.isAllClear = [.stopAlert, .clear] := by
  have built : build desk.settings desk.attached = .ok desk := by decide
  have h : Noticed (desk.history resolved) (fifth resolved) :=
    (cleared_iff_still_empty built resolved (.ofSecond 5) (fun _ => .done) .ascending).2
  have hcleared : (fifth resolved).reportsCleared = true := h.cleared.trans (by decide)
  refine ⟨built, by decide, hcleared, ?_⟩
  rw [h.sideEffects, hcleared]
  decide

/-- The drain goes unnoticed, and the alert of the first episode sounds on in the second one, which
is not old enough for it. -/
theorem drain_unnoticed_of_supplanted :
    build desk.settings desk.attached = .ok desk ∧
    drainedSincePoll (desk.history supplanted) = true ∧
    (fifth supplanted).reportsCleared = false ∧
    (fifth supplanted).calls = [] ∧
    sounding (desk.history supplanted ++ [fifth supplanted]) = true ∧
    elapsedInEpisode (desk.history supplanted ++ [fifth supplanted]) = false :=
  ⟨by decide, by decide, by decide, by decide, by decide, by decide⟩

end Engine

end AlarmEscalation
