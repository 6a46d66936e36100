import AlarmEscalation.Proofs.Engine.AllClear
import AlarmEscalation.Proofs.Turns

/-! # The alert and the all-clear, poll by poll

Polls that find alarms one after the other make a block; it ends at the first poll that finds none,
and this is the poll that gives the all-clear. What an engine remembers of the alert is told by the
block that is not over: the alert was started in it, and for that the desktop timeout had passed at
one of its polls. So each block starts the alert at most once, and its end stops it. -/
namespace AlarmEscalation

/-- What a call asks of the sustained alert. -/
def Call.rung? : Call → Option Bool
  | .startAlert => some true
  | .stopAlert => some false
  | .show _ | .clear | .send _ | .switchLight _ => none

namespace Engine

variable {e : Engine} {now : Instant} {order : ScanOrder}

/-! ## One poll -/

theorem rings_of_announce (batch : List AlarmRecord) :
    (if batch.isEmpty then [] else [Call.show batch]).filterMap Call.rung? = [] ∧
      (if batch.isEmpty then [] else [Call.send batch]).filterMap Call.rung? = [] := by
  cases batch.isEmpty <;> exact ⟨rfl, rfl⟩

theorem rings_of_alertCalls (e : Engine) :
    e.alertCalls.filterMap Call.rung? =
      if e.attached.alert && !e.alertActive then [true] else [] := by
  unfold alertCalls
  split <;> rfl

theorem EmailPoll.rings_eq_nil {s : Step (List AlarmRecord)} (h : e.EmailPoll now s) :
    s.calls.filterMap Call.rung? = [] := by
  cases h with
  | idle | outOfRange => rfl
  | handedOut => exact (rings_of_announce _).2

/-- What a poll that finds alarms asks of the alert, when the desktop's deadlines are times that
exist. What the mail comes to is of no account. -/
theorem rings_of_alarms (hne : e.store.isEmpty = false)
    (h : e.store.Deadlines (timeoutSpan e.settings.desktop)) (now : Instant)
    (order : ScanOrder) :
    (e.pollNotifications now order).calls.filterMap Call.rung? =
      if e.lasted e.settings.desktop now && e.attached.alert && !e.alertActive then [true]
      else [] := by
  have hseen : ({ e with alarmSeen := true } : Engine).store.isEmpty = false := hne
  obtain ⟨batch, hfound⟩ :
      ∃ batch, (pollDesktop { e with alarmSeen := true } now order).found = .ok batch :=
    ⟨_, (pollDesktop_yields hseen h).found⟩
  have hcalls := ((desktopPoll hseen now order).completed hfound).1
  have hkept : (pollDesktop { e with alarmSeen := true } now order).engine.store.isEmpty = false :=
    (pollDesktop_within (.refl _) now order).engine.isEmpty.trans hne
  unfold pollNotifications pollActive
  rw [if_neg (by simp [hne])]
  generalize pollDesktop { e with alarmSeen := true } now order = desktop at hfound hcalls hkept
  have hmail := (emailPoll hkept now).rings_eq_nil
  have hshown : desktop.calls.filterMap Call.rung? =
      if e.lasted e.settings.desktop now then e.alertCalls.filterMap Call.rung? else [] := by
    rw [hcalls, List.filterMap_append, (rings_of_announce batch).1, List.nil_append]
    change (if e.lasted e.settings.desktop now then e.alertCalls else []).filterMap Call.rung? = _
    split <;> rfl
  have hboth : (desktop.andThen fun e desktop => (e.pollEmail now).andThen fun e email =>
      Step.done e ({ desktop, email } : NotificationTick)).calls =
        desktop.calls ++ (desktop.engine.pollEmail now).calls := by
    cases hmails : (desktop.engine.pollEmail now).found <;>
      simp [Step.andThen, hfound, hmails, Step.done]
  rw [hboth, List.filterMap_append, hshown, hmail, List.append_nil, rings_of_alertCalls]
  cases e.lasted e.settings.desktop now <;> simp

/-- What a poll that finds no alarms asks of the alert, and how often it takes popups back. -/
theorem rings_of_empty (hempty : e.store.isEmpty = true) (now : Instant) (order : ScanOrder) :
    (e.pollNotifications now order).calls.filterMap Call.rung? =
        (if e.alarmSeen && e.alertActive && e.attached.alert then [false] else []) ∧
      (e.pollNotifications now order).calls.count .clear =
        if e.alarmSeen && e.attached.desktop then 1 else 0 := by
  have hpoll := e.notificationPoll now order
  generalize e.pollNotifications now order = s at hpoll
  cases hpoll with
  | quiet _ hseen => simp [Step.done, hseen]
  | allClear _ hseen =>
    simp only [Engine.allClear, hseen]
    cases e.alertActive <;> cases e.attached.alert <;> cases e.attached.desktop <;> decide
  | desktopBroken hne | active hne =>
    rw [hempty] at hne
    cases hne

/-! ## One moment -/

namespace Moment

/-- What the alert is asked for at a moment, in this order. -/
def rings (m : Moment) : List Bool := m.calls.filterMap Call.rung?

/-- A poll for notifications finds no alarms. -/
def findsNone (m : Moment) : Bool := m.polls && m.before.store.isEmpty

theorem findsNone_of_findsElapsed {m : Moment} (h : m.findsElapsed = true) :
    m.findsNone = false := by
  unfold findsElapsed at h
  split at h
  · simp_all [findsNone]
  · cases h

theorem startsAlert_eq (m : Moment) : m.startsAlert = decide (true ∈ m.rings) := by
  rw [startsAlert, rings, decide_eq_decide, List.mem_filterMap]
  constructor
  · exact fun hc => ⟨_, hc, rfl⟩
  · rintro ⟨call, hc, hon⟩
    cases call with
    | startAlert => exact hc
    | _ => cases hon

/-- What a moment does to the alert, by what the engine remembers of it. -/
structure Rung (m : Moment) : Prop where
  rings : m.rings =
    if m.findsElapsed && m.before.attached.alert && !m.before.alertActive then [true]
    else if m.findsNone && m.before.alertActive then [false]
    else []
  alertActive : m.after.alertActive =
    ((m.before.alertActive || m.before.attached.alert && m.findsElapsed) && !m.findsNone)
  cleared : m.reportsCleared = (m.findsNone && m.before.alarmSeen)
  clears : m.calls.count .clear = if m.reportsCleared && m.before.attached.desktop then 1 else 0

namespace Rung

variable {m : Moment}

theorem on_iff (h : m.Rung) : true ∈ m.rings ↔
    m.findsElapsed = true ∧ m.before.attached.alert = true ∧ m.before.alertActive = false := by
  rw [h.rings]
  split
  · simp_all
  · split <;> simp_all

theorem off_iff (h : m.Rung) :
    false ∈ m.rings ↔ m.findsNone = true ∧ m.before.alertActive = true := by
  rw [h.rings]
  split
  · simp_all
  · split <;> simp_all

end Rung

variable {past : List Moment}

theorem rung_of_empty (h : Watchful past e) (hempty : e.store.isEmpty = true) (now : Instant)
    (fate : Call → CallOutcome) (order : ScanOrder) :
    Rung ⟨e, .pollNotifications now fate order⟩ := by
  have hpoll := (e.notificationPoll now order).foundEmpty hempty
  obtain ⟨hrings, hclears⟩ := rings_of_empty hempty now order
  have hcleared : reportsCleared ⟨e, .pollNotifications now fate order⟩ = e.alarmSeen := by
    rw [reportsCleared, tick?_poll, hpoll.found]
    rfl
  -- an alert that sounds has been started at a poll that found alarms
  have hlawful := h.alert
  refine ⟨hrings.trans ?_, hpoll.alertActive.trans ?_, ?_, hclears.trans ?_⟩
  · cases hactive : e.alertActive with
    | false => simp [findsElapsed, hempty]
    | true => simp [findsElapsed, findsNone, polls, hempty, hlawful hactive]
  · cases hactive : e.alertActive with
    | false => simp [findsElapsed, hempty]
    | true => simp [findsElapsed, findsNone, polls, hempty, hlawful hactive]
  · simp [hcleared, findsNone, polls, hempty]
  · rw [hcleared]

theorem rung_of_alarms (hne : e.store.isEmpty = false)
    (hdeadlines : e.store.Deadlines (timeoutSpan e.settings.desktop)) (now : Instant)
    (fate : Call → CallOutcome) (order : ScanOrder) :
    Rung ⟨e, .pollNotifications now fate order⟩ := by
  have hpoll := (e.notificationPoll now order).foundAlarms hne
  have hrings : rings ⟨e, .pollNotifications now fate order⟩ = _ :=
    rings_of_alarms hne hdeadlines now order
  have hstarts := startsAlert_eq ⟨e, .pollNotifications now fate order⟩
  rw [hrings] at hstarts
  have hcleared : reportsCleared ⟨e, .pollNotifications now fate order⟩ = false := by
    rw [reportsCleared, tick?_poll]
    cases hfound : (e.pollNotifications now order).found with
    | error fault => rfl
    | ok tick => exact hpoll.found tick hfound
  have hclears : (e.pollNotifications now order).calls.count .clear = 0 := by
    refine List.count_eq_zero.mpr fun hc => ?_
    cases hpoll.noAllClear _ hc
  refine ⟨?_, hpoll.alertActive.trans ?_, ?_, ?_⟩
  · rw [hrings]
    simp [findsElapsed, findsNone, polls, hne]
  · change (e.alertActive || startsAlert ⟨e, .pollNotifications now fate order⟩) = _
    rw [hstarts]
    cases e.alertActive <;> simp [findsElapsed, findsNone, polls, hne, Bool.and_comm]
  · simp [hcleared, findsNone, polls, hne]
  · rw [hcleared]
    exact hclears

theorem rung_of_not_poll {m : Moment} (h : m.action.isPoll = false) : m.Rung := by
  have hnone : m.findsNone = false := by simp [findsNone, polls_eq, h]
  have helapsed : m.findsElapsed = false := by
    unfold findsElapsed
    split
    · rename_i hpoll
      rw [hpoll] at h
      cases h
    · rfl
  have hcleared : m.reportsCleared = false := by simp [reportsCleared, tick?_of_not_poll h]
  have hrelay : ∀ call ∈ m.calls, call.channel = .relay := fun _ => relay_of_not_poll h
  refine ⟨?_, ?_, by simp [hcleared, hnone], ?_⟩
  · rw [helapsed, hnone, rings]
    refine List.filterMap_eq_nil_iff.mpr fun call hcall => ?_
    cases call with
    | startAlert | stopAlert => cases hrelay _ hcall
    | _ => rfl
  · rw [helapsed, hnone]
    have hsame : m.after.alertActive = m.before.alertActive := (m.before.flags_of_not_poll h).2
    simpa using hsame
  · rw [hcleared]
    refine List.count_eq_zero.mpr fun hcall => ?_
    cases hrelay _ hcall

theorem rung (h : Watchful past e)
    (hdeadlines : e.store.Deadlines (timeoutSpan e.settings.desktop)) (a : Action) :
    Rung ⟨e, a⟩ := by
  cases hpoll : a.isPoll with
  | true =>
    obtain ⟨now, fate, order, rfl⟩ := Action.eq_of_isPoll hpoll
    cases hempty : e.store.isEmpty with
    | true => exact rung_of_empty h hempty now fate order
    | false => exact rung_of_alarms hempty hdeadlines now fate order
  | false => exact rung_of_not_poll hpoll

end Moment

/-- What the alert is asked for at several moments. -/
def ringings (moments : List Moment) : List Bool := moments.flatMap Moment.rings

theorem ringings_concat (past : List Moment) (m : Moment) :
    ringings (past ++ [m]) = ringings past ++ m.rings := by
  rw [ringings, List.flatMap_append, List.flatMap_singleton, ← ringings]

/-! ## A whole run -/

/-- Whether `q` was so at a poll of the block that is not over: behind the last poll that found no
alarms. -/
def inBlock (q : Moment → Bool) : List Moment → Bool := since Moment.findsNone q

/-- What an engine remembers of the alert, against the block that is not over. -/
structure Ringing (past : List Moment) (e : Engine) : Prop where
  elapsed : e.alertActive = (e.attached.alert && inBlock Moment.findsElapsed past)
  started : e.alertActive = inBlock Moment.startsAlert past
  turns : TakeTurns (ringings past)
  last : (ringings past).getLast?.getD false = e.alertActive

theorem Ringing.step {past : List Moment} {m : Moment} (h : Ringing past m.before)
    (hrung : m.Rung) : Ringing (past ++ [m]) m.after := by
  have hattached : m.after.attached = m.before.attached := (m.before.moved m.action).built.2
  have hconcat := ringings_concat past m
  have hlast := h.last
  refine ⟨?_, ?_, ?_, ?_⟩
  · rw [hattached, hrung.alertActive, inBlock, since_concat, ← inBlock, h.elapsed]
    cases m.before.attached.alert <;> simp [Bool.and_comm]
  · -- what is started while the alert sounds already adds nothing
    have hstarts : (m.before.alertActive || m.startsAlert) =
        (m.before.alertActive || m.before.attached.alert && m.findsElapsed) := by
      rw [Moment.startsAlert_eq, Bool.eq_iff_iff, Bool.or_eq_true, decide_eq_true_iff, hrung.on_iff]
      cases m.before.alertActive <;> simp [and_comm]
    rw [hrung.alertActive, inBlock, since_concat, ← inBlock, ← h.started, hstarts, Bool.and_comm]
  · rw [hconcat, hrung.rings]
    split
    · rename_i hstart
      exact h.turns.concat (by simp_all)
    · split
      · rename_i hstop
        exact h.turns.concat (by simp_all)
      · rw [List.append_nil]
        exact h.turns
  · rw [hconcat, hrung.rings, hrung.alertActive]
    split
    · rename_i hstart
      have hnone : m.findsNone = false := Moment.findsNone_of_findsElapsed (by simp_all)
      simp_all
    · split
      · rename_i hstop
        simp_all
      · rename_i hstart hstop
        rw [List.append_nil, h.last]
        cases hactive : m.before.alertActive with
        | true => simp_all
        | false =>
          have hquiet : (m.before.attached.alert && m.findsElapsed) = false := by
            rw [Bool.and_comm]
            simpa [hactive] using hstart
          rw [hquiet]
          rfl

/-- An event whose deadline for a timeout is a time that exists, if it has any. -/
def Action.HasDeadline (timeout : UInt32) : Action → Prop
  | .ingest event =>
    event.isClearing = false → (event.triggerTime.shift? (timeoutSpan timeout)).isSome
  | _ => True

instance (timeout : UInt32) : DecidablePred (Action.HasDeadline timeout)
  | .ingest event => inferInstanceAs (Decidable (event.isClearing = false →
      (event.triggerTime.shift? (timeoutSpan timeout)).isSome))
  | .pollNotifications _ _ _ | .pollFlashlight _ _ | .start _ | .shutdown _ => isTrue trivial

section Built
variable {settings : EngineSettings} {attached : Attached}

theorem deadlines_afterAll (built : build settings attached = .ok e) {timeout : UInt32}
    {actions : List Action} (deadlines : ∀ a ∈ actions, a.HasDeadline timeout) :
    (e.afterAll actions).store.Deadlines (timeoutSpan timeout) := by
  have base : e.store.TimesIn fun t => (t.shift? (timeoutSpan timeout)).isSome := by
    rw [eq_of_build built]
    exact AlarmStore.timesIn_empty _
  have htimes : (e.afterAll actions).store.TimesIn fun t =>
      (t.shift? (timeoutSpan timeout)).isSome :=
    run_induction (J := fun _ e => e.store.TimesIn _) base (fun _ e a ha h =>
      (e.moved a).timesIn (fun event hevent => by subst hevent; exact ha) h) deadlines
  exact htimes.deadlines fun _ ht => ht

theorem ringing (built : build settings attached = .ok e) {actions : List Action}
    (deadlines : ∀ a ∈ actions, a.HasDeadline settings.desktop) :
    Ringing (e.history actions) (e.afterAll actions) := by
  induction actions using List.reverseRecOn with
  | nil =>
    rw [eq_of_build built]
    exact ⟨by simp [inBlock, since, history, afterAll], rfl,
      ⟨.nil, by simp [ringings, history]⟩, rfl⟩
  | append_singleton actions a ih =>
    have hpast : ∀ a ∈ actions, a.HasDeadline settings.desktop :=
      fun b hb => deadlines b (by simp [hb])
    have hdeadlines := deadlines_afterAll built hpast
    rw [← (afterAll_of_build built actions).1] at hdeadlines
    rw [history_concat, afterAll_concat]
    exact (ih hpast).step (Moment.rung (watchful built actions) hdeadlines a)

/-- How an engine with these collaborators treats its alert and its desktop when `m` comes next
behind `past`. -/
structure Alerts (attached : Attached) (past : List Moment) (m : Moment) : Prop where
  cleared : m.reportsCleared = true ↔
    m.findsNone = true ∧ ∃ poll, lastPoll? past = some poll ∧ poll.before.store.isEmpty = false
  clears : m.calls.count .clear = if m.reportsCleared && attached.desktop then 1 else 0
  turns : TakeTurns (ringings (past ++ [m]))
  start : true ∈ m.rings ↔ attached.alert = true ∧ m.findsElapsed = true ∧
    inBlock Moment.findsElapsed past = false
  stop : false ∈ m.rings ↔ m.reportsCleared = true ∧ inBlock Moment.startsAlert past = true

/-- **The alert is started once in a block of polls that find alarms, and stopped at its end.**
Along every run of a built engine whose events have desktop deadlines that exist, whatever becomes
of the calls: the poll that finds no alarms right behind one that found some reports the all-clear,
and then, and only then, popups are taken back. The alert is asked to start and to stop in turn; to
start at the first poll of a block at which the desktop timeout has passed, and to stop at the
all-clear that ends a block in which it was started. -/
theorem alert_follows_blocks (built : build settings attached = .ok e) {actions : List Action}
    (deadlines : ∀ a ∈ actions, a.HasDeadline settings.desktop) (a : Action) :
    Alerts attached (e.history actions) ⟨e.afterAll actions, a⟩ := by
  have hwatchful := watchful built actions
  have hringing := ringing built deadlines
  have hdeadlines := deadlines_afterAll built deadlines
  obtain ⟨hsettings, hattached⟩ := afterAll_of_build built actions
  rw [← hsettings] at hdeadlines
  have hrung := Moment.rung hwatchful hdeadlines a
  -- an alert that sounds was started at a poll of this block, so its end is an all-clear
  have hseen := hwatchful.alert
  generalize e.afterAll actions = after at *
  subst hattached
  refine ⟨?_, hrung.clears, (hringing.step hrung).turns, ?_, ?_⟩
  · rw [hrung.cleared, hwatchful.alarmSeen, Bool.and_eq_true_iff, Option.any_eq_true]
    simp
  · rw [hrung.on_iff, hringing.elapsed]
    cases after.attached.alert <;> simp
  · rw [hrung.off_iff, hrung.cleared, ← hringing.started]
    cases hactive : after.alertActive with
    | false => simp
    | true => simp [(hseen hactive).1]

end Built

/-- An alarm that comes of age once and again, as the clock is moved back, and is then resolved;
behind it another one. -/
def relapsed : List Action :=
  [.ingest ⟨"PV1", "MAJOR", "HIHI", .ofSecond 0, false, false⟩,
    .pollNotifications (.ofSecond 3) fun _ => .done,
    .pollNotifications (.ofSecond 2) fun _ => .done,
    .pollNotifications (.ofSecond 4) fun _ => .done,
    .ingest ⟨"PV1", "OK", "NO_ALARM", .ofSecond 5, false, false⟩,
    .pollNotifications (.ofSecond 6) fun _ => .done,
    .ingest ⟨"PV2", "MAJOR", "HIHI", .ofSecond 6, false, false⟩]

/-- The poll at the ninth second. -/
def relapse : Moment := ⟨desk.afterAll relapsed, .pollNotifications (.ofSecond 9) fun _ => .done⟩

/-- The alert is started in each of the two blocks, and once. -/
theorem alert_follows_blocks_relapsed :
    (∀ a ∈ relapsed, a.HasDeadline desk.settings.desktop) ∧
    ringings (desk.history relapsed) = [true, false] ∧
    Alerts desk.attached (desk.history relapsed) relapse ∧ true ∈ relapse.rings := by
  have built : build desk.settings desk.attached = .ok desk := by decide
  have deadlines : ∀ a ∈ relapsed, a.HasDeadline desk.settings.desktop := by decide
  have h : Alerts desk.attached (desk.history relapsed) relapse :=
    alert_follows_blocks built deadlines (.pollNotifications (.ofSecond 9) fun _ => .done)
  exact ⟨deadlines, by decide, h, h.start.mpr ⟨rfl, by decide, by decide⟩⟩

end Engine

end AlarmEscalation
