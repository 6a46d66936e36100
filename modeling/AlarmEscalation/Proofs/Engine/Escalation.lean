import AlarmEscalation.Proofs.Engine.Polling
import AlarmEscalation.Proofs.Engine.Run

/-! # Every alarm is announced once, at the first poll at which it is due

A record carries one mark for each channel, and the store one time for all of them. `Marked` says
what the marks amount to: whether a batch of the channel has had the alarm since it was entered.
Events, polls and everything else that happens to an engine keep this so. -/
namespace AlarmEscalation

/-- The deadlines of all channels that announce alarms are times that exist. -/
def EngineSettings.Reaches (settings : EngineSettings) (t : Instant) : Prop :=
  (t.shift? (timeoutSpan settings.desktop)).isSome ∧ (t.shift? (timeoutSpan settings.email)).isSome

instance (settings : EngineSettings) : DecidablePred settings.Reaches := fun t =>
  inferInstanceAs (Decidable ((t.shift? (timeoutSpan settings.desktop)).isSome ∧
    (t.shift? (timeoutSpan settings.email)).isSome))

theorem AlarmStore.TimesIn.deadlines {s : AlarmStore} {P : Instant → Prop} {timeout : Span}
    (h : s.TimesIn P) (hP : ∀ t, P t → (t.shift? timeout).isSome) : s.Deadlines timeout :=
  ⟨fun t ht => hP t (h.oldest t ht), fun r hr => hP _ (h.records _ r (s.mem_snapshot_iff.mp hr))⟩

namespace Engine

namespace Action

/-- An event that has not been announced anywhere. -/
def Unannounced : Action → Prop
  | .ingest event => event.desktopNotified = false ∧ event.emailNotified = false
  | _ => True

/-- An event whose deadlines are times that exist, if it has any. -/
def InReach (settings : EngineSettings) : Action → Prop
  | .ingest event => event.isClearing = false → settings.Reaches event.triggerTime
  | _ => True

instance : DecidablePred Unannounced
  | .ingest event =>
    inferInstanceAs (Decidable (event.desktopNotified = false ∧ event.emailNotified = false))
  | .pollNotifications _ _ _ | .pollFlashlight _ _ | .start _ | .shutdown _ => isTrue trivial

instance (settings : EngineSettings) : DecidablePred (InReach settings)
  | .ingest event =>
    inferInstanceAs (Decidable (event.isClearing = false → settings.Reaches event.triggerTime))
  | .pollNotifications _ _ _ | .pollFlashlight _ _ | .start _ | .shutdown _ => isTrue trivial

end Action

/-! ## What a history tells of an alarm -/

namespace Moment

/-- An event enters the alarm as a new one. -/
def inserts (id : String) (m : Moment) : Bool :=
  match m.action with
  | .ingest event => event.id = id && (m.before.store.ingest event).1 = .inserted
  | _ => false

/-- What a poll for notifications handed out. -/
def tick? (m : Moment) : Option NotificationTick :=
  match m.step.found with
  | .ok (.polled tick) => some tick
  | _ => none

def shows (id : String) (m : Moment) : Bool :=
  m.tick?.any fun tick => tick.desktop.any fun r => r.id == id

def mails (id : String) (m : Moment) : Bool :=
  m.tick?.any fun tick => tick.email.any fun r => r.id == id

theorem tick?_of_not_poll {m : Moment} (h : m.action.isPoll = false) : m.tick? = none := by
  obtain ⟨e, a⟩ := m
  unfold tick?
  split
  · rename_i tick hfound
    cases answers hfound with
    | polled now fate order => cases h
  · rfl

theorem tick?_of_poll {e : Engine} {now : Instant} {order : ScanOrder} {tick : NotificationTick}
    (h : (e.pollNotifications now order).found = .ok tick) (fate : Call → CallOutcome) :
    tick? ⟨e, .pollNotifications now fate order⟩ = some tick := by
  simp [tick?, step, act, Step.reported, Step.map, h, Except.map]

theorem tick?_poll (e : Engine) (now : Instant) (fate : Call → CallOutcome) (order : ScanOrder) :
    tick? ⟨e, .pollNotifications now fate order⟩ =
      (e.pollNotifications now order).found.toOption := by
  simp only [tick?, step, act, Step.reported, Step.map]
  cases (e.pollNotifications now order).found <;> rfl

end Moment

/-- Whether a tick has had the alarm for the desktop since it was last entered. -/
def shown (id : String) : List Moment → Bool := since (Moment.inserts id) (Moment.shows id)

/-- Whether a tick has had the alarm for the mail since it was last entered. -/
def mailed (id : String) : List Moment → Bool := since (Moment.inserts id) (Moment.mails id)

theorem shown_concat (id : String) (past : List Moment) (m : Moment) :
    shown id (past ++ [m]) = (!m.inserts id && (shown id past || m.shows id)) :=
  since_concat _ _ past m

theorem mailed_concat (id : String) (past : List Moment) (m : Moment) :
    mailed id (past ++ [m]) = (!m.inserts id && (mailed id past || m.mails id)) :=
  since_concat _ _ past m

/-! ## The marks tell the history -/

/-- The marks of the records are what the history tells, and all their deadlines exist. -/
structure Marked (settings : EngineSettings) (past : List Moment) (e : Engine) : Prop where
  settings_eq : e.settings = settings
  times : e.store.TimesIn settings.Reaches
  marks : ∀ id r, e.store.get? id = some r →
    r.desktopNotified = shown id past ∧ r.emailNotified = mailed id past

variable {settings : EngineSettings} {past : List Moment} {e : Engine} {order : ScanOrder}

theorem Marked.deadlines (h : Marked settings past e) :
    e.store.Deadlines (timeoutSpan e.settings.desktop) ∧
      e.store.Deadlines (timeoutSpan e.settings.email) := by
  rw [h.settings_eq]
  exact ⟨h.times.deadlines fun _ ht => ht.1, h.times.deadlines fun _ ht => ht.2⟩

theorem Marked.ingest (h : Marked settings past e) {event : AlarmRecord}
    (hnew : event.desktopNotified = false ∧ event.emailNotified = false) {id : String}
    {r : AlarmRecord} (hr : (e.store.ingest event).2.get? id = some r) :
    r.desktopNotified = shown id (past ++ [⟨e, .ingest event⟩]) ∧
      r.emailNotified = mailed id (past ++ [⟨e, .ingest event⟩]) := by
  have htick : Moment.tick? ⟨e, .ingest event⟩ = none := rfl
  rw [shown_concat, mailed_concat, Moment.shows, Moment.mails, htick]
  rcases e.store.get?_ingest_cases event hr with ⟨hins, -, rfl⟩ | ⟨hins, r0, hr0, hkept⟩
  · -- a new alarm: nothing is told of it yet
    have : Moment.inserts id ⟨e, .ingest r⟩ = true := by simp [Moment.inserts, hins]
    simp [this, hnew]
  · have hno : Moment.inserts id ⟨e, .ingest event⟩ = false := by
      simpa [Moment.inserts, and_comm] using hins
    have hmarks := h.marks id r0 hr0
    rcases hkept with rfl | rfl <;> simp [hno, hmarks]

theorem Marked.poll (h : Marked settings past e) {now : Instant} (fate : Call → CallOutcome)
    {id : String} {r : AlarmRecord}
    (hr : (e.pollNotifications now order).engine.store.get? id = some r) :
    r.desktopNotified = shown id (past ++ [⟨e, .pollNotifications now fate order⟩]) ∧
      r.emailNotified = mailed id (past ++ [⟨e, .pollNotifications now fate order⟩]) := by
  obtain ⟨hdesktop, hemail⟩ := h.deadlines
  have hyields : (e.pollNotifications now order).Yields _ _ _ _ :=
    pollNotifications_yields hdesktop hemail
  have hno : Moment.inserts id ⟨e, .pollNotifications now fate order⟩ = false := rfl
  rw [get?_pollNotifications hdesktop hemail] at hr
  obtain ⟨r0, hr0, rfl⟩ := Option.map_eq_some_iff.mp hr
  obtain ⟨hshown, hmailed⟩ := h.marks id r0 hr0
  rw [shown_concat, mailed_concat, hno, Moment.shows, Moment.mails,
    Moment.tick?_of_poll hyields.found, Option.any_some, Option.any_some, any_id_desktopDue,
    any_id_emailDue, hr0, ← hshown, ← hmailed]
  -- a mark that is there already hides that the alarm is due
  constructor
  · cases hflag : r0.desktopNotified <;> simp [marking, AlarmRecord.marked, hflag]
  · cases hflag : r0.emailNotified <;> simp [marking, AlarmRecord.marked, hflag]

/-- Whatever is neither an event nor a poll for notifications has no part in it. -/
theorem Marked.aside (h : Marked settings past e) {a : Action}
    (hevent : ∀ event, a ≠ .ingest event) (hpoll : a.isPoll = false) {id : String}
    {r : AlarmRecord} (hr : e.store.get? id = some r) :
    r.desktopNotified = shown id (past ++ [⟨e, a⟩]) ∧
      r.emailNotified = mailed id (past ++ [⟨e, a⟩]) := by
  have htick : Moment.tick? ⟨e, a⟩ = none := Moment.tick?_of_not_poll hpoll
  have hno : Moment.inserts id ⟨e, a⟩ = false := by
    cases a with
    | ingest event => exact absurd rfl (hevent event)
    | _ => rfl
  rw [shown_concat, mailed_concat, hno, Moment.shows, Moment.mails, htick]
  simpa using h.marks id r hr

theorem Marked.step (h : Marked settings past e) {a : Action} (hnew : a.Unannounced)
    (hreach : a.InReach settings) : Marked settings (past ++ [⟨e, a⟩]) (e.act a).engine := by
  have hmoved := e.moved a
  refine ⟨hmoved.built.1.trans h.settings_eq, hmoved.timesIn ?_ h.times, ?_⟩
  · rintro event rfl
    exact hreach
  · intro id r hr
    generalize hafter : (e.act a).engine = after at hmoved hr
    cases hmoved with
    | ingested event => exact h.ingest hnew hr
    | polled now fate =>
      rw [← hafter] at hr
      exact h.poll fate hr
    | lit => exact h.aside (fun _ => Action.noConfusion) rfl hr
    | started => exact h.aside (fun _ => Action.noConfusion) rfl hr
    | stopped => exact h.aside (fun _ => Action.noConfusion) rfl hr

theorem marked {attached : Attached} (built : build settings attached = .ok e)
    {actions : List Action} (hnew : ∀ a ∈ actions, a.Unannounced)
    (hreach : ∀ a ∈ actions, a.InReach settings) :
    Marked settings (e.history actions) (e.afterAll actions) := by
  have base : Marked settings [] e := by
    rw [eq_of_build built]
    exact ⟨rfl, AlarmStore.timesIn_empty _, fun id r hr => by cases hr⟩
  exact run_induction base (fun _ _ a (ha : a.Unannounced ∧ a.InReach settings) h =>
    h.step ha.1 ha.2) fun a ha => ⟨hnew a ha, hreach a ha⟩

/-! ## What a poll hands out -/

/-- What a poll hands out, told by the history and not by the marks. -/
structure Escalates (past : List Moment) (e : Engine) (now : Instant) (order : ScanOrder)
    (tick : NotificationTick) : Prop where
  found : (e.pollNotifications now order).found = .ok tick
  desktop : tick.desktop =
    if e.desktopOpen now then
      (e.store.snapshot.filter fun r => e.isDue now r && !shown r.id past).map .markDesktop
    else []
  email : tick.email =
    if e.emailOpen now then
      (e.store.snapshot.filter fun r => !mailed r.id past).map (e.marking now)
    else []
  ascending : (tick.desktop.map AlarmRecord.id).Pairwise (· < ·) ∧
    (tick.email.map AlarmRecord.id).Pairwise (· < ·)
  nothing : e.store.isEmpty = true → tick.desktop = [] ∧ tick.email = []
  shows : (e.pollNotifications now order).calls.filterMap Call.shown? =
    if tick.desktop.isEmpty then [] else [tick.desktop]
  sends : (e.pollNotifications now order).calls.filterMap Call.sent? =
    if tick.email.isEmpty then [] else [tick.email]

theorem Marked.escalates (h : Marked settings past e) (now : Instant) (order : ScanOrder) :
    ∃ tick, Escalates past e now order tick := by
  obtain ⟨hdesktop, hemail⟩ := h.deadlines
  have hyields : (e.pollNotifications now order).Yields _ _ _ _ :=
    pollNotifications_yields hdesktop hemail
  have hmarks : ∀ r ∈ e.store.snapshot,
      r.desktopNotified = shown r.id past ∧ r.emailNotified = mailed r.id past := by
    intro r hr
    exact h.marks r.id r (e.store.mem_snapshot_iff.mp hr)
  refine ⟨_, hyields.found, ?_, ?_, ⟨?_, ?_⟩, ?_, hyields.shown, hyields.sent⟩
  · rw [desktopDue, List.filter_congr fun r hr => by rw [(hmarks r hr).1]]
  · rw [emailDue, List.filter_congr fun r hr => by rw [(hmarks r hr).2]]
  · dsimp only [desktopDue]
    split
    · exact AlarmStore.ascending_of_selected _ _ AlarmRecord.markDesktop_id
    · exact .nil
  · dsimp only [emailDue]
    split
    · exact AlarmStore.ascending_of_selected _ _ fun _ => rfl
    · exact .nil
  · intro hempty
    have hnil : e.store.snapshot = [] := List.isEmpty_iff.mp hempty
    simp [desktopDue, emailDue, hnil]

/-- **Every alarm is announced once, at the first poll at which it is due.** Along every run of a
built engine whose events are new and have deadlines that exist, the next poll, wherever the clock
stands and in whatever order it comes by the alarms, comes to its end. If the desktop may speak, it
hands out there the active alarms that are due and that no tick has had since they were entered; if
the mail may, the active alarms that no tick has had for the mail since then; and each batch that is
not empty makes one call. -/
theorem escalated_exactly_once {attached : Attached}
    (built : build settings attached = .ok e) (actions : List Action)
    (unannounced : ∀ a ∈ actions, a.Unannounced) (reach : ∀ a ∈ actions, a.InReach settings)
    (now : Instant) (order : ScanOrder) :
    (e.afterAll actions).settings = settings ∧ (e.afterAll actions).attached = attached ∧
    ∃ tick, Escalates (e.history actions) (e.afterAll actions) now order tick := by
  obtain ⟨hsettings, hattached⟩ := afterAll_built e actions
  have hmarked := marked built unannounced reach
  refine ⟨hmarked.settings_eq, ?_, hmarked.escalates now order⟩
  rw [hattached, eq_of_build built]

/-- Two alarms of one episode, the second of them too young at the first poll; the first is cleared
and raised again before the second poll. -/
def staggered : List Action :=
  [.ingest ⟨"PV1", "MAJOR", "HIHI", .ofSecond 100, false, false⟩,
    .ingest ⟨"PV2", "MINOR", "LOW", .ofSecond 104, false, false⟩,
    .pollNotifications (.ofSecond 106) fun _ => .done,
    .ingest ⟨"PV1", "OK", "NO_ALARM", .ofSecond 107, false, false⟩,
    .ingest ⟨"PV1", "MAJOR", "HIHI", .ofSecond 108, false, false⟩]

/-- A server with popups after five seconds and mails after twenty. -/
def station : Engine :=
  { settings := { role := .server, desktop := 5, email := 20 }
    attached := { desktop := true, mail := true } }

theorem escalated_exactly_once_staggered :
    (∀ a ∈ staggered, a.Unannounced) ∧ (∀ a ∈ staggered, a.InReach station.settings) ∧
    shown "PV1" (station.history (staggered.take 3)) = true ∧
    ∃ tick, Escalates (station.history staggered) (station.afterAll staggered)
        (.ofSecond 121) .ascending tick ∧
      tick.desktop.map AlarmRecord.id = ["PV1", "PV2"] ∧
      tick.email.map AlarmRecord.id = ["PV1", "PV2"] := by
  have unannounced : ∀ a ∈ staggered, a.Unannounced := by decide
  have reach : ∀ a ∈ staggered, a.InReach station.settings := by decide
  have built : build station.settings station.attached = .ok station := by decide
  obtain ⟨-, -, tick, h⟩ :=
    escalated_exactly_once built staggered unannounced reach (.ofSecond 121) .ascending
  refine ⟨unannounced, reach, by decide, tick, h, ?_, ?_⟩
  · rw [h.desktop]
    decide
  · rw [h.email]
    decide

end Engine

end AlarmEscalation
