import AlarmEscalation.Proofs.Engine.Dispatch
import AlarmEscalation.Proofs.Engine.Escalation
import AlarmEscalation.Proofs.Store.Seen

/-! # Channels are independent of each other

`Engine.only` takes from an engine whatever belongs to other channels: their timeouts and
collaborators, their marks, and what is remembered of them. What a channel sees of a run is just
what happens to the engine that has this channel alone; so a channel cannot tell two engines apart
that agree on it. -/
namespace AlarmEscalation

/-! ## What belongs to a channel -/

namespace EngineSettings

def timeout (settings : EngineSettings) : Channel → UInt32
  | .desktop | .alert => settings.desktop
  | .mail => settings.email
  | .relay => settings.laboratory

/-- Settings with the timeout of one channel alone. -/
def sole (role : Role) (timeout : UInt32) : Channel → EngineSettings
  | .desktop | .alert => { role, desktop := timeout }
  | .mail => { role, email := timeout }
  | .relay => { role, laboratory := timeout }

theorem Reaches.sole {settings : EngineSettings} {t : Instant} (h : settings.Reaches t)
    (c : Channel) : (sole settings.role (settings.timeout c) c).Reaches t := by
  have hzero : (t.shift? (timeoutSpan 0)).isSome := Option.isSome_of_eq_some t.shift?_zero
  cases c with
  | desktop | alert => exact ⟨h.1, hzero⟩
  | mail => exact ⟨hzero, h.2⟩
  | relay => exact ⟨hzero, hzero⟩

end EngineSettings

namespace Attached

def has (attached : Attached) : Channel → Bool
  | .desktop => attached.desktop
  | .mail => attached.mail
  | .relay => attached.relay
  | .alert => attached.alert

/-- One collaborator at most. -/
def sole (has : Bool) : Channel → Attached
  | .desktop => { desktop := has }
  | .mail => { mail := has }
  | .relay => { relay := has }
  | .alert => { alert := has }

end Attached

theorem AlarmStore.TimesIn.seenBy {P : Instant → Prop} {s : AlarmStore} (h : s.TimesIn P)
    (c : Channel) : (s.seenBy c).TimesIn P := by
  refine ⟨fun id r hr => ?_, h.oldest⟩
  rw [s.get?_seenBy c id] at hr
  obtain ⟨r0, hr0, rfl⟩ := Option.map_eq_some_iff.mp hr
  exact h.records id r0 hr0

/-- A call without the marks of other channels. -/
def Call.seenBy (c : Channel) : Call → Call
  | .show batch => .show (batch.map (·.seenBy c))
  | .send batch => .send (batch.map (·.seenBy c))
  | call => call

/-- The calls of one channel, without the marks of others. -/
def callsOn (c : Channel) (calls : List Call) : List Call :=
  (calls.filter fun call => call.channel = c).map (Call.seenBy c)

theorem callsOn_append (c : Channel) (first second : List Call) :
    callsOn c (first ++ second) = callsOn c first ++ callsOn c second := by
  simp [callsOn]

namespace Engine

/-- The engine that has one channel alone, in the state that this channel knows. -/
def only (c : Channel) (e : Engine) : Engine where
  settings := .sole e.settings.role (e.settings.timeout c) c
  attached := .sole (e.attached.has c) c
  store := e.store.seenBy c
  published := e.published
  publications := e.publications
  alarmSeen := decide (c ≠ .relay) && e.alarmSeen
  alertActive := decide (c = .alert) && e.alertActive
  flashlightOn := decide (c = .relay) && e.flashlightOn

def NotificationTick.seenBy (c : Channel) (tick : NotificationTick) : NotificationTick where
  cleared := tick.cleared
  desktop := if c = .desktop then tick.desktop.map (·.seenBy c) else []
  email := if c = .mail then tick.email.map (·.seenBy c) else []

def Answer.seenBy (c : Channel) : Answer → Answer
  | .polled tick => .polled (tick.seenBy c)
  | answer => answer

/-- An action as a channel has it: an event without the marks of other channels, or a poll of its
own, whatever became of the calls and whatever order its scan had. All else is none of its
business. -/
def Action.heardBy? (c : Channel) : Action → Option Action
  | .ingest event => some (.ingest (event.seenBy c))
  | .pollNotifications now _ _ =>
    if c = .relay then none else some (.pollNotifications now fun _ => .done)
  | .pollFlashlight now _ =>
    if c = .relay then some (.pollFlashlight now fun _ => .done) else none
  | .start _ | .shutdown _ => none

/-- What there is to see of a moment: the answer, the calls and the store behind it. -/
structure Sighting where
  answer : Except Fault Answer
  calls : List Call
  store : AlarmStore

def Moment.sighting (m : Moment) : Sighting := ⟨m.step.found, m.calls, m.after.store⟩

/-- What a channel sees of it: its own part of the answer, its own calls and its own marks. -/
def Sighting.seenBy (c : Channel) (s : Sighting) : Sighting where
  answer := s.answer.map (Answer.seenBy c)
  calls := callsOn c s.calls
  store := s.store.seenBy c

/-- What a channel sees of a moment that it has a part in. -/
def Moment.seenBy? (c : Channel) (m : Moment) : Option Sighting :=
  (m.action.heardBy? c).map fun _ => m.sighting.seenBy c

/-- The step `alone` of the engine that has one channel alone is what this channel sees of `s`. -/
structure Step.Mirrors {α : Type} (c : Channel) (part : α → α) (s alone : Step α) : Prop where
  engine : alone.engine = s.engine.only c
  found : alone.found = s.found.map part
  calls : alone.calls = callsOn c s.calls

theorem Step.Mirrors.sighting {e : Engine} {c : Channel} {a heard : Action}
    (h : (e.act a).Mirrors c (Answer.seenBy c) ((e.only c).act heard)) :
    (Moment.sighting ⟨e, a⟩).seenBy c = Moment.sighting ⟨e.only c, heard⟩ := by
  have hstore := congrArg Engine.store h.engine
  simp only [Moment.sighting, Moment.step, Moment.calls, Moment.after, Sighting.seenBy, h.found,
    h.calls, hstore]
  rfl

theorem Step.Mirrors.answered {α : Type} {c : Channel} {part : α → α} {s alone : Step α}
    (h : s.Mirrors c part alone) {answer : α → Answer}
    (hpart : ∀ a, answer (part a) = (answer a).seenBy c) (fate fate' : Call → CallOutcome) :
    ((s.map answer).reported fate).Mirrors c (Answer.seenBy c)
      ((alone.map answer).reported fate') := by
  refine ⟨h.engine, ?_, h.calls⟩
  simp only [Step.reported, Step.map, h.found]
  cases s.found with
  | error fault => rfl
  | ok a => exact congrArg Except.ok (hpart a)

/-! ## One poll for notifications -/

variable {e : Engine} {c : Channel} {now : Instant}

theorem lasted_only (e : Engine) (c : Channel) (timeout : UInt32) (now : Instant) :
    (e.only c).lasted timeout now = e.lasted timeout now := rfl

theorem deadlines_only (h : e.store.TimesIn e.settings.Reaches) (c : Channel) :
    (e.only c).store.Deadlines (timeoutSpan (e.only c).settings.desktop) ∧
      (e.only c).store.Deadlines (timeoutSpan (e.only c).settings.email) :=
  ⟨(h.seenBy c).deadlines fun _ ht => (ht.sole c).1,
    (h.seenBy c).deadlines fun _ ht => (ht.sole c).2⟩

theorem open_only (e : Engine) (c : Channel) (now : Instant) :
    (e.only c).desktopOpen now = (decide (c = .desktop) && e.desktopOpen now) ∧
      (e.only c).emailOpen now = (decide (c = .mail) && e.emailOpen now) := by
  simp only [desktopOpen, emailOpen, lasted_only]
  cases c <;> simp [only, EngineSettings.sole, EngineSettings.timeout, Attached.sole, Attached.has]

theorem isDue_only (e : Engine) (now : Instant) (r : AlarmRecord) :
    (e.only .desktop).isDue now (r.seenBy .desktop) = e.isDue now r := rfl

theorem marking_only (e : Engine) (c : Channel) (now : Instant) (r : AlarmRecord) :
    (e.only c).marking now (r.seenBy c) = (e.marking now r).seenBy c := by
  obtain ⟨hdesktop, hemail⟩ := e.open_only c now
  rw [marking, marking, AlarmRecord.seenBy_marked, hdesktop, hemail]
  by_cases hc : c = .desktop
  · subst hc
    simp [isDue_only]
  · simp [hc]

theorem desktopDue_only (e : Engine) (c : Channel) (now : Instant) :
    (e.only c).desktopDue now =
      if c = .desktop then (e.desktopDue now).map (·.seenBy c) else [] := by
  rw [desktopDue, (e.open_only c now).1]
  by_cases hc : c = .desktop
  · subst hc
    cases hopen : e.desktopOpen now with
    | false => simp [desktopDue, hopen]
    | true =>
      simp only [desktopDue, hopen, if_pos, Bool.and_true, decide_true]
      rw [show (e.only .desktop).store.snapshot = e.store.snapshot.map (·.seenBy .desktop) from rfl,
        List.filter_map, List.map_map, List.map_map]
      rfl
  · simp [hc]

theorem emailDue_only (e : Engine) (c : Channel) (now : Instant) :
    (e.only c).emailDue now = if c = .mail then (e.emailDue now).map (·.seenBy c) else [] := by
  rw [emailDue, (e.open_only c now).2]
  by_cases hc : c = .mail
  · subst hc
    cases hopen : e.emailOpen now with
    | false => simp [emailDue, hopen]
    | true =>
      simp only [emailDue, hopen, if_pos, Bool.and_true, decide_true]
      rw [show (e.only .mail).store.snapshot = e.store.snapshot.map (·.seenBy .mail) from rfl,
        List.filter_map, List.map_map, List.map_map]
      refine List.map_congr_left fun r _ => ?_
      exact e.marking_only .mail now r
  · simp [hc]

theorem showCalls_only (c : Channel) (tick : NotificationTick) :
    (if (tick.seenBy c).desktop.isEmpty then [] else [.show (tick.seenBy c).desktop]) =
      callsOn c (if tick.desktop.isEmpty then [] else [.show tick.desktop]) := by
  cases hbatch : tick.desktop.isEmpty <;> cases c <;>
    simp [NotificationTick.seenBy, callsOn, Call.channel, Call.seenBy, hbatch]

theorem sendCalls_only (c : Channel) (tick : NotificationTick) :
    (if (tick.seenBy c).email.isEmpty then [] else [.send (tick.seenBy c).email]) =
      callsOn c (if tick.email.isEmpty then [] else [.send tick.email]) := by
  cases hbatch : tick.email.isEmpty <;> cases c <;>
    simp [NotificationTick.seenBy, callsOn, Call.channel, Call.seenBy, hbatch]

theorem alertCalls_only (e : Engine) (c : Channel) :
    (e.only c).alertCalls = callsOn c e.alertCalls := by
  unfold alertCalls
  cases c <;> cases hcalls : e.attached.alert && !e.alertActive <;>
    simp_all [only, Attached.sole, Attached.has, callsOn, Call.channel, Call.seenBy]

theorem startCalls_only (e : Engine) (c : Channel) (now : Instant) :
    (if (e.only c).lasted (e.only c).settings.desktop now then (e.only c).alertCalls else []) =
      callsOn c (if e.lasted e.settings.desktop now then e.alertCalls else []) := by
  have hcalls := e.alertCalls_only c
  rw [hcalls, apply_ite (callsOn c)]
  cases c with
  | desktop | alert => rfl
  | mail | relay =>
    -- without an alert nothing is started, at whatever time
    have hnone : callsOn _ e.alertCalls = [] :=
      hcalls.symm.trans (by simp [alertCalls, only, Attached.sole])
    rw [hnone]
    simp [callsOn]

theorem allClearCalls_only (e : Engine) (c : Channel) :
    (e.only c).allClear.calls = callsOn c e.allClear.calls := by
  simp only [allClear, callsOn_append]
  cases c <;> cases halert : e.alertActive && e.attached.alert <;>
    cases hdesktop : e.attached.desktop <;>
    simp_all [only, Attached.sole, Attached.has, callsOn, Call.channel, Call.seenBy]

/-- The calls of a poll are those of each channel's own poll. -/
theorem tickCalls_only (e : Engine) (hc : c ≠ .relay) (now : Instant) (tick : NotificationTick) :
    (e.only c).tickCalls now (tick.seenBy c) = callsOn c (e.tickCalls now tick) := by
  have hempty : (e.only c).store.isEmpty = e.store.isEmpty := e.store.isEmpty_seenBy c
  have hseen : (e.only c).alarmSeen = e.alarmSeen := by simp [only, hc]
  unfold tickCalls
  rw [hempty, hseen]
  split
  · split
    · exact e.allClearCalls_only c
    · rfl
  · rw [callsOn_append, callsOn_append, ← showCalls_only, ← sendCalls_only, ← startCalls_only]

theorem alertAfter_only (e : Engine) (hc : c ≠ .relay) (now : Instant) :
    (e.only c).alertAfter now = (decide (c = .alert) && e.alertAfter now) := by
  have hempty : (e.only c).store.isEmpty = e.store.isEmpty := e.store.isEmpty_seenBy c
  have hseen : (e.only c).alarmSeen = e.alarmSeen := by simp [only, hc]
  unfold alertAfter
  rw [hempty, hseen, lasted_only]
  cases c <;> simp [only, EngineSettings.sole, EngineSettings.timeout, Attached.sole, Attached.has]

theorem Polled.only_eq {after alone : Engine} (h : Polled e after)
    (halone : Polled (e.only c) alone) (hstore : alone.store = after.store.seenBy c)
    (hseen : alone.alarmSeen = (decide (c ≠ .relay) && after.alarmSeen))
    (halert : alone.alertActive = (decide (c = .alert) && after.alertActive)) :
    alone = after.only c := by
  obtain ⟨⟨store, seen, alert, rfl⟩, -, -⟩ := h
  obtain ⟨⟨store', seen', alert', rfl⟩, -, -⟩ := halone
  dsimp only at hstore hseen halert
  subst hstore hseen halert
  rfl

/-- A poll of an engine, as a channel sees it, is the poll of the engine that has it alone. -/
theorem pollNotifications_only (h : e.store.TimesIn e.settings.Reaches) (hc : c ≠ .relay)
    (now : Instant) (order : ScanOrder) :
    (e.pollNotifications now order).Mirrors c (NotificationTick.seenBy c)
      ((e.only c).pollNotifications now) := by
  have hyields : (e.pollNotifications now order).Yields _ _ _ _ :=
    pollNotifications_yields (h.deadlines fun _ ht => ht.1) (h.deadlines fun _ ht => ht.2)
  have halone : ((e.only c).pollNotifications now).Yields _ _ _ _ :=
    pollNotifications_yields (deadlines_only h c).1 (deadlines_only h c).2
  have htick : ({ cleared := (e.only c).store.isEmpty && (e.only c).alarmSeen
                  desktop := (e.only c).desktopDue now
                  email := (e.only c).emailDue now } : NotificationTick) =
      NotificationTick.seenBy c
        { cleared := e.store.isEmpty && e.alarmSeen
          desktop := e.desktopDue now
          email := e.emailDue now } := by
    rw [desktopDue_only, emailDue_only]
    simp [NotificationTick.seenBy, only, hc]
  rw [htick] at halone
  obtain ⟨hcalls, hseen, halert⟩ := (e.notificationPoll now order).completed hyields.found
  obtain ⟨hcalls', hseen', halert'⟩ :=
    ((e.only c).notificationPoll now .ascending).completed halone.found
  refine ⟨?_, ?_, ?_⟩
  · have hpolled := (e.pollNotifications_within now order).engine
    have hpolled' := ((e.only c).pollNotifications_within now .ascending).engine
    refine hpolled.only_eq hpolled' ?_ ?_ ?_
    · apply AlarmStore.ext_snapshot
      · rw [halone.records, AlarmStore.snapshot_seenBy, hyields.records]
        have hsnapshot : (e.only c).store.snapshot = e.store.snapshot.map (·.seenBy c) := rfl
        rw [hsnapshot, List.map_map, List.map_map]
        exact List.map_congr_left fun r _ => e.marking_only c now r
      · rw [hpolled'.oldest, AlarmStore.oldest_seenBy, hpolled.oldest]
        rfl
    · rw [hseen, hseen']
      simp [only, hc]
    · rw [halert, halert', alertAfter_only e hc]
  · rw [hyields.found, halone.found]
    rfl
  · rw [hcalls, hcalls', tickCalls_only e hc]

/-! ## One action -/

theorem publish_only (e : Engine) (c : Channel) : (e.only c).publish = e.publish.only c := by
  have hcount : (e.only c).count = e.count := e.store.count_seenBy c
  unfold publish
  rw [hcount, apply_ite (only c)]
  rfl

theorem ingest_only (e : Engine) (c : Channel) (event : AlarmRecord) :
    (e.only c).ingest (event.seenBy c) = ((e.ingest event).1, (e.ingest event).2.only c) := by
  have hstore : (e.only c).store.ingest (event.seenBy c) = _ := e.store.ingest_seenBy c event
  unfold ingest apply
  rw [hstore]
  exact congrArg _ (publish_only { e with store := (e.store.ingest event).2 } c)

theorem lightUp_only (e : Engine) (now : Instant) :
    (e.lightUp now).Mirrors .relay id ((e.only .relay).lightUp now) := by
  have helapsed : (e.only .relay).store.episodeElapsed now (timeoutSpan e.settings.laboratory) =
      e.store.episodeElapsed now (timeoutSpan e.settings.laboratory) := by
    simp [only, AlarmStore.episodeElapsed]
  have hsettings : (e.only .relay).settings.laboratory = e.settings.laboratory := rfl
  unfold lightUp gate
  rw [hsettings, helapsed]
  by_cases hzero : e.settings.laboratory = 0
  · rw [if_pos hzero, if_pos hzero]
    exact ⟨rfl, rfl, rfl⟩
  · rw [if_neg hzero, if_neg hzero]
    cases e.store.episodeElapsed now (timeoutSpan e.settings.laboratory) with
    | error fault => exact ⟨rfl, rfl, rfl⟩
    | ok elapsed => cases elapsed <;> exact ⟨rfl, rfl, rfl⟩

theorem lightDown_only (e : Engine) :
    e.lightDown.Mirrors .relay id (e.only .relay).lightDown := by
  have hempty : (e.only .relay).store.isEmpty = e.store.isEmpty := e.store.isEmpty_seenBy .relay
  unfold lightDown
  rw [hempty]
  cases e.store.isEmpty <;> exact ⟨rfl, rfl, rfl⟩

theorem pollFlashlight_only (e : Engine) (now : Instant) :
    (e.pollFlashlight now).Mirrors .relay id ((e.only .relay).pollFlashlight now) := by
  have hoff : (!(e.only .relay).attached.relay ||
      decide ((e.only .relay).settings.laboratory = 0)) =
        (!e.attached.relay || decide (e.settings.laboratory = 0)) := rfl
  have hlight : (e.only .relay).flashlightOn = e.flashlightOn := rfl
  unfold pollFlashlight
  rw [hoff, hlight]
  cases !e.attached.relay || decide (e.settings.laboratory = 0) with
  | true => exact ⟨rfl, rfl, rfl⟩
  | false =>
    cases e.flashlightOn with
    | true => exact e.lightDown_only
    | false => exact e.lightUp_only now

theorem act_only (h : e.store.TimesIn e.settings.Reaches) {a heard : Action}
    (ha : a.heardBy? c = some heard) :
    (e.act a).Mirrors c (Answer.seenBy c) ((e.only c).act heard) := by
  cases a with
  | ingest event =>
    cases ha
    have hingest := e.ingest_only c event
    refine ⟨?_, ?_, rfl⟩ <;> simp only [act, Step.done, hingest]
    rfl
  | pollNotifications now fate order =>
    by_cases hc : c = .relay
    · simp [Action.heardBy?, hc] at ha
    · simp only [Action.heardBy?, if_neg hc, Option.some.injEq] at ha
      subst ha
      exact (pollNotifications_only h hc now order).answered (fun _ => rfl) fate _
  | pollFlashlight now fate =>
    by_cases hc : c = .relay
    · subst hc
      cases ha
      exact (pollFlashlight_only e now).answered (fun _ => rfl) fate _
    · simp [Action.heardBy?, hc] at ha
  | start | shutdown => cases ha

/-- What is none of a channel's business changes nothing for it. -/
theorem only_act_of_unheard {a : Action} (ha : a.heardBy? c = none) :
    (e.act a).engine.only c = e.only c := by
  have hmoved := e.moved a
  generalize (e.act a).engine = after at hmoved
  cases hmoved with
  | ingested => cases ha
  | polled now fate order hpolled =>
    have hc : c = .relay := by simpa [Action.heardBy?] using ha
    subst hc
    have hstore : after.store.seenBy .relay = e.store.seenBy .relay :=
      AlarmStore.unmarked_of_marked hpolled.oldest hpolled.records
    obtain ⟨⟨store, seen, alert, rfl⟩, -, -⟩ := hpolled
    simp only [only, hstore]
    simp
  | lit now fate on =>
    have hc : c ≠ .relay := by
      intro hc
      simp [Action.heardBy?, hc] at ha
    simp [only, hc]
  | started | stopped => rfl

/-! ## A whole run -/

/-- What a channel sees of a run is what happens to the engine that has this channel alone, driven
by what the channel hears. -/
theorem history_only (h : e.store.TimesIn e.settings.Reaches) {actions : List Action}
    (reach : ∀ a ∈ actions, a.InReach e.settings) :
    (e.history actions).filterMap (Moment.seenBy? c) =
      ((e.only c).history (actions.filterMap (Action.heardBy? c))).map Moment.sighting := by
  induction actions generalizing e with
  | nil => rfl
  | cons a rest ih =>
    have hmoved := e.moved a
    have hsettings := hmoved.built.1
    have hnext : (e.act a).engine.store.TimesIn (e.act a).engine.settings.Reaches := by
      rw [hsettings]
      refine hmoved.timesIn ?_ h
      rintro event rfl
      exact reach _ List.mem_cons_self
    have hrest := ih hnext fun b hb => hsettings ▸ reach b (by simp [hb])
    -- the engine that has the channel alone stands still while the channel hears nothing
    cases ha : a.heardBy? c with
    | none =>
      have hunseen : Moment.seenBy? c ⟨e, a⟩ = none := by simp [Moment.seenBy?, ha]
      rw [history, List.filterMap_cons_none hunseen, List.filterMap_cons_none ha, hrest,
        only_act_of_unheard ha]
    | some heard =>
      have hmirror := act_only h ha
      have hseen : Moment.seenBy? c ⟨e, a⟩ = some (Moment.sighting ⟨e.only c, heard⟩) := by
        rw [Moment.seenBy?, ha, Option.map_some, Option.some.injEq]
        exact hmirror.sighting
      rw [history, List.filterMap_cons_some hseen, List.filterMap_cons_some ha, hrest, history,
        List.map_cons, hmirror.engine]

theorem settings_of_build {settings : EngineSettings} {attached : Attached} {e : Engine}
    (h : build settings attached = .ok e) : e.settings = settings := by
  rw [eq_of_build h]

theorem times_of_build {settings : EngineSettings} {attached : Attached} {e : Engine}
    (h : build settings attached = .ok e) : e.store.TimesIn e.settings.Reaches := by
  rw [eq_of_build h]
  exact AlarmStore.timesIn_empty _

/-- **Channels are independent of each other.** Take two built engines of one role that have the
timeout and the collaborator of a channel in common, and a run of each whose deadlines all exist. If
the runs have the same events and the same polls of this channel, then at each of these the channel
sees the same: the same answer, the same calls, and the same marks of its own in the same records.
Neither the other timeouts and collaborators nor what else happens, be it the outcome of any call,
makes a difference to it. -/
theorem channels_independent (c : Channel) {settings settings' : EngineSettings}
    {attached attached' : Attached} {e e' : Engine}
    (built : build settings attached = .ok e) (built' : build settings' attached' = .ok e')
    (role : settings'.role = settings.role) (timeout : settings'.timeout c = settings.timeout c)
    (has : attached'.has c = attached.has c) {actions actions' : List Action}
    (reach : ∀ a ∈ actions, a.InReach settings) (reach' : ∀ a ∈ actions', a.InReach settings')
    (heard : actions'.filterMap (Action.heardBy? c) = actions.filterMap (Action.heardBy? c)) :
    (e'.history actions').filterMap (Moment.seenBy? c) =
      (e.history actions).filterMap (Moment.seenBy? c) := by
  have halone : e'.only c = e.only c := by
    simp only [eq_of_build built, eq_of_build built', only, role, timeout, has]
  rw [history_only (times_of_build built') (settings_of_build built' ▸ reach'), heard, halone,
    ← history_only (times_of_build built) (settings_of_build built ▸ reach)]

/-- A server with popups and mails. -/
def withPopups : Engine :=
  { settings := { role := .server, desktop := 3, email := 5 }
    attached := { desktop := true, mail := true } }

/-- A server with mails and a light. -/
def withLight : Engine :=
  { settings := { role := .server, laboratory := 2, email := 5 }
    attached := { mail := true, relay := true } }

/-- An event that is first announced at the fifth second. -/
def alarm : AlarmRecord := ⟨"PV1", "MAJOR", "HIHI", .ofSecond 0, false, false⟩

def popupRun : List Action := [.ingest alarm, .pollNotifications (.ofSecond 5) fun _ => .done]

/-- The same, with a light that is asked for, and calls that never return. -/
def lightRun : List Action :=
  [.ingest alarm, .pollFlashlight (.ofSecond 3) fun _ => .pending,
    .pollNotifications (.ofSecond 5) fun _ => .pending]

theorem channels_independent_mail :
    build withPopups.settings withPopups.attached = .ok withPopups ∧
    build withLight.settings withLight.attached = .ok withLight ∧
    (∀ a ∈ popupRun, a.InReach withPopups.settings) ∧
    (∀ a ∈ lightRun, a.InReach withLight.settings) ∧
    lightRun.filterMap (Action.heardBy? .mail) = popupRun.filterMap (Action.heardBy? .mail) ∧
    ((withLight.history lightRun).filterMap (Moment.seenBy? .mail)).map Sighting.calls =
      [[], [.send [alarm.markEmail]]] := by
  have built : build withPopups.settings withPopups.attached = .ok withPopups := by decide
  have built' : build withLight.settings withLight.attached = .ok withLight := by decide
  have reach : ∀ a ∈ popupRun, a.InReach withPopups.settings := by decide
  have reach' : ∀ a ∈ lightRun, a.InReach withLight.settings := by decide
  refine ⟨built, built', reach, reach', rfl, ?_⟩
  rw [channels_independent .mail built built' rfl rfl rfl reach reach' rfl]
  decide

/-- A mail tells whether the alarm was announced on the desktop before it: a record that is handed
out has the marks of both channels. -/
theorem email_shows_desktop_mark :
    build withPopups.settings withPopups.attached = .ok withPopups ∧
    build withLight.settings withLight.attached = .ok withLight ∧
    withLight.settings.role = withPopups.settings.role ∧
    withLight.settings.timeout .mail = withPopups.settings.timeout .mail ∧
    withLight.attached.has .mail = withPopups.attached.has .mail ∧
    (∀ a ∈ popupRun, a.InReach withPopups.settings) ∧
    (∀ a ∈ lightRun, a.InReach withLight.settings) ∧
    lightRun.filterMap (Action.heardBy? .mail) = popupRun.filterMap (Action.heardBy? .mail) ∧
    (withPopups.history popupRun).filterMap Moment.tick? =
      [{ desktop := [alarm.markDesktop], email := [alarm.markDesktop.markEmail] }] ∧
    (withLight.history lightRun).filterMap Moment.tick? = [{ email := [alarm.markEmail] }] ∧
    alarm.markDesktop.markEmail ≠ alarm.markEmail :=
  ⟨by decide, by decide, rfl, rfl, rfl, by decide, by decide, rfl, by decide, by decide, by decide⟩

end Engine

end AlarmEscalation
