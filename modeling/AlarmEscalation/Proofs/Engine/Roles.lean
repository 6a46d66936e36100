import AlarmEscalation.Proofs.Engine.Actors
import AlarmEscalation.Proofs.Engine.AtMostOnce
import AlarmEscalation.Proofs.Engine.Independence

/-! # Roles and timeouts of 0

A channel is entitled to speak if its collaborator is attached and its timeout is not 0. Only such a
channel is called, and only such a channel marks records; but for one call: popups are taken back
whether or not the desktop has a timeout. What a role has no use for cannot be attached to it, so
the roles are kept with that. -/
namespace AlarmEscalation.Engine

/-- A channel that has its collaborator, and is not turned off. -/
def Entitled (e : Engine) (c : Channel) : Prop :=
  e.attached.has c = true ∧ e.settings.timeout c ≠ 0

/-- The calls that an engine may make. -/
def Permits (e : Engine) (call : Call) : Prop :=
  e.Entitled call.channel ∨ call = .clear ∧ e.attached.desktop = true

theorem Permits.attached {e : Engine} {call : Call} (h : e.Permits call) :
    e.attached.has call.channel = true := by
  rcases h with h | ⟨rfl, h⟩
  · exact h.1
  · exact h

theorem Permits.timeout {e : Engine} {call : Call} (h : e.Permits call) (hclear : call ≠ .clear) :
    e.settings.timeout call.channel ≠ 0 := by
  rcases h with h | ⟨rfl, -⟩
  · exact h.2
  · exact absurd rfl hclear

/-! ## Polls -/

/-- An engine before and after it did something, with the calls that it made: it has permission for
these, for an alert that it started, and for the marks that it set. -/
structure Confined (before after : Engine) (calls : List Call) : Prop where
  settings : after.settings = before.settings
  attached : after.attached = before.attached
  calls : ∀ call ∈ calls, before.Permits call
  alert : after.alertActive = true → before.alertActive = true ∨ before.Entitled .alert
  marks : ∀ id, ∃ desktop email,
    after.store.get? id = (before.store.get? id).map (·.marked desktop email) ∧
      (desktop = true → before.Entitled .desktop) ∧ (email = true → before.Entitled .mail)

variable {e a b c : Engine} {now : Instant} {order : ScanOrder} {calls calls' : List Call}

theorem Confined.of_same (settings : b.settings = a.settings) (attached : b.attached = a.attached)
    (alert : b.alertActive = a.alertActive) (store : b.store = a.store) : Confined a b [] := by
  refine ⟨settings, attached, by simp, fun h => .inl (alert ▸ h), fun id => ⟨false, false, ?_⟩⟩
  simp [store]

theorem Confined.refl (e : Engine) : Confined e e [] := .of_same rfl rfl rfl rfl

theorem Confined.entitled (h : Confined a b calls) {channel : Channel} (hb : b.Entitled channel) :
    a.Entitled channel := by
  unfold Entitled at hb
  rwa [h.settings, h.attached] at hb

theorem Confined.trans (hab : Confined a b calls) (hbc : Confined b c calls') :
    Confined a c (calls ++ calls') := by
  refine ⟨hbc.settings.trans hab.settings, hbc.attached.trans hab.attached, ?_, ?_, ?_⟩
  · intro call hcall
    rcases List.mem_append.mp hcall with hcall | hcall
    · exact hab.calls call hcall
    · exact (hbc.calls call hcall).imp hab.entitled fun h => ⟨h.1, hab.attached ▸ h.2⟩
  · intro hactive
    rcases hbc.alert hactive with h | h
    · exact hab.alert h
    · exact .inr (hab.entitled h)
  · intro id
    obtain ⟨d, m, hdm, hd, hm⟩ := hab.marks id
    obtain ⟨d', m', hdm', hd', hm'⟩ := hbc.marks id
    refine ⟨d || d', m || m', ?_, ?_, ?_⟩
    · rw [hdm', hdm, Option.map_map]
      congr 1
      funext r
      exact r.marked_marked d m d' m'
    · intro h
      exact (Bool.or_eq_true_iff.mp h).elim hd fun h => hab.entitled (hd' h)
    · intro h
      exact (Bool.or_eq_true_iff.mp h).elim hm fun h => hab.entitled (hm' h)

/-- What becomes of the actors is of no account. -/
theorem Confined.with_actors (h : Confined a b calls) (actors : List Actor) :
    Confined a { b with actors } calls :=
  ⟨h.settings, h.attached, h.calls, h.alert, h.marks⟩

theorem timeout_of_lasted {timeout : UInt32} (h : e.lasted timeout now = true) : timeout ≠ 0 := by
  simpa using (Bool.and_eq_true_iff.mp h).1

theorem channel_of_alertCalls {call : Call} (h : call ∈ e.alertCalls) :
    e.attached.alert = true ∧ call.channel = .alert := by
  unfold alertCalls at h
  split at h
  · rename_i hstart
    rw [List.mem_singleton.mp h]
    exact ⟨(Bool.and_eq_true_iff.mp hstart).1, rfl⟩
  · cases h

theorem DesktopPoll.confined {s : Step (List AlarmRecord)} (h : e.DesktopPoll now order s) :
    Confined e s.engine s.calls := by
  cases h with
  | early | outOfRange => exact .refl e
  | scanBroken fault hlasted hattached =>
    have hdesktop : e.Entitled .desktop := ⟨hattached, timeout_of_lasted hlasted⟩
    refine ⟨rfl, rfl, by simp [Step.broken], .inl, fun id => ?_⟩
    obtain ⟨d, hd⟩ := e.store.get?_desktopBatch now (timeoutSpan e.settings.desktop) order id
    exact ⟨d, false, hd, fun _ => hdesktop, Bool.noConfusion⟩
  | @handedOut batch store hlasted hshown =>
    have hon := timeout_of_lasted hlasted
    have hdesktop : ∀ call ∈ (if batch.isEmpty then [] else [Call.show batch]),
        e.Entitled call.channel := by
      intro call hcall
      split at hcall
      · cases hcall
      · rename_i hne
        rw [List.mem_singleton.mp hcall]
        cases hshown with
        | attached _ hattached => exact ⟨hattached, hon⟩
        | absent => exact absurd rfl hne
    refine ⟨rfl, rfl, ?_, ?_, ?_⟩
    · intro call hcall
      rcases List.mem_append.mp hcall with hcall | hcall
      · exact .inl (hdesktop call hcall)
      · obtain ⟨hattached, hchannel⟩ := channel_of_alertCalls hcall
        exact .inl (hchannel ▸ ⟨hattached, hon⟩)
    · intro hactive
      exact (Bool.or_eq_true_iff.mp hactive).imp_right fun hattached => ⟨hattached, hon⟩
    · intro id
      cases hshown with
      | attached _ hattached =>
        obtain ⟨d, hd⟩ := e.store.get?_desktopBatch now (timeoutSpan e.settings.desktop) order id
        exact ⟨d, false, hd, fun _ => ⟨hattached, hon⟩, Bool.noConfusion⟩
      | absent => exact (Confined.refl e).marks id

theorem EmailPoll.confined {s : Step (List AlarmRecord)} (h : e.EmailPoll now s) :
    Confined e s.engine s.calls := by
  cases h with
  | idle | outOfRange => exact .refl e
  | handedOut hopen =>
    obtain ⟨hgiven, hlasted⟩ := Bool.and_eq_true_iff.mp hopen
    have hmail : e.Entitled .mail :=
      ⟨(Bool.and_eq_true_iff.mp hgiven).2, timeout_of_lasted hlasted⟩
    refine ⟨rfl, rfl, ?_, .inl, fun id => ?_⟩
    · intro call hcall
      dsimp only at hcall
      split at hcall
      · cases hcall
      · rw [List.mem_singleton.mp hcall]
        exact .inl hmail
    · exact ⟨false, true, e.store.get?_emailBatch id, Bool.noConfusion, fun _ => hmail⟩

theorem NotificationPoll.confined {s : Step NotificationTick} (h : e.NotificationPoll now order s)
    (lawful : e.alertActive = true → e.Entitled .alert) : Confined e s.engine s.calls := by
  have hseen : Confined e { e with alarmSeen := true } [] := .of_same rfl rfl rfl rfl
  cases h with
  | quiet => exact .refl e
  | allClear =>
    refine ⟨rfl, rfl, ?_, Bool.noConfusion, (Confined.refl e).marks⟩
    intro call hcall
    rcases List.mem_append.mp hcall with hcall | hcall
    · split at hcall
      · rename_i halert
        rw [List.mem_singleton.mp hcall]
        exact .inl (lawful (Bool.and_eq_true_iff.mp halert).1)
      · cases hcall
    · split at hcall
      · rename_i hattached
        exact .inr ⟨List.mem_singleton.mp hcall, hattached⟩
      · cases hcall
  | desktopBroken _ hdesktop => exact hseen.trans hdesktop.confined
  | active _ hdesktop _ hemail => exact (hseen.trans hdesktop.confined).trans hemail.confined

theorem pollFlashlight_confined (e : Engine) (now : Instant) :
    Confined e (e.pollFlashlight now).engine (e.pollFlashlight now).calls := by
  have hwithin := e.pollFlashlight_within now
  unfold pollFlashlight at hwithin ⊢
  split
  · exact .refl e
  · rename_i hgiven
    have hrelay : e.Entitled .relay := by
      simpa [Entitled, Attached.has, EngineSettings.timeout] using hgiven
    rw [if_neg hgiven] at hwithin
    generalize (if e.flashlightOn then e.lightDown else e.lightUp now) = s at hwithin
    obtain ⟨on, hlit⟩ := hwithin.engine
    refine ⟨by rw [hlit], by rw [hlit], ?_, fun h => .inl (by rw [hlit] at h; exact h), ?_⟩
    · intro call hcall
      exact .inl (hwithin.calls call hcall ▸ hrelay)
    · rw [hlit]
      exact (Confined.refl e).marks

/-! ## Turns -/

/-- A turn sets a mark of a channel: behind it there is a record that has the mark, and neither had
it before nor came in with it. -/
def SetsMark (e : Engine) (t : Turn) (channel : Channel) : Prop :=
  ∃ id r, (e.take t).engine.store.get? id = some r ∧ r.notified channel = true ∧
    (∀ r0, e.store.get? id = some r0 → r0.notified channel = false) ∧
    ∀ event, t.event? = some event → event.id = id → event.notified channel = false

theorem Confined.entitled_of_setsMark {t : Turn} {channel : Channel}
    (h : Confined e (e.take t).engine calls) (hsets : e.SetsMark t channel) :
    e.Entitled channel := by
  obtain ⟨id, r, hr, hmark, hbefore, -⟩ := hsets
  obtain ⟨d, m, hdm, hd, hm⟩ := h.marks id
  rw [hdm] at hr
  obtain ⟨r0, hr0, rfl⟩ := Option.map_eq_some_iff.mp hr
  have hnone := hbefore r0 hr0
  cases channel with
  | desktop => exact hd (by simp_all [AlarmRecord.notified, AlarmRecord.marked])
  | mail => exact hm (by simp_all [AlarmRecord.notified, AlarmRecord.marked])
  | relay | alert => cases hnone

/-- An event brings its own marks, and no others. -/
theorem not_setsMark_ingest (e : Engine) (event : AlarmRecord) (channel : Channel) :
    ¬ e.SetsMark (.action (.ingest event)) channel := by
  rintro ⟨id, r, hr, hmark, hbefore, hevent⟩
  obtain ⟨published, publications, hingest⟩ := e.ingest_engine event
  change (e.ingest event).2.store.get? id = some r at hr
  rw [hingest] at hr
  rcases e.store.get?_ingest_cases event hr with ⟨⟨-, hid⟩, -, rfl⟩ | ⟨-, r0, hr0, rfl | rfl⟩
  · rw [hevent r rfl hid] at hmark
    cases hmark
  · rw [hbefore r hr0] at hmark
    cases hmark
  · rw [AlarmRecord.notified_updated, hbefore r0 hr0] at hmark
    cases hmark

/-- What an engine keeps of its role and its collaborators. -/
structure Lawful (settings : EngineSettings) (attached : Attached) (e : Engine) : Prop where
  settings_eq : e.settings = settings
  attached_eq : e.attached = attached
  alert : e.alertActive = true → e.Entitled .alert
  actors : ∀ actor ∈ e.actors, actor.kind ∈ actorKinds settings.role

variable {settings : EngineSettings} {attached : Attached}

/-- Only an event comes in without permission. -/
theorem Lawful.act (h : Lawful settings attached e) {action : Action}
    (hevent : ∀ event, action ≠ .ingest event) :
    Confined e (e.act action).engine (e.act action).calls := by
  cases action with
  | ingest event => exact absurd rfl (hevent event)
  | pollNotifications now fate order => exact (e.notificationPoll now order).confined h.alert
  | pollFlashlight now fate => exact e.pollFlashlight_confined now
  | start inRuntime =>
    simp only [Engine.act]
    split
    · exact .refl e
    · rename_i hstart
      obtain ⟨running, actors, held, rfl⟩ := start_engine hstart
      exact .of_same rfl rfl rfl rfl
  | shutdown now =>
    obtain ⟨actors, hshutdown⟩ := e.shutdown_engine now
    rw [show (e.act (.shutdown now)).engine = _ from hshutdown]
    exact .of_same rfl rfl rfl rfl

theorem Lawful.take (h : Lawful settings attached e) {t : Turn} (hevent : t.event? = none) :
    Confined e (e.take t).engine (e.take t).calls := by
  cases t with
  | action action =>
    refine h.act fun event haction => ?_
    subst haction
    cases hevent
  | wake n now fate order =>
    change Confined e (e.wake n now order).engine (e.wake n now order).calls
    rcases e.wake_cases n now fate order with
      ⟨actors, hengine, hcalls⟩ | ⟨kind, actors, hengine, hcalls⟩
    · rw [hengine, hcalls]
      exact (Confined.refl e).with_actors actors
    · rw [hengine, hcalls]
      refine (h.act fun event => ?_).with_actors actors
      cases kind with
      | notification => exact Action.noConfusion
      | flashlight => exact Action.noConfusion

theorem Lawful.permits (h : Lawful settings attached e) (t : Turn) :
    (∀ call ∈ (e.take t).calls, e.Permits call) ∧
      ∀ channel, e.SetsMark t channel → e.Entitled channel := by
  cases hevent : t.event? with
  | none => exact ⟨(h.take hevent).calls, fun _ hsets => (h.take hevent).entitled_of_setsMark hsets⟩
  | some event =>
    obtain rfl := Turn.eq_of_event? hevent
    have hnone : (e.take (.action (.ingest event))).calls = [] := rfl
    exact ⟨by simp [hnone], fun channel hsets => absurd hsets (e.not_setsMark_ingest event channel)⟩

theorem Lawful.not_called_of_absent (h : Lawful settings attached e) (channel : Channel)
    (habsent : attached.has channel = false) (t : Turn) :
    ∀ call ∈ (e.take t).calls, call.channel ≠ channel := by
  rintro call hcall rfl
  have hattached := ((h.permits t).1 call hcall).attached
  rw [h.attached_eq, habsent] at hattached
  cases hattached

/-- The one call that asks for no timeout is one to the desktop. -/
theorem Lawful.not_called_of_off (h : Lawful settings attached e) (channel : Channel)
    (hoff : settings.timeout channel = 0) (hdesktop : channel ≠ .desktop) (t : Turn) :
    ∀ call ∈ (e.take t).calls, call.channel ≠ channel := by
  rintro call hcall rfl
  have hclear : call ≠ .clear := fun hclear => hdesktop (congrArg Call.channel hclear)
  exact ((h.permits t).1 call hcall).timeout hclear (h.settings_eq ▸ hoff)

theorem Lawful.not_setsMark_of_off (h : Lawful settings attached e) (channel : Channel)
    (hoff : settings.timeout channel = 0) (t : Turn) : ¬ e.SetsMark t channel :=
  fun hsets => ((h.permits t).2 channel hsets).2 (h.settings_eq ▸ hoff)

theorem Lawful.step (h : Lawful settings attached e) (t : Turn) :
    Lawful settings attached (e.take t).engine := by
  have hactors : ∀ actor ∈ (e.take t).engine.actors, actor.kind ∈ actorKinds settings.role :=
    actors_take h.actors (fun kind hkind => h.settings_eq ▸ hkind) (fun _ _ hkind => hkind) t
  cases hevent : t.event? with
  | none =>
    have hconfined := h.take hevent
    refine ⟨hconfined.settings.trans h.settings_eq, hconfined.attached.trans h.attached_eq, ?_,
      hactors⟩
    intro hactive
    have halert : e.Entitled .alert := (hconfined.alert hactive).elim h.alert id
    unfold Entitled
    rwa [hconfined.settings, hconfined.attached]
  | some event =>
    obtain rfl := Turn.eq_of_event? hevent
    obtain ⟨published, publications, hingest⟩ := e.ingest_engine event
    have hengine : (e.take (.action (.ingest event))).engine = _ := hingest
    rw [hengine] at hactors ⊢
    exact ⟨h.settings_eq, h.attached_eq, h.alert, hactors⟩

/-! ## Runs -/

/-- Settings and collaborators that an engine can be built with. -/
structure Fits (settings : EngineSettings) (attached : Attached) : Prop where
  interval : settings.pollInterval ≠ .zero
  desktop : settings.role = .desktop → attached.relay = false ∧ attached.mail = false
  server : settings.role = .server → attached.alert = false

theorem build_iff (settings : EngineSettings) (attached : Attached) :
    (∃ e, build settings attached = .ok e) ↔ Fits settings attached := by
  constructor
  · rintro ⟨e, h⟩
    unfold build at h
    split at h
    · cases h
    · split at h
      · cases h
      · split at h
        · cases h
        · split at h
          · cases h
          · constructor <;> simp_all
  · rintro ⟨hinterval, hdesktop, hserver⟩
    refine ⟨{ settings, attached }, ?_⟩
    unfold build
    cases hrole : settings.role with
    | desktop => simp [hinterval, hdesktop hrole]
    | server => simp [hinterval, hserver hrole]

/-- A turn that keeps to the role, the timeouts and the collaborators of an engine. -/
structure Respects (settings : EngineSettings) (attached : Attached) (e : Engine) (t : Turn) :
    Prop where
  desktopRole : settings.role = .desktop →
    (∀ call ∈ (e.take t).calls, call.channel ≠ .mail ∧ call.channel ≠ .relay) ∧
      ∀ actor ∈ e.actors, actor.kind ≠ .flashlight
  serverRole : settings.role = .server → ∀ call ∈ (e.take t).calls, call.channel ≠ .alert
  desktopOff : settings.desktop = 0 →
    (∀ call ∈ (e.take t).calls, (∀ batch, call ≠ .show batch) ∧ call.channel ≠ .alert) ∧
      ¬ e.SetsMark t .desktop
  mailOff : settings.email = 0 →
    (∀ call ∈ (e.take t).calls, call.channel ≠ .mail) ∧ ¬ e.SetsMark t .mail
  lightOff : settings.laboratory = 0 → ∀ call ∈ (e.take t).calls, call.channel ≠ .relay
  absent : ∀ channel, attached.has channel = false →
    (∀ call ∈ (e.take t).calls, call.channel ≠ channel) ∧ ¬ e.SetsMark t channel

theorem Lawful.respects (h : Lawful settings attached e) (fits : Fits settings attached)
    (t : Turn) : Respects settings attached e t := by
  refine ⟨?_, ?_, ?_, ?_, ?_, ?_⟩
  · intro hrole
    obtain ⟨hrelay, hmail⟩ := fits.desktop hrole
    refine ⟨fun call hcall => ⟨?_, ?_⟩, fun actor hactor => ?_⟩
    · exact h.not_called_of_absent .mail hmail t call hcall
    · exact h.not_called_of_absent .relay hrelay t call hcall
    · have hkind := h.actors actor hactor
      rw [hrole] at hkind
      rw [List.mem_singleton.mp hkind]
      exact ActorKind.noConfusion
  · exact fun hrole => h.not_called_of_absent .alert (fits.server hrole) t
  · intro hzero
    refine ⟨fun call hcall => ⟨?_, ?_⟩, h.not_setsMark_of_off .desktop hzero t⟩
    · rintro batch rfl
      exact ((h.permits t).1 _ hcall).timeout Call.noConfusion (h.settings_eq ▸ hzero)
    · exact h.not_called_of_off .alert hzero Channel.noConfusion t call hcall
  · intro hzero
    exact ⟨h.not_called_of_off .mail hzero Channel.noConfusion t,
      h.not_setsMark_of_off .mail hzero t⟩
  · exact fun hzero => h.not_called_of_off .relay hzero Channel.noConfusion t
  · refine fun channel habsent => ⟨h.not_called_of_absent channel habsent t, fun hsets => ?_⟩
    have hattached := ((h.permits t).2 channel hsets).1
    rw [h.attached_eq, habsent] at hattached
    cases hattached

/-- **Roles and timeouts of 0 are respected.** An engine can be built exactly if it has a poll
interval, no relay and no mail on a desktop, and no alert at a server. Whatever has happened to it
by then, no turn calls what its role has no use for, what is turned off or what is not attached, or
marks a record for it; and on a desktop there is no actor for the light. -/
theorem roles_respected (settings : EngineSettings) (attached : Attached) :
    ((∃ e, build settings attached = .ok e) ↔ Fits settings attached) ∧
    ∀ e, build settings attached = .ok e → ∀ turns t,
      Respects settings attached (e.afterTurns turns) t := by
  refine ⟨build_iff settings attached, fun e built turns t => ?_⟩
  have base : Lawful settings attached e := by
    rw [eq_of_build built]
    exact ⟨rfl, rfl, Bool.noConfusion, by simp⟩
  have h : Lawful settings attached (e.afterTurns turns) :=
    turns_induction base (fun _ t (_ : True) h => h.step t) (by simp)
  exact h.respects ((build_iff settings attached).mp ⟨e, built⟩) t

/-- A desktop that is turned off. -/
def muted : Engine :=
  { settings := { role := .desktop, email := 5 }, attached := { desktop := true, alert := true } }

def mutedTurns : List Turn :=
  [.action (.start true),
    .action (.ingest ⟨"PV1", "MAJOR", "HIHI", .ofSecond 0, false, false⟩)]

/-- The alarm of a desktop that is turned off waits for its mark, and goes on waiting. -/
theorem roles_respected_muted :
    build muted.settings muted.attached = .ok muted ∧
    ((muted.afterTurns mutedTurns).store.get? "PV1").map (·.notified .desktop) = some false ∧
    ¬ (muted.afterTurns mutedTurns).SetsMark (.wake 0 (.ofSecond 100) fun _ => .done) .desktop := by
  have built : build muted.settings muted.attached = .ok muted := by decide
  have respects := (roles_respected muted.settings muted.attached).2 muted built mutedTurns
    (.wake 0 (.ofSecond 100) fun _ => .done)
  exact ⟨built, by decide, (respects.desktopOff rfl).2⟩

end AlarmEscalation.Engine
