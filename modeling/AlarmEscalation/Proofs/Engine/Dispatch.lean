import AlarmEscalation.Proofs.Engine.Polling

/-! # The ways in which a poll for notifications goes

A poll asks two channels in turn, and may be broken off in between. `DesktopPoll`, `EmailPoll` and
`NotificationPoll` list all that can come of it, whatever times are in the store; statements about
single polls are read off these lists. The first of them is `NotificationPoll.completed`: a poll
that comes to its end calls what its tick tells. -/
namespace AlarmEscalation

/-- A scan that comes to its end has looked at every deadline. -/
theorem AlarmStore.inRange_of_desktopScan {now : Instant} {timeout : Span}
    {l batch : List AlarmRecord} (h : (desktopScan now timeout l).1 = .ok batch) :
    ∀ r ∈ l, (r.triggerTime.shift? timeout).isSome := by
  induction l generalizing batch with
  | nil => simp
  | cons r rest ih =>
    simp only [desktopScan] at h
    cases hr : r.triggerTime.due? timeout now with
    | none => simp [hr] at h
    | some due =>
      have hfirst : (r.triggerTime.shift? timeout).isSome := by
        simp only [Instant.due?, Option.map_eq_some_iff] at hr
        obtain ⟨deadline, hd, -⟩ := hr
        simp [hd]
      obtain ⟨rest', hrest⟩ : ∃ rest', (desktopScan now timeout rest).1 = .ok rest' := by
        cases hscan : (desktopScan now timeout rest).1 with
        | ok rest' => exact ⟨rest', rfl⟩
        | error fault =>
          simp only [hr, hscan] at h
          split at h <;> cases h
      exact List.forall_mem_cons.mpr ⟨hfirst, ih hrest⟩

theorem AlarmStore.inRange_of_desktopBatch {s : AlarmStore} {now : Instant} {timeout : Span}
    {order : ScanOrder} {batch : List AlarmRecord}
    (h : (s.desktopBatch now timeout order).1 = .ok batch) : s.InRange timeout := by
  obtain ⟨scanned, hscan⟩ :
      ∃ scanned, (desktopScan now timeout (order.arrange s.snapshot)).1 = .ok scanned := by
    change (desktopScan now timeout (order.arrange s.snapshot)).1.map _ = .ok batch at h
    cases hscan : (desktopScan now timeout (order.arrange s.snapshot)).1 with
    | error fault =>
      rw [hscan] at h
      cases h
    | ok scanned => exact ⟨scanned, rfl⟩
  intro r hr
  exact inRange_of_desktopScan hscan r ((order.perm _).mem_iff.mpr hr)

namespace Engine

variable {e : Engine} {now : Instant} {order : ScanOrder}

/-- What is called to start the sustained alert. -/
def alertCalls (e : Engine) : List Call :=
  if e.attached.alert && !e.alertActive then [.startAlert] else []

theorem raiseAlert_eq (e : Engine) :
    e.raiseAlert =
      { engine := { e with alertActive := e.alertActive || e.attached.alert }
        found := .ok ()
        calls := e.alertCalls } := by
  unfold raiseAlert alertCalls
  split
  · rename_i h
    have hattached : e.attached.alert = true := (Bool.and_eq_true_iff.mp h).1
    simp [hattached]
  · rename_i h
    have hsame : (e.alertActive || e.attached.alert) = e.alertActive := by
      cases hactive : e.alertActive <;> simp_all
    rw [hsame]
    rfl

/-- A channel may speak when its timeout has passed; a timeout that leads out of the range of times
breaks the poll off. -/
theorem gate_cases (hne : e.store.isEmpty = false) (timeout : UInt32) (now : Instant) :
    e.gate timeout now = .done e (e.lasted timeout now) ∨
      e.lasted timeout now = false ∧ ∃ fault, e.gate timeout now = .broken e fault := by
  unfold gate lasted
  split
  · rename_i hzero
    exact .inl (by simp [hzero])
  · rename_i hzero
    simp only [AlarmStore.episodeElapsed, hne]
    cases ho : e.store.oldest with
    | none => exact .inl (by simp)
    | some t =>
      cases hshift : t.shift? (timeoutSpan timeout) with
      | none =>
        refine .inr ⟨by simp [Instant.isDue, hshift], .timeOverflow, ?_⟩
        simp [Instant.due?, hshift]
      | some deadline => exact .inl (by simp [Instant.due?, Instant.isDue, hshift, hzero])

/-! ## The desktop -/

/-- What the desktop gets of the store, and the store that is left. -/
inductive Shown (e : Engine) (now : Instant) (order : ScanOrder) :
    List AlarmRecord → AlarmStore → Prop
  | attached (batch : List AlarmRecord) : e.attached.desktop = true →
      (e.store.desktopBatch now (timeoutSpan e.settings.desktop) order).1 = .ok batch →
      Shown e now order batch (e.store.desktopBatch now (timeoutSpan e.settings.desktop) order).2
  | absent : e.attached.desktop = false → Shown e now order [] e.store

/-- The ways in which the desktop's part of a poll goes. -/
inductive DesktopPoll (e : Engine) (now : Instant) (order : ScanOrder) :
    Step (List AlarmRecord) → Prop
  | early : e.lasted e.settings.desktop now = false → DesktopPoll e now order (.done e [])
  | outOfRange (fault : Fault) : e.lasted e.settings.desktop now = false →
      DesktopPoll e now order (.broken e fault)
  | scanBroken (fault : Fault) : e.lasted e.settings.desktop now = true →
      e.attached.desktop = true → DesktopPoll e now order
        (.broken
          { e with store := (e.store.desktopBatch now (timeoutSpan e.settings.desktop) order).2 }
          fault)
  | handedOut {batch : List AlarmRecord} {store : AlarmStore} :
      e.lasted e.settings.desktop now = true → Shown e now order batch store →
      DesktopPoll e now order
        { engine := { e with store, alertActive := e.alertActive || e.attached.alert }
          found := .ok batch
          calls := (if batch.isEmpty then [] else [.show batch]) ++ e.alertCalls }

theorem desktopPoll (hne : e.store.isEmpty = false) (now : Instant) (order : ScanOrder) :
    e.DesktopPoll now order (e.pollDesktop now order) := by
  unfold pollDesktop
  rcases gate_cases hne e.settings.desktop now with hgate | ⟨hshut, fault, hgate⟩
  · rw [hgate, Step.done_andThen]
    cases hlasted : e.lasted e.settings.desktop now with
    | false => exact .early hlasted
    | true =>
      rw [if_pos rfl]
      unfold handOutDesktop
      split
      · rename_i hattached
        dsimp only
        cases hbatch : (e.store.desktopBatch now (timeoutSpan e.settings.desktop) order).1 with
        | error fault =>
          rw [Step.broken_andThen]
          exact .scanBroken fault hlasted hattached
        | ok batch =>
          simp only [Step.andThen, raiseAlert_eq, Step.done, List.append_nil]
          exact .handedOut hlasted (.attached batch hattached hbatch)
      · rename_i hattached
        simp only [Step.andThen, raiseAlert_eq, Step.done, List.append_nil]
        exact .handedOut hlasted (.absent (by simpa using hattached))
  · rw [hgate, Step.broken_andThen]
    exact .outOfRange fault hshut

/-- What the desktop's part of a poll calls and leaves behind when it is not broken off. -/
theorem DesktopPoll.completed {s : Step (List AlarmRecord)} (h : e.DesktopPoll now order s)
    {batch : List AlarmRecord} (hfound : s.found = .ok batch) :
    s.calls = (if batch.isEmpty then [] else [.show batch]) ++
        (if e.lasted e.settings.desktop now then e.alertCalls else []) ∧
      s.engine.alarmSeen = e.alarmSeen ∧
      s.engine.alertActive =
        (e.alertActive || e.attached.alert && e.lasted e.settings.desktop now) := by
  cases h with
  | early hlasted =>
    cases hfound
    simp [Step.done, hlasted]
  | outOfRange | scanBroken => cases hfound
  | handedOut hlasted =>
    cases hfound
    simp [hlasted]

/-! ## The mail -/

/-- The ways in which the mail's part of a poll goes. -/
inductive EmailPoll (e : Engine) (now : Instant) : Step (List AlarmRecord) → Prop
  | idle : e.emailOpen now = false → EmailPoll e now (.done e [])
  | outOfRange (fault : Fault) : e.emailOpen now = false → EmailPoll e now (.broken e fault)
  | handedOut : e.emailOpen now = true →
      EmailPoll e now
        { engine := { e with store := e.store.emailBatch.2 }
          found := .ok e.store.emailBatch.1
          calls := if e.store.emailBatch.1.isEmpty then [] else [.send e.store.emailBatch.1] }

theorem emailPoll (hne : e.store.isEmpty = false) (now : Instant) :
    e.EmailPoll now (e.pollEmail now) := by
  unfold pollEmail
  by_cases hrole : e.settings.role = .server
  · rw [if_pos hrole]
    rcases gate_cases hne e.settings.email now with hgate | ⟨hshut, fault, hgate⟩
    · rw [hgate, Step.done_andThen]
      cases hlasted : e.lasted e.settings.email now with
      | false => exact .idle (by simp [emailOpen, hlasted])
      | true =>
        rw [if_pos rfl]
        unfold handOutEmail
        split
        · rename_i hattached
          exact .handedOut (by simp [emailOpen, hrole, hattached, hlasted])
        · rename_i hattached
          exact .idle (by simp [emailOpen, hattached])
    · rw [hgate, Step.broken_andThen]
      exact .outOfRange fault (by simp [emailOpen, hshut])
  · rw [if_neg hrole]
    exact .idle (by simp [emailOpen, hrole])

/-- What the mail's part of a poll calls and leaves behind when it is not broken off. -/
theorem EmailPoll.completed {s : Step (List AlarmRecord)} (h : e.EmailPoll now s)
    {mails : List AlarmRecord} (hfound : s.found = .ok mails) :
    s.calls = (if mails.isEmpty then [] else [.send mails]) ∧
      s.engine.alarmSeen = e.alarmSeen ∧ s.engine.alertActive = e.alertActive := by
  cases h with
  | idle =>
    cases hfound
    exact ⟨rfl, rfl, rfl⟩
  | outOfRange => cases hfound
  | handedOut =>
    cases hfound
    exact ⟨rfl, rfl, rfl⟩

/-! ## Both -/

/-- The ways in which a poll for notifications goes. -/
inductive NotificationPoll (e : Engine) (now : Instant) (order : ScanOrder) :
    Step NotificationTick → Prop
  | quiet : e.store.isEmpty = true → e.alarmSeen = false → NotificationPoll e now order (.done e {})
  | allClear : e.store.isEmpty = true → e.alarmSeen = true →
      NotificationPoll e now order
        { e.allClear with found := .ok ({ cleared := true } : NotificationTick) }
  | desktopBroken {desktop : Step (List AlarmRecord)} {fault : Fault} :
      e.store.isEmpty = false → DesktopPoll { e with alarmSeen := true } now order desktop →
      desktop.found = .error fault →
      NotificationPoll e now order { desktop with found := .error fault }
  | active {desktop email : Step (List AlarmRecord)} {batch : List AlarmRecord} :
      e.store.isEmpty = false → DesktopPoll { e with alarmSeen := true } now order desktop →
      desktop.found = .ok batch → EmailPoll desktop.engine now email →
      NotificationPoll e now order
        { engine := email.engine
          found := email.found.map fun mails => { desktop := batch, email := mails }
          calls := desktop.calls ++ email.calls
          logs := desktop.logs ++ email.logs }

theorem notificationPoll (e : Engine) (now : Instant) (order : ScanOrder) :
    e.NotificationPoll now order (e.pollNotifications now order) := by
  unfold pollNotifications
  split
  · rename_i hempty
    unfold pollEmpty
    split
    · rename_i hseen
      have hclear : (e.allClear.andThen fun e _ =>
          Step.done e ({ cleared := true } : NotificationTick)) =
            { e.allClear with found := .ok { cleared := true } } := by
        simp [Step.andThen, allClear, Step.done]
      rw [hclear]
      exact .allClear hempty hseen
    · rename_i hseen
      exact .quiet hempty (by simpa using hseen)
  · rename_i hne
    have hne : e.store.isEmpty = false := by simpa using hne
    have hseen : ({ e with alarmSeen := true } : Engine).store.isEmpty = false := hne
    have hdesktop := desktopPoll hseen now order
    have hkept :
        (pollDesktop { e with alarmSeen := true } now order).engine.store.isEmpty = false :=
      (pollDesktop_within (.refl _) now order).engine.isEmpty.trans hne
    unfold pollActive
    generalize pollDesktop { e with alarmSeen := true } now order = desktop at hdesktop hkept
    cases hfound : desktop.found with
    | error fault =>
      simp only [Step.andThen, hfound]
      exact .desktopBroken hne hdesktop hfound
    | ok batch =>
      have hemail := emailPoll hkept now
      generalize hstep : desktop.engine.pollEmail now = email at hemail
      have hboth : (desktop.andThen fun e desktop => (e.pollEmail now).andThen fun e email =>
          Step.done e ({ desktop, email } : NotificationTick)) =
            { engine := email.engine
              found := email.found.map fun mails => { desktop := batch, email := mails }
              calls := desktop.calls ++ email.calls
              logs := desktop.logs ++ email.logs } := by
        cases hmails : email.found <;>
          simp [Step.andThen, hfound, hstep, hmails, Step.done, Except.map]
      rw [hboth]
      exact .active hne hdesktop hfound hemail

theorem found_mails {found : Except Fault (List AlarmRecord)} {batch : List AlarmRecord}
    {tick : NotificationTick}
    (h : (found.map fun mails => ({ desktop := batch, email := mails } : NotificationTick)) =
      .ok tick) :
    ∃ mails, found = .ok mails ∧ tick = { desktop := batch, email := mails } := by
  cases found with
  | error fault => cases h
  | ok mails =>
    cases h
    exact ⟨mails, rfl, rfl⟩

/-- What a poll with this tick calls. -/
def tickCalls (e : Engine) (now : Instant) (tick : NotificationTick) : List Call :=
  if e.store.isEmpty then if e.alarmSeen then e.allClear.calls else []
  else
    (if tick.desktop.isEmpty then [] else [.show tick.desktop]) ++
      (if e.lasted e.settings.desktop now then e.alertCalls else []) ++
      (if tick.email.isEmpty then [] else [.send tick.email])

/-- The sustained alert behind a poll. -/
def alertAfter (e : Engine) (now : Instant) : Bool :=
  if e.store.isEmpty then e.alertActive && !e.alarmSeen
  else e.alertActive || e.attached.alert && e.lasted e.settings.desktop now

/-- What a poll calls and remembers when it is not broken off. -/
theorem NotificationPoll.completed {s : Step NotificationTick} (h : e.NotificationPoll now order s)
    {tick : NotificationTick} (hfound : s.found = .ok tick) :
    s.calls = e.tickCalls now tick ∧ s.engine.alarmSeen = !e.store.isEmpty ∧
      s.engine.alertActive = e.alertAfter now := by
  cases h with
  | quiet hempty hseen => simp [Step.done, tickCalls, alertAfter, hempty, hseen]
  | allClear hempty hseen =>
    simp [tickCalls, alertAfter, hempty, hseen, Engine.allClear]
  | desktopBroken => cases hfound
  | @active desktop email batch hne hdesktop hbatch hemail =>
    obtain ⟨mails, hmails, rfl⟩ := found_mails hfound
    obtain ⟨hshow, hseen, halert⟩ := hdesktop.completed hbatch
    obtain ⟨hsend, hseen', halert'⟩ := hemail.completed hmails
    refine ⟨?_, ?_, ?_⟩
    · rw [tickCalls, if_neg (by simp [hne]), hshow, hsend]
      rfl
    · rw [hseen', hseen, hne]
      rfl
    · rw [alertAfter, if_neg (by simp [hne]), halert', halert]
      rfl

end Engine

end AlarmEscalation
