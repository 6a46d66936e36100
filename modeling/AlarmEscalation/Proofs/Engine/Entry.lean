import AlarmEscalation.Proofs.Engine.AtMostOnce

/-! # The marks that an alarm is entered with

A new alarm is entered as the event has it, with the marks that the event may carry from elsewhere.
Polls set further marks, but only on alarms that they find due. So the first poll that finds an
alarm due on a channel announces it there exactly if the event came without the mark, and if the
poll gets so far. -/
namespace AlarmEscalation

theorem AlarmStore.get?_of_inserted {s : AlarmStore} {event : AlarmRecord}
    (h : (s.ingest event).1 = .inserted) : (s.ingest event).2.get? event.id = some event := by
  have hingested := s.ingested event
  generalize s.ingest event = result at hingested h
  cases hingested with
  | inserted => simp [get?, Roster.get?_put]
  | ignored | removed | updated | stale => cases h

namespace Engine

variable {e : Engine} {now : Instant} {order : ScanOrder} {c : Channel} {id : String}
  {r : AlarmRecord}

/-! ## What a poll finds due -/

/-- Whether a poll announces an alarm on a channel that has not been announced there. -/
def dueOn (e : Engine) (now : Instant) (c : Channel) (r : AlarmRecord) : Bool :=
  match c with
  | .desktop => e.desktopOpen now && e.isDue now r
  | .mail => e.emailOpen now
  | .relay | .alert => false

/-- The poll is not broken off at the desktop, which comes first. -/
def desktopEnds (e : Engine) (now : Instant) (order : ScanOrder) : Bool :=
  (pollDesktop { e with alarmSeen := true } now order).found.isOk

/-- A poll, broken off or not, does nothing to a record but mark it where it is due. -/
structure MarksDue (e : Engine) (now : Instant) (id : String) (desktop email : Bool)
    (after : Engine) : Prop where
  record : after.store.get? id = (e.store.get? id).map (·.marked desktop email)
  desktop : desktop = true → (e.store.get? id).any (e.dueOn now .desktop) = true
  mail : email = true → e.emailOpen now = true
  later : after.emailOpen now = e.emailOpen now

theorem DesktopPoll.marksDue {s : Step (List AlarmRecord)} (h : e.DesktopPoll now order s)
    (id : String) : ∃ desktop, MarksDue e now id desktop false s.engine := by
  have hbatch : e.attached.desktop = true → e.lasted e.settings.desktop now = true →
      ∃ desktop, MarksDue e now id desktop false
        { e with
          store := (e.store.desktopBatch now (timeoutSpan e.settings.desktop) order).2 } := by
    intro hattached hlasted
    obtain ⟨b, hrecord, hdue⟩ :=
      e.store.get?_desktopBatch_due now (timeoutSpan e.settings.desktop) order id
    refine ⟨b, hrecord, ?_, Bool.noConfusion, rfl⟩
    intro hb
    have hdueOn : e.dueOn now .desktop =
        fun r => r.triggerTime.isDue (timeoutSpan e.settings.desktop) now := by
      funext r
      simp [dueOn, isDue, desktopOpen, hattached, hlasted]
    rw [hdueOn]
    exact hdue hb
  have hsame : MarksDue e now id false false e :=
    ⟨by simp, Bool.noConfusion, Bool.noConfusion, rfl⟩
  cases h with
  | early | outOfRange => exact ⟨false, hsame⟩
  | scanBroken _ hlasted hattached => exact hbatch hattached hlasted
  | handedOut hlasted hshown =>
    cases hshown with
    | attached batch hattached =>
      obtain ⟨desktop, hrecord, hdue, hmail, hlater⟩ := hbatch hattached hlasted
      exact ⟨desktop, hrecord, hdue, hmail, hlater⟩
    | absent =>
      obtain ⟨hrecord, hdue, hmail, hlater⟩ := hsame
      exact ⟨false, hrecord, hdue, hmail, hlater⟩

theorem EmailPoll.marksDue {s : Step (List AlarmRecord)} (h : e.EmailPoll now s) (id : String) :
    ∃ email, MarksDue e now id false email s.engine := by
  cases h with
  | idle | outOfRange =>
    exact ⟨false, by simp [Step.done, Step.broken], Bool.noConfusion, Bool.noConfusion, rfl⟩
  | handedOut hopen =>
    exact ⟨true, e.store.get?_emailBatch id, Bool.noConfusion, fun _ => hopen, rfl⟩

theorem marksDue_pollNotifications (e : Engine) (now : Instant) (order : ScanOrder) (id : String) :
    ∃ desktop email, MarksDue e now id desktop email (e.pollNotifications now order).engine := by
  have hpoll := e.notificationPoll now order
  generalize e.pollNotifications now order = s at hpoll
  cases hpoll with
  | quiet | allClear =>
    exact ⟨false, false, by simp [Step.done, allClear], Bool.noConfusion, Bool.noConfusion, rfl⟩
  | desktopBroken _ hdesktop =>
    obtain ⟨desktop, hrecord, hdue, hmail, hlater⟩ := hdesktop.marksDue id
    exact ⟨desktop, false, hrecord, hdue, hmail, hlater⟩
  | active _ hdesktop _ hemail =>
    obtain ⟨desktop, hrecord, hdue, -, hlater⟩ := hdesktop.marksDue id
    obtain ⟨email, hrecord', -, hmail', hlater'⟩ := hemail.marksDue id
    refine ⟨desktop, email, ?_, hdue, fun hmark => hlater ▸ hmail' hmark, hlater'.trans hlater⟩
    dsimp only at hrecord hrecord' ⊢
    rw [hrecord', hrecord, Option.map_map]
    congr 1
    funext r
    simp

/-- What a poll does not find due on a channel keeps the mark that it has there. -/
theorem MarksDue.notified {desktop email : Bool} {after : Engine}
    (h : MarksDue e now id desktop email after) (hr : e.store.get? id = some r)
    (hdue : e.dueOn now c r = false) : (r.marked desktop email).notified c = r.notified c := by
  have hdesktop := h.desktop
  rw [hr, Option.any_some] at hdesktop
  cases c with
  | relay | alert => rfl
  | desktop =>
    cases desktop with
    | false => simp [AlarmRecord.notified, AlarmRecord.marked]
    | true => rw [hdesktop rfl] at hdue; cases hdue
  | mail =>
    cases email with
    | false => simp [AlarmRecord.notified, AlarmRecord.marked]
    | true =>
      have hopen : e.dueOn now .mail r = true := h.mail rfl
      rw [hopen] at hdue
      cases hdue

/-! ## What a poll announces of it -/

theorem DesktopPoll.mem_announcedOn_iff {s : Step (List AlarmRecord)}
    (h : e.DesktopPoll now order s) (hr : e.store.get? id = some r)
    (hdue : e.dueOn now .desktop r = true) :
    id ∈ announcedOn .desktop s.calls ↔ r.desktopNotified = false ∧ s.found.isOk = true := by
  obtain ⟨hopen, hdue⟩ := Bool.and_eq_true_iff.mp hdue
  obtain ⟨hattached, hlasted⟩ := Bool.and_eq_true_iff.mp hopen
  cases h with
  | early hearly | outOfRange _ hearly =>
    rw [hlasted] at hearly
    cases hearly
  | scanBroken => simp [Step.broken, announcedOn, Except.isOk, Except.toBool]
  | handedOut _ hshown =>
    rw [announcedOn_append, announcedOn_show, announcedOn_alertCalls, List.append_nil, if_pos rfl]
    cases hshown with
    | absent habsent =>
      rw [hattached] at habsent
      cases habsent
    | attached batch _ hbatch =>
      have hrange := AlarmStore.inRange_of_desktopBatch hbatch
      have heq := hbatch.symm.trans (AlarmStore.desktopBatch_of_inRange now hrange)
      cases heq
      have hdue : r.triggerTime.isDue (timeoutSpan e.settings.desktop) now = true := hdue
      rw [AlarmStore.mem_selected_iff _ _ AlarmRecord.markDesktop_id, hr, Option.any_some, hdue]
      simp [Except.isOk, Except.toBool]

theorem EmailPoll.mem_announcedOn_iff {s : Step (List AlarmRecord)} (h : e.EmailPoll now s)
    (hr : e.store.get? id = some r) (hopen : e.emailOpen now = true) :
    id ∈ announcedOn .mail s.calls ↔ r.emailNotified = false := by
  cases h with
  | idle hidle | outOfRange _ hidle =>
    rw [hopen] at hidle
    cases hidle
  | handedOut =>
    have hbatch : e.store.emailBatch.1 =
        (e.store.snapshot.filter fun r => !r.emailNotified).map AlarmRecord.markEmail := rfl
    rw [announcedOn_send, if_pos rfl, hbatch,
      AlarmStore.mem_selected_iff _ _ AlarmRecord.markEmail_id, hr, Option.any_some]
    simp

theorem DesktopPoll.announcedOn_mail {s : Step (List AlarmRecord)} (h : e.DesktopPoll now order s) :
    announcedOn .mail s.calls = [] := by
  cases h with
  | early | outOfRange | scanBroken => rfl
  | handedOut =>
    rw [announcedOn_append, announcedOn_show, announcedOn_alertCalls]
    rfl

theorem EmailPoll.announcedOn_desktop {s : Step (List AlarmRecord)} (h : e.EmailPoll now s) :
    announcedOn .desktop s.calls = [] := by
  cases h with
  | idle | outOfRange => rfl
  | handedOut =>
    rw [announcedOn_send]
    rfl

theorem calls_pollNotifications (hne : e.store.isEmpty = false) (now : Instant) :
    (e.pollNotifications now order).calls =
      (pollDesktop { e with alarmSeen := true } now order).calls ++
      if e.desktopEnds now order then
        ((pollDesktop { e with alarmSeen := true } now order).engine.pollEmail now).calls
      else [] := by
  unfold pollNotifications pollActive desktopEnds
  rw [if_neg (by simp [hne])]
  generalize pollDesktop { e with alarmSeen := true } now order = desktop
  unfold Step.andThen
  cases desktop.found with
  | error fault => simp [Except.isOk, Except.toBool]
  | ok batch =>
    dsimp only
    cases (desktop.engine.pollEmail now).found <;> simp [Except.isOk, Except.toBool, Step.done]

/-- What a poll finds due is announced if it has no mark yet and the poll gets so far. -/
theorem mem_announcedOn_iff (hr : e.store.get? id = some r) (hdue : e.dueOn now c r = true) :
    id ∈ announcedOn c (e.pollNotifications now order).calls ↔
      r.notified c = false ∧ e.desktopEnds now order = true := by
  have hne := e.store.isEmpty_of_get? hr
  have hseen : ({ e with alarmSeen := true } : Engine).store.isEmpty = false := hne
  have hdesktop := desktopPoll hseen now order
  have hkept : (pollDesktop { e with alarmSeen := true } now order).engine.store.isEmpty = false :=
    (pollDesktop_within (.refl _) now order).engine.isEmpty.trans hne
  have hemail := emailPoll hkept now
  rw [calls_pollNotifications hne, announcedOn_append]
  cases c with
  | relay | alert => cases hdue
  | desktop =>
    have hnone : announcedOn .desktop (if e.desktopEnds now order then
        ((pollDesktop { e with alarmSeen := true } now order).engine.pollEmail now).calls
      else []) = [] := by
      split
      · exact hemail.announcedOn_desktop
      · rfl
    rw [hnone, List.append_nil]
    exact hdesktop.mem_announcedOn_iff hr hdue
  | mail =>
    obtain ⟨desktop, hmarks⟩ := hdesktop.marksDue id
    have hrecord := hmarks.record
    have hr' : ({ e with alarmSeen := true } : Engine).store.get? id = some r := hr
    rw [hr', Option.map_some] at hrecord
    rw [hdesktop.announcedOn_mail, List.nil_append]
    cases hends : e.desktopEnds now order with
    | false => simp [announcedOn]
    | true =>
      rw [if_pos rfl, hemail.mem_announcedOn_iff hrecord (hmarks.later.trans hdue)]
      simp [AlarmRecord.notified, AlarmRecord.marked]

/-! ## A whole run -/

namespace Moment

/-- The event by which the alarm is entered as a new one. -/
def entered? (id : String) (m : Moment) : Option AlarmRecord :=
  match m.action with
  | .ingest event => if m.inserts id then some event else none
  | .pollNotifications _ _ _ | .pollFlashlight _ _ | .start _ | .shutdown _ => none

/-- A poll finds the alarm due on a channel. -/
def findsDue (c : Channel) (id : String) (m : Moment) : Bool :=
  match m.action with
  | .pollNotifications now _ _ => (m.before.store.get? id).any (m.before.dueOn now c)
  | .ingest _ | .pollFlashlight _ _ | .start _ | .shutdown _ => false

theorem inserts_of_entered? {m : Moment} {event : AlarmRecord} (h : m.entered? id = some event) :
    m.inserts id = true := by
  obtain ⟨e, a⟩ := m
  cases a with
  | ingest event =>
    by_contra hno
    simp [entered?, hno] at h
  | pollNotifications | pollFlashlight | start | shutdown => cases h

theorem entered?_of_not_inserts {m : Moment} (h : m.inserts id = false) : m.entered? id = none := by
  cases hentered : m.entered? id with
  | none => rfl
  | some event =>
    rw [inserts_of_entered? hentered] at h
    cases h

end Moment

/-- The event by which the alarm was last entered as a new one. -/
def lastEntered? (id : String) (past : List Moment) : Option AlarmRecord :=
  past.reverse.findSome? (Moment.entered? id)

/-- Whether a poll has found the alarm due on a channel since it was last entered. -/
def foundDue (c : Channel) (id : String) : List Moment → Bool :=
  since (Moment.inserts id) (Moment.findsDue c id)

theorem lastEntered?_concat (id : String) (past : List Moment) (m : Moment) :
    lastEntered? id (past ++ [m]) = (m.entered? id).or (lastEntered? id past) := by
  unfold lastEntered?
  rw [List.reverse_concat, List.findSome?_cons]
  cases m.entered? id <;> rfl

theorem foundDue_concat (c : Channel) (id : String) (past : List Moment) (m : Moment) :
    foundDue c id (past ++ [m]) = (!m.inserts id && (foundDue c id past || m.findsDue c id)) :=
  since_concat _ _ past m

/-- Every record has the marks that it was entered with where no poll has found it due. -/
def Keeps (past : List Moment) (e : Engine) : Prop :=
  ∀ id r, e.store.get? id = some r → ∃ event, lastEntered? id past = some event ∧
    ∀ c, foundDue c id past = false → r.notified c = event.notified c

variable {past : List Moment}

/-- A moment that does not enter the alarm and changes no mark of it where it is not found due. -/
theorem Keeps.concat (h : Keeps past e) {m : Moment} (hno : m.inserts id = false) {r0 : AlarmRecord}
    (hr0 : e.store.get? id = some r0)
    (hmarks : ∀ c, m.findsDue c id = false → r.notified c = r0.notified c) :
    ∃ event, lastEntered? id (past ++ [m]) = some event ∧
      ∀ c, foundDue c id (past ++ [m]) = false → r.notified c = event.notified c := by
  obtain ⟨event, hentry, hkept⟩ := h id r0 hr0
  refine ⟨event, ?_, ?_⟩
  · rw [lastEntered?_concat, Moment.entered?_of_not_inserts hno, hentry]
    rfl
  · intro c hfound
    rw [foundDue_concat, hno, Bool.not_false, Bool.true_and, Bool.or_eq_false_iff] at hfound
    exact (hmarks c hfound.2).trans (hkept c hfound.1)

theorem Keeps.ingest (h : Keeps past e) (event : AlarmRecord) :
    Keeps (past ++ [⟨e, .ingest event⟩]) (e.act (.ingest event)).engine := by
  intro id r hr
  have hr : (e.store.ingest event).2.get? id = some r := by
    rw [← e.store_ingest event]
    exact hr
  rcases e.store.get?_ingest_cases event hr with ⟨hins, -, rfl⟩ | ⟨hins, r0, hr0, hkept⟩
  · have hinserts : Moment.inserts id ⟨e, .ingest r⟩ = true := by simp [Moment.inserts, hins]
    have hentered : Moment.entered? id ⟨e, .ingest r⟩ = some r := if_pos hinserts
    refine ⟨r, ?_, fun _ _ => rfl⟩
    rw [lastEntered?_concat, hentered]
    rfl
  · have hno : Moment.inserts id ⟨e, .ingest event⟩ = false := by
      simpa [Moment.inserts, and_comm] using hins
    refine h.concat hno hr0 ?_
    intro c _
    rcases hkept with rfl | rfl
    · rfl
    · exact r0.notified_updated event c

theorem Keeps.poll (h : Keeps past e) (now : Instant) (fate : Call → CallOutcome)
    (order : ScanOrder) : Keeps (past ++ [⟨e, .pollNotifications now fate order⟩])
      (e.act (.pollNotifications now fate order)).engine := by
  intro id r hr
  have hr : (e.pollNotifications now order).engine.store.get? id = some r := hr
  obtain ⟨desktop, email, hmarks⟩ := e.marksDue_pollNotifications now order id
  rw [hmarks.record] at hr
  obtain ⟨r0, hr0, rfl⟩ := Option.map_eq_some_iff.mp hr
  refine h.concat rfl hr0 ?_
  intro c hdue
  have hdue : (e.store.get? id).any (e.dueOn now c) = false := hdue
  rw [hr0, Option.any_some] at hdue
  exact hmarks.notified hr0 hdue

theorem Keeps.step (h : Keeps past e) (a : Action) :
    Keeps (past ++ [⟨e, a⟩]) (e.act a).engine := by
  have aside : (∀ id, Moment.inserts id ⟨e, a⟩ = false) →
      (e.act a).engine.store = e.store → Keeps (past ++ [⟨e, a⟩]) (e.act a).engine := by
    intro hno hstore id r hr
    rw [hstore] at hr
    exact h.concat (hno id) hr fun _ _ => rfl
  have hmoved := e.moved a
  cases a with
  | ingest event => exact h.ingest event
  | pollNotifications now fate order => exact h.poll now fate order
  | pollFlashlight | start | shutdown =>
    refine aside (fun _ => rfl) ?_
    generalize (e.act _).engine = after at hmoved
    cases hmoved
    rfl

theorem keeps {settings : EngineSettings} {attached : Attached}
    (built : build settings attached = .ok e) (actions : List Action) :
    Keeps (e.history actions) (e.afterAll actions) := by
  have base : Keeps [] e := by
    rw [eq_of_build built]
    intro id r hr
    cases hr
  exact run_induction base (fun _ _ a (_ : True) h => h.step a) fun _ _ => trivial

/-- **A new alarm is announced when it is first due, unless it comes with the mark.** Along every
run of a built engine, whatever its events, its clock, the outcomes of its calls and the orders in
which its polls come by the alarms: an event that is answered with inserted is the record of its
alarm, marks included. The first poll since then that finds the alarm due on a channel announces it
there exactly if the event had no mark for the channel, and if the poll is not broken off at the
desktop. -/
theorem announced_when_first_due {settings : EngineSettings} {attached : Attached}
    (built : build settings attached = .ok e) (actions : List Action) :
    (∀ event, ((e.afterAll actions).ingest event).1 = .inserted →
      ((e.afterAll actions).ingest event).2.store.get? event.id = some event) ∧
    ∀ c id r now order, (e.afterAll actions).store.get? id = some r →
      (e.afterAll actions).dueOn now c r = true → foundDue c id (e.history actions) = false →
      ∃ event, lastEntered? id (e.history actions) = some event ∧
        (id ∈ announcedOn c ((e.afterAll actions).pollNotifications now order).calls ↔
          event.notified c = false ∧ (e.afterAll actions).desktopEnds now order = true) := by
  refine ⟨?_, ?_⟩
  · intro event hinserted
    rw [store_ingest]
    exact AlarmStore.get?_of_inserted hinserted
  · intro c id r now order hr hdue hfirst
    obtain ⟨event, hentry, hkept⟩ := keeps built actions id r hr
    refine ⟨event, hentry, ?_⟩
    rw [mem_announcedOn_iff hr hdue, hkept c hfirst]

/-- An alarm that is too young at the first poll. -/
def ripening : List Action :=
  [.ingest ⟨"PV1", "MAJOR", "HIHI", .ofSecond 100, false, false⟩,
    .pollNotifications (.ofSecond 103) fun _ => .done]

theorem announced_when_first_due_ripening :
    foundDue .desktop "PV1" (station.history ripening) = false ∧
    "PV1" ∈ announcedOn .desktop
      ((station.afterAll ripening).pollNotifications (.ofSecond 105)).calls := by
  have built : build station.settings station.attached = .ok station := by decide
  have hfirst : foundDue .desktop "PV1" (station.history ripening) = false := by decide
  obtain ⟨event, hentry, hannounced⟩ := (announced_when_first_due built ripening).2 .desktop "PV1"
    ⟨"PV1", "MAJOR", "HIHI", .ofSecond 100, false, false⟩ (.ofSecond 105) .ascending
    (by decide) (by decide) hfirst
  have hevent : lastEntered? "PV1" (station.history ripening) =
      some ⟨"PV1", "MAJOR", "HIHI", .ofSecond 100, false, false⟩ := by decide
  rw [hevent] at hentry
  cases hentry
  exact ⟨hfirst, hannounced.mpr ⟨by decide, by decide⟩⟩

/-- A record as it was handed out for the mail is an event again when its alarm is over. -/
def handedBack : List Action :=
  [.ingest ⟨"PV1", "MAJOR", "HIHI", .ofSecond 100, false, false⟩,
    .pollNotifications (.ofSecond 121) fun _ => .done,
    .ingest ⟨"PV1", "OK", "NO_ALARM", .ofSecond 122, false, false⟩,
    .ingest ⟨"PV1", "MAJOR", "HIHI", .ofSecond 100, true, true⟩]

/-- A desktop with popups after five seconds. -/
def popups : Engine :=
  { settings := { role := .desktop, desktop := 5 }, attached := { desktop := true } }

/-- A second alarm has a deadline that is not a time. -/
def besideStray : List Action :=
  [.ingest ⟨"A", "MAJOR", "HIHI", .ofSecond 0, false, false⟩,
    .ingest ⟨"T", "MAJOR", "HIHI", .ofSecond 8210266876799, false, false⟩]

/-- New alarms are not always announced when they are first due: not one that comes with its marks,
and not one whose poll is broken off. -/
theorem not_announced_of_handedBack :
    ((station.afterAll (handedBack.take 1)).pollNotifications (.ofSecond 121)).calls.flatMap
        (Call.announces .mail) = [⟨"PV1", "MAJOR", "HIHI", .ofSecond 100, true, true⟩] ∧
    ((station.afterAll (handedBack.take 3)).ingest
      ⟨"PV1", "MAJOR", "HIHI", .ofSecond 100, true, true⟩).1 = .inserted ∧
    (station.afterAll handedBack).store.get? "PV1" =
      some ⟨"PV1", "MAJOR", "HIHI", .ofSecond 100, true, true⟩ ∧
    (∀ c ∈ [Channel.desktop, .mail], foundDue c "PV1" (station.history handedBack) = false ∧
      ((station.afterAll handedBack).store.get? "PV1").any
        ((station.afterAll handedBack).dueOn (.ofSecond 200) c) = true) ∧
    ((station.afterAll handedBack).pollNotifications (.ofSecond 200)).calls = [] ∧
    foundDue .desktop "A" (popups.history besideStray) = false ∧
    ((popups.afterAll besideStray).store.get? "A").any
      ((popups.afterAll besideStray).dueOn (.ofSecond 100) .desktop) = true ∧
    ((popups.afterAll besideStray).pollNotifications (.ofSecond 100)).calls = [] := by
  have hdue : ∀ c ∈ [Channel.desktop, .mail],
      foundDue c "PV1" (station.history handedBack) = false ∧
        ((station.afterAll handedBack).store.get? "PV1").any
          ((station.afterAll handedBack).dueOn (.ofSecond 200) c) = true := by decide
  exact ⟨by decide, by decide, by decide, hdue, by decide, by decide, by decide, by decide⟩

end Engine

end AlarmEscalation
