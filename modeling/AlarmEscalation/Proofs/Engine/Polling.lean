import AlarmEscalation.Proofs.Engine.Frame

/-! # A poll for notifications that is not broken off

As long as every deadline that a poll looks at is a time that exists, the poll comes to its end, and
what it hands out is read off the store that it finds: `SumsInRange.yields`. -/
namespace AlarmEscalation

namespace Call

/-- The alarms that a call shows on the desktop. -/
def shown? : Call → Option (List AlarmRecord)
  | .show batch => some batch
  | _ => none

/-- The alarms that a call sends by e-mail. -/
def sent? : Call → Option (List AlarmRecord)
  | .send batch => some batch
  | _ => none

end Call

/-- Every deadline that a poll looks at for a timeout is a time that exists. -/
structure AlarmStore.Deadlines (s : AlarmStore) (timeout : Span) : Prop where
  oldest : ∀ t, s.oldest = some t → (t.shift? timeout).isSome
  records : s.InRange timeout

namespace Engine

/-- What a step found, the records it left behind, and the batches of the calls it made. -/
structure Step.Yields {α : Type} (s : Step α) (a : α) (records : List AlarmRecord)
    (shown sent : List (List AlarmRecord)) : Prop where
  found : s.found = .ok a
  records : s.engine.store.snapshot = records
  shown : s.calls.filterMap Call.shown? = shown
  sent : s.calls.filterMap Call.sent? = sent

theorem Step.yields_done {α : Type} (e : Engine) (a : α) :
    (Step.done e a).Yields a e.store.snapshot [] [] :=
  ⟨rfl, rfl, rfl, rfl⟩

theorem Step.Yields.andThen {α β : Type} {s : Step α} {a : α} {b : β}
    {records records' : List AlarmRecord} {shown sent shown' sent' : List (List AlarmRecord)}
    {next : Engine → α → Step β} (hs : s.Yields a records shown sent)
    (hnext : (next s.engine a).Yields b records' shown' sent') :
    (s.andThen next).Yields b records' (shown ++ shown') (sent ++ sent') := by
  unfold Step.andThen
  rw [hs.found]
  refine ⟨hnext.found, hnext.records, ?_, ?_⟩
  · rw [List.filterMap_append, hs.shown, hnext.shown]
  · rw [List.filterMap_append, hs.sent, hnext.sent]

/-- A batch is announced by one call, an empty one by none. -/
def announced (batch : List AlarmRecord) : List (List AlarmRecord) :=
  if batch.isEmpty then [] else [batch]

theorem shown_of_announce (batch : List AlarmRecord) :
    (if batch.isEmpty then [] else [Call.show batch]).filterMap Call.shown? = announced batch ∧
      (if batch.isEmpty then [] else [Call.show batch]).filterMap Call.sent? = [] := by
  cases h : batch.isEmpty <;> simp [announced, h, Call.shown?, Call.sent?]

theorem sent_of_announce (batch : List AlarmRecord) :
    (if batch.isEmpty then [] else [Call.send batch]).filterMap Call.shown? = [] ∧
      (if batch.isEmpty then [] else [Call.send batch]).filterMap Call.sent? = announced batch := by
  cases h : batch.isEmpty <;> simp [announced, h, Call.shown?, Call.sent?]

/-! ## What is due -/

/-- The timeout is not 0, and the episode has lasted for it. -/
def lasted (e : Engine) (timeout : UInt32) (now : Instant) : Bool :=
  timeout ≠ 0 && e.store.oldest.any fun t => t.isDue (timeoutSpan timeout) now

def desktopOpen (e : Engine) (now : Instant) : Bool :=
  e.attached.desktop && e.lasted e.settings.desktop now

def emailOpen (e : Engine) (now : Instant) : Bool :=
  decide (e.settings.role = .server) && e.attached.mail && e.lasted e.settings.email now

/-- Whether an alarm is old enough for the desktop. -/
def isDue (e : Engine) (now : Instant) (r : AlarmRecord) : Bool :=
  r.triggerTime.isDue (timeoutSpan e.settings.desktop) now

/-- A record as a poll leaves it. -/
def marking (e : Engine) (now : Instant) (r : AlarmRecord) : AlarmRecord :=
  r.marked (e.desktopOpen now && e.isDue now r) (e.emailOpen now)

def desktopDue (e : Engine) (now : Instant) : List AlarmRecord :=
  if e.desktopOpen now then
    (e.store.snapshot.filter fun r => e.isDue now r && !r.desktopNotified).map .markDesktop
  else []

def emailDue (e : Engine) (now : Instant) : List AlarmRecord :=
  if e.emailOpen now then (e.store.snapshot.filter fun r => !r.emailNotified).map (e.marking now)
  else []

variable {e : Engine} {now : Instant} {order : ScanOrder}

/-- The deadline that a gate looks at is a time that exists. -/
def GateInRange (e : Engine) (timeout : UInt32) : Prop :=
  timeout ≠ 0 → ∀ t, e.store.oldest = some t → (t.shift? (timeoutSpan timeout)).isSome

theorem GateInRange.of_deadlines {timeout : UInt32}
    (h : e.store.Deadlines (timeoutSpan timeout)) : e.GateInRange timeout :=
  fun _ => h.oldest

theorem gate_of_inRange {timeout : UInt32} (hne : e.store.isEmpty = false)
    (h : e.GateInRange timeout) : e.gate timeout now = .done e (e.lasted timeout now) := by
  unfold gate lasted
  split
  · rename_i hzero
    simp [hzero]
  · rename_i hzero
    simp only [AlarmStore.episodeElapsed, hne]
    cases ho : e.store.oldest with
    | none => simp
    | some t => simp [Instant.due?_of_inRange (h hzero t ho), hzero]

/-! ## The desktop -/

theorem handOutDesktop_yields (hattached : e.attached.desktop = true)
    (h : e.store.InRange (timeoutSpan e.settings.desktop)) :
    (e.handOutDesktop now order).Yields
      ((e.store.snapshot.filter fun r => e.isDue now r && !r.desktopNotified).map .markDesktop)
      (e.store.snapshot.map fun r => r.marked (e.isDue now r) false)
      (announced
        ((e.store.snapshot.filter fun r => e.isDue now r && !r.desktopNotified).map .markDesktop))
      [] := by
  unfold handOutDesktop
  rw [if_pos hattached]
  simp only [AlarmStore.desktopBatch_of_inRange now h]
  exact ⟨rfl, AlarmStore.snapshot_desktopBatch_of_inRange now h, (shown_of_announce _).1,
    (shown_of_announce _).2⟩

theorem raiseAlert_yields (e : Engine) (batch : List AlarmRecord) :
    (e.raiseAlert.andThen fun e _ => .done e batch).Yields batch e.store.snapshot [] [] := by
  unfold raiseAlert
  split
  · exact ⟨rfl, rfl, rfl, rfl⟩
  · exact Step.yields_done e batch

theorem pollDesktop_yields_of_inRange (hne : e.store.isEmpty = false)
    (hgate : e.GateInRange e.settings.desktop)
    (hrecords : e.desktopOpen now = true → e.store.InRange (timeoutSpan e.settings.desktop)) :
    (e.pollDesktop now order).Yields (e.desktopDue now)
      (e.store.snapshot.map fun r => r.marked (e.desktopOpen now && e.isDue now r) false)
      (announced (e.desktopDue now)) [] := by
  unfold pollDesktop desktopDue
  rw [gate_of_inRange hne hgate, Step.done_andThen]
  unfold desktopOpen at hrecords ⊢
  cases hlasted : e.lasted e.settings.desktop now with
  | false => simpa [announced] using Step.yields_done e []
  | true =>
    cases hattached : e.attached.desktop with
    | false => simpa [handOutDesktop, hattached, announced] using raiseAlert_yields e []
    | true =>
      have hbatch : (e.handOutDesktop now order).Yields _ _ _ _ :=
        handOutDesktop_yields hattached (hrecords (by simp [hattached, hlasted]))
      have halert := raiseAlert_yields (e.handOutDesktop now order).engine
        ((e.store.snapshot.filter fun r => e.isDue now r && !r.desktopNotified).map .markDesktop)
      rw [hbatch.records] at halert
      have hboth : ((e.handOutDesktop now order).andThen fun e batch =>
          e.raiseAlert.andThen fun e _ => .done e batch).Yields _ _ _ _ := hbatch.andThen halert
      simpa using hboth

theorem pollDesktop_yields (hne : e.store.isEmpty = false)
    (h : e.store.Deadlines (timeoutSpan e.settings.desktop)) :
    (e.pollDesktop now order).Yields (e.desktopDue now)
      (e.store.snapshot.map fun r => r.marked (e.desktopOpen now && e.isDue now r) false)
      (announced (e.desktopDue now)) [] :=
  pollDesktop_yields_of_inRange hne (.of_deadlines h) fun _ => h.records

/-! ## The mail -/

theorem handOutEmail_yields (hattached : e.attached.mail = true) :
    e.handOutEmail.Yields ((e.store.snapshot.filter fun r => !r.emailNotified).map .markEmail)
      (e.store.snapshot.map (·.marked false true)) []
      (announced ((e.store.snapshot.filter fun r => !r.emailNotified).map .markEmail)) := by
  unfold handOutEmail
  rw [if_pos hattached]
  exact ⟨rfl, e.store.snapshot_emailBatch, (sent_of_announce _).1, (sent_of_announce _).2⟩

theorem pollEmail_yields (hne : e.store.isEmpty = false)
    (h : e.settings.role = .server → e.GateInRange e.settings.email) :
    (e.pollEmail now).Yields
      (if e.emailOpen now then (e.store.snapshot.filter fun r => !r.emailNotified).map .markEmail
        else [])
      (e.store.snapshot.map (·.marked false (e.emailOpen now))) []
      (announced (if e.emailOpen now then
        (e.store.snapshot.filter fun r => !r.emailNotified).map .markEmail else [])) := by
  unfold pollEmail emailOpen
  by_cases hrole : e.settings.role = .server
  · rw [if_pos hrole, gate_of_inRange hne (h hrole), Step.done_andThen]
    cases hlasted : e.lasted e.settings.email now with
    | false => simpa [announced] using Step.yields_done e []
    | true =>
      cases hattached : e.attached.mail with
      | false => simpa [handOutEmail, hattached, announced] using Step.yields_done e []
      | true => simpa [hrole] using handOutEmail_yields hattached
  · simpa [hrole, announced] using Step.yields_done e []

/-! ## The poll -/

section Polled
variable {after : Engine} (h : Polled e after)
include h

theorem Polled.lasted (timeout : UInt32) (now : Instant) :
    after.lasted timeout now = e.lasted timeout now := by
  unfold Engine.lasted
  rw [h.oldest]

theorem Polled.desktopOpen : after.desktopOpen now = e.desktopOpen now := by
  unfold Engine.desktopOpen
  rw [h.settings, h.attached, h.lasted]

theorem Polled.emailOpen : after.emailOpen now = e.emailOpen now := by
  unfold Engine.emailOpen
  rw [h.settings, h.attached, h.lasted]

theorem Polled.isDue : after.isDue now = e.isDue now := by
  unfold Engine.isDue
  rw [h.settings]

theorem Polled.marking : after.marking now = e.marking now := by
  unfold Engine.marking
  rw [h.desktopOpen, h.emailOpen, h.isDue]

/-- Marks do not move a deadline. -/
theorem Polled.gateInRange {timeout : UInt32} (hgate : e.GateInRange timeout) :
    after.GateInRange timeout := by
  unfold GateInRange
  rw [h.oldest]
  exact hgate

end Polled

/-- The all-clear announces nothing. -/
theorem pollEmpty_yields (e : Engine) :
    e.pollEmpty.Yields { cleared := e.alarmSeen } e.store.snapshot [] [] := by
  unfold pollEmpty
  split
  · rename_i hseen
    rw [hseen]
    have hclear : e.allClear.Yields () e.store.snapshot [] [] := by
      refine ⟨rfl, rfl, ?_, ?_⟩ <;> simp only [allClear, List.filterMap_append] <;> split <;>
        split <;> rfl
    have htick : (e.allClear.andThen fun e _ =>
        Step.done e ({ cleared := true } : NotificationTick)).Yields _ _ _ _ :=
      hclear.andThen (Step.yields_done _ _)
    exact htick
  · rename_i hseen
    rw [Bool.eq_false_iff.mpr hseen]
    exact Step.yields_done e _

/-- The mail finds the marks of the desktop, and looks at its own only. -/
theorem emailDue_of_marked (e : Engine) (now : Instant) :
    (if e.emailOpen now then
      ((e.store.snapshot.map fun r => r.marked (e.desktopOpen now && e.isDue now r) false).filter
        fun r => !r.emailNotified).map .markEmail
    else []) = e.emailDue now := by
  unfold emailDue
  split
  · rename_i hopen
    rw [List.filter_map, List.map_map]
    congr 1
    · funext r
      simp [AlarmRecord.markEmail_eq_marked, marking, hopen]
    · congr 1
      funext r
      simp [AlarmRecord.marked]
  · rfl

theorem map_marking (e : Engine) (now : Instant) (l : List AlarmRecord) :
    (l.map fun r => r.marked (e.desktopOpen now && e.isDue now r) false).map
      (·.marked false (e.emailOpen now)) = l.map (e.marking now) := by
  simp [marking]

/-- Every deadline that a poll looks at is a time that exists. -/
structure SumsInRange (e : Engine) (now : Instant) : Prop where
  desktop : e.GateInRange e.settings.desktop
  /-- The records are looked at only if the desktop is open. -/
  records : e.desktopOpen now = true → e.store.InRange (timeoutSpan e.settings.desktop)
  email : e.settings.role = .server → e.GateInRange e.settings.email

theorem SumsInRange.of_deadlines (hdesktop : e.store.Deadlines (timeoutSpan e.settings.desktop))
    (hemail : e.store.Deadlines (timeoutSpan e.settings.email)) : e.SumsInRange now :=
  ⟨.of_deadlines hdesktop, fun _ => hdesktop.records, fun _ => .of_deadlines hemail⟩

theorem SumsInRange.yields (h : e.SumsInRange now) :
    (e.pollNotifications now order).Yields
      { cleared := e.store.isEmpty && e.alarmSeen
        desktop := e.desktopDue now
        email := e.emailDue now }
      (e.store.snapshot.map (e.marking now)) (announced (e.desktopDue now))
      (announced (e.emailDue now)) := by
  unfold pollNotifications
  split
  · rename_i hempty
    have hnil : e.store.snapshot = [] := List.isEmpty_iff.mp hempty
    have h := pollEmpty_yields e
    simpa [desktopDue, emailDue, hnil, hempty, announced] using h
  · rename_i hne
    have hne : e.store.isEmpty = false := by simpa using hne
    have hseen : Polled e { e with alarmSeen := true } := .of_store_eq rfl
    have hpolled := (pollDesktop_within hseen now order).engine
    have hfirst : (pollDesktop { e with alarmSeen := true } now order).Yields (e.desktopDue now)
        (e.store.snapshot.map fun r => r.marked (e.desktopOpen now && e.isDue now r) false)
        (announced (e.desktopDue now)) [] :=
      pollDesktop_yields_of_inRange hne h.desktop h.records
    unfold pollActive
    generalize pollDesktop { e with alarmSeen := true } now order = first at hpolled hfirst
    -- the mail is looked at in the store that the desktop left
    have hsecond : (first.engine.pollEmail now).Yields _ _ _ _ :=
      pollEmail_yields (hpolled.isEmpty.trans hne) fun hrole => by
        rw [hpolled.settings] at hrole ⊢
        exact hpolled.gateInRange (h.email hrole)
    rw [hfirst.records, hpolled.emailOpen, emailDue_of_marked, map_marking] at hsecond
    have hlast := Step.yields_done (first.engine.pollEmail now).engine
      ({ desktop := e.desktopDue now, email := e.emailDue now } : NotificationTick)
    rw [hsecond.records] at hlast
    have hboth : (first.andThen fun e desktop => (e.pollEmail now).andThen fun e email =>
        Step.done e ({ desktop, email } : NotificationTick)).Yields _ _ _ _ :=
      hfirst.andThen (hsecond.andThen hlast)
    simpa [hne] using hboth

theorem pollNotifications_yields
    (hdesktop : e.store.Deadlines (timeoutSpan e.settings.desktop))
    (hemail : e.store.Deadlines (timeoutSpan e.settings.email)) :
    (e.pollNotifications now order).Yields
      { cleared := e.store.isEmpty && e.alarmSeen
        desktop := e.desktopDue now
        email := e.emailDue now }
      (e.store.snapshot.map (e.marking now)) (announced (e.desktopDue now))
      (announced (e.emailDue now)) :=
  (SumsInRange.of_deadlines hdesktop hemail).yields

/-- A poll marks the record of each identifier, and does nothing else to it. -/
theorem get?_pollNotifications (hdesktop : e.store.Deadlines (timeoutSpan e.settings.desktop))
    (hemail : e.store.Deadlines (timeoutSpan e.settings.email)) (id : String) :
    (e.pollNotifications now order).engine.store.get? id =
      (e.store.get? id).map (e.marking now) := by
  rw [AlarmStore.get?_eq_find?_snapshot, (pollNotifications_yields hdesktop hemail).records]
  exact Roster.find?_map_of_id (fun r => r.marked_id _ _) _ id

/-! ## Which identifiers a batch has -/

theorem any_id_desktopDue (e : Engine) (now : Instant) (id : String) :
    ((e.desktopDue now).any fun r => r.id == id) =
      (e.desktopOpen now &&
        (e.store.get? id).any fun r => e.isDue now r && !r.desktopNotified) := by
  unfold desktopDue
  rw [← AlarmStore.any_id_filter_snapshot]
  cases e.desktopOpen now <;> simp [List.any_map, Function.comp_def]

theorem any_id_emailDue (e : Engine) (now : Instant) (id : String) :
    ((e.emailDue now).any fun r => r.id == id) =
      (e.emailOpen now && (e.store.get? id).any fun r => !r.emailNotified) := by
  unfold emailDue
  rw [← AlarmStore.any_id_filter_snapshot]
  cases e.emailOpen now <;> simp [List.any_map, Function.comp_def, marking]

end Engine

end AlarmEscalation
