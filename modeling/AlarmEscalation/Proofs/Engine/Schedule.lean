import AlarmEscalation.Proofs.Engine.Dispatch
import AlarmEscalation.Proofs.Engine.Run
import AlarmEscalation.Proofs.Store.Seen
import Mathlib.Data.List.Perm.Basic

/-! # When an engine is polled does not matter

As long as no event comes in, what is due stays due. So a poll that comes early takes from a later
one what is due already, marks it, and leaves the rest. `SumsInRange.engine_absorbed` and the two
lemmas behind it say so of two polls; by induction the polls of a whole schedule come to what the
last of them would have done alone. -/
namespace AlarmEscalation

/-! ## Batches -/

/-- Batches of the same alarms, as one channel sees them: in any order, and whatever the marks of
the other channels. -/
def SameTo (c : Channel) (batch other : List AlarmRecord) : Prop :=
  (batch.map (·.seenBy c)).Perm (other.map (·.seenBy c))

namespace SameTo

variable {c : Channel} {batch other third : List AlarmRecord}

theorem trans (h : SameTo c batch other) (h' : SameTo c other third) : SameTo c batch third :=
  List.Perm.trans h h'

theorem append_left (front : List AlarmRecord) (h : SameTo c batch other) :
    SameTo c (front ++ batch) (front ++ other) := by
  unfold SameTo
  rw [List.map_append, List.map_append]
  exact List.Perm.append_left _ h

theorem ids (h : SameTo c batch other) :
    (batch.map AlarmRecord.id).Perm (other.map AlarmRecord.id) := by
  have hids := List.Perm.map AlarmRecord.id h
  rw [List.map_map, List.map_map] at hids
  exact hids

end SameTo

/-- What was taken early and what is left for later are what there was to take. -/
theorem taken_in_two {early late taken : AlarmRecord → Bool}
    (hmono : ∀ r, early r = true → late r = true) (l : List AlarmRecord) :
    ((l.filter fun r => early r && !taken r) ++
      l.filter fun r => late r && !(taken r || early r)).Perm
        (l.filter fun r => late r && !taken r) := by
  have hearly : (l.filter fun r => early r && !taken r) =
      (l.filter fun r => late r && !taken r).filter early := by
    rw [List.filter_filter]
    congr 1
    funext r
    cases he : early r with
    | false => rfl
    | true => rw [hmono r he]; rfl
  have hlate : (l.filter fun r => late r && !(taken r || early r)) =
      (l.filter fun r => late r && !taken r).filter fun r => !early r := by
    rw [List.filter_filter]
    congr 1
    funext r
    cases early r <;> cases taken r <;> simp
  rw [hearly, hlate]
  exact List.filter_append_perm _ _

/-- The same, where what was taken early is marked before the rest is taken. -/
theorem taken_behind_marks {β : Type} (early late taken : AlarmRecord → Bool)
    (mark : AlarmRecord → AlarmRecord) {told : AlarmRecord → β}
    (hmono : ∀ r, early r = true → late r = true)
    (htaken : ∀ r, taken (mark r) = (taken r || early r)) (hlate : ∀ r, late (mark r) = late r)
    (htold : ∀ r, told (mark r) = told r) (l : List AlarmRecord) :
    ((l.filter fun r => early r && !taken r).map told ++
      ((l.map mark).filter fun r => late r && !taken r).map told).Perm
        ((l.filter fun r => late r && !taken r).map told) := by
  have hrest : ((l.map mark).filter fun r => late r && !taken r).map told =
      (l.filter fun r => late r && !(taken r || early r)).map told := by
    have hsame : told ∘ mark = told := funext htold
    rw [List.filter_map, List.map_map, hsame]
    congr 2
    funext r
    rw [Function.comp_apply, hlate, htaken]
  rw [hrest, ← List.map_append]
  exact (taken_in_two hmono l).map told

namespace Engine

variable {e : Engine} {now last : Instant} {order alone : ScanOrder}

/-! ## What is due stays due -/

theorem lasted_mono (hle : now ≤ last) (timeout : UInt32) (h : e.lasted timeout now = true) :
    e.lasted timeout last = true := by
  unfold lasted at h ⊢
  obtain ⟨hon, hdue⟩ := Bool.and_eq_true_iff.mp h
  obtain ⟨t, ht, hdue⟩ := (Option.any_eq_true ..).mp hdue
  rw [hon, ht]
  exact Instant.isDue_mono hle hdue

theorem desktopOpen_mono (hle : now ≤ last) (h : e.desktopOpen now = true) :
    e.desktopOpen last = true := by
  unfold desktopOpen at h ⊢
  obtain ⟨hattached, hlasted⟩ := Bool.and_eq_true_iff.mp h
  rw [hattached, lasted_mono hle _ hlasted]
  rfl

theorem emailOpen_mono (hle : now ≤ last) (h : e.emailOpen now = true) :
    e.emailOpen last = true := by
  unfold emailOpen at h ⊢
  obtain ⟨hattached, hlasted⟩ := Bool.and_eq_true_iff.mp h
  rw [hattached, lasted_mono hle _ hlasted]
  rfl

/-- Whether a poll marks a record for the desktop. -/
def reached (e : Engine) (now : Instant) (r : AlarmRecord) : Bool :=
  e.desktopOpen now && e.isDue now r

theorem reached_mono (hle : now ≤ last) (r : AlarmRecord) (h : e.reached now r = true) :
    e.reached last r = true := by
  unfold reached at h ⊢
  obtain ⟨hopen, hdue⟩ := Bool.and_eq_true_iff.mp h
  rw [desktopOpen_mono hle hopen]
  exact Instant.isDue_mono hle hdue

/-- What the desktop sees of its batch. -/
theorem desktopDue_seen (e : Engine) (now : Instant) :
    (e.desktopDue now).map (·.seenBy .desktop) =
      (e.store.snapshot.filter fun r => e.reached now r && !r.desktopNotified).map
        fun r => r.markDesktop.seenBy .desktop := by
  unfold desktopDue reached
  cases e.desktopOpen now <;> simp

/-- What the mail sees of its batch. -/
theorem emailDue_seen (e : Engine) (now : Instant) :
    (e.emailDue now).map (·.seenBy .mail) =
      (e.store.snapshot.filter fun r => e.emailOpen now && !r.emailNotified).map
        fun r => r.markEmail.seenBy .mail := by
  unfold emailDue
  cases hopen : e.emailOpen now with
  | false => simp
  | true => simp [marking, hopen, AlarmRecord.markEmail_eq_marked, AlarmRecord.seenBy_marked]

/-- What an early poll marks, the later one would have marked. -/
theorem marking_marking (hle : now ≤ last) (r : AlarmRecord) :
    e.marking last (e.marking now r) = e.marking last r := by
  have hdesktop : (e.reached now r || e.reached last r) = e.reached last r :=
    Bool.or_eq_right_iff_imp.mpr (reached_mono hle r)
  have hemail : (e.emailOpen now || e.emailOpen last) = e.emailOpen last :=
    Bool.or_eq_right_iff_imp.mpr (emailOpen_mono hle)
  have hdue : e.isDue last (e.marking now r) = e.isDue last r := rfl
  change (r.marked (e.reached now r) (e.emailOpen now)).marked
    (e.desktopOpen last && e.isDue last (e.marking now r)) _ = r.marked (e.reached last r) _
  rw [hdue, AlarmRecord.marked_marked, hemail]
  exact congrArg (r.marked · _) hdesktop

/-! ## Two polls -/

/-- What polls leave behind is told by the records and by what is remembered of the alarms. -/
theorem Polled.ext {a b : Engine} (ha : Polled e a) (hb : Polled e b)
    (hrecords : a.store.snapshot = b.store.snapshot) (hseen : a.alarmSeen = b.alarmSeen)
    (halert : a.alertActive = b.alertActive) : a = b := by
  have hstore : a.store = b.store :=
    AlarmStore.ext_snapshot hrecords (ha.oldest.trans hb.oldest.symm)
  obtain ⟨⟨_, _, _, rfl⟩, -, -⟩ := ha
  obtain ⟨⟨_, _, _, rfl⟩, -, -⟩ := hb
  cases hstore
  cases hseen
  cases halert
  rfl

theorem SumsInRange.earlier (h : e.SumsInRange last) (hle : now ≤ last) : e.SumsInRange now :=
  ⟨h.desktop, fun hopen => h.records (desktopOpen_mono hle hopen), h.email⟩

/-- What is remembered behind a poll that is not broken off. -/
theorem SumsInRange.remembered (h : e.SumsInRange now) (order : ScanOrder) :
    (e.pollNotifications now order).engine.alarmSeen = !e.store.isEmpty ∧
      (e.pollNotifications now order).engine.alertActive = e.alertAfter now :=
  ((e.notificationPoll now order).completed h.yields.found).2

/-- A poll moves no deadline. -/
theorem SumsInRange.polled (h : e.SumsInRange last) (hle : now ≤ last) (order : ScanOrder) :
    (e.pollNotifications now order).engine.SumsInRange last := by
  have hpolled := (e.pollNotifications_within now order).engine
  refine ⟨?_, ?_, ?_⟩
  · rw [hpolled.settings]
    exact hpolled.gateInRange h.desktop
  · rw [hpolled.settings, hpolled.desktopOpen]
    intro hopen r hr
    rw [(h.earlier hle).yields.records] at hr
    obtain ⟨r0, hr0, rfl⟩ := List.mem_map.mp hr
    exact h.records hopen r0 hr0
  · rw [hpolled.settings]
    exact fun hrole => hpolled.gateInRange (h.email hrole)

/-- The order of its scan makes no difference to what a poll leaves behind. -/
theorem SumsInRange.engine_of_order (h : e.SumsInRange last) (order alone : ScanOrder) :
    (e.pollNotifications last order).engine = (e.pollNotifications last alone).engine := by
  obtain ⟨hseen, halert⟩ := h.remembered order
  obtain ⟨hseenAlone, halertAlone⟩ := h.remembered alone
  refine (e.pollNotifications_within last order).engine.ext
    (e.pollNotifications_within last alone).engine ?_ ?_ ?_
  · rw [h.yields.records, h.yields.records]
  · rw [hseen, hseenAlone]
  · rw [halert, halertAlone]

/-- Behind an early poll, a later one leaves what it would have left without. -/
theorem SumsInRange.engine_absorbed (h : e.SumsInRange last) (hle : now ≤ last)
    (order later alone : ScanOrder) :
    ((e.pollNotifications now order).engine.pollNotifications last later).engine =
      (e.pollNotifications last alone).engine := by
  have hpolled := (e.pollNotifications_within now order).engine
  have hfirst := h.earlier hle
  have hsecond := h.polled hle order
  obtain ⟨hseen, halert⟩ := hfirst.remembered order
  obtain ⟨hseen', halert'⟩ := hsecond.remembered later
  obtain ⟨hseenAlone, halertAlone⟩ := h.remembered alone
  have hempty := hpolled.isEmpty
  refine (hpolled.trans (pollNotifications_within _ last later).engine).ext
    (e.pollNotifications_within last alone).engine ?_ ?_ ?_
  · rw [hsecond.yields.records, h.yields.records, hfirst.yields.records, hpolled.marking,
      List.map_map]
    exact List.map_congr_left fun r _ => marking_marking hle r
  · rw [hseen', hseenAlone, hempty]
  · rw [halert', halertAlone]
    unfold alertAfter at halert ⊢
    rw [hempty, hseen, halert, hpolled.attached, hpolled.settings, hpolled.lasted]
    cases e.store.isEmpty with
    | true => simp
    | false =>
      cases hearly : e.lasted e.settings.desktop now with
      | false => simp
      | true => simp [lasted_mono hle _ hearly]

theorem SumsInRange.desktopDue_absorbed (h : e.SumsInRange last) (hle : now ≤ last)
    (order : ScanOrder) :
    SameTo .desktop (e.desktopDue now ++ (e.pollNotifications now order).engine.desktopDue last)
      (e.desktopDue last) := by
  have hpolled := (e.pollNotifications_within now order).engine
  have hreached : (e.pollNotifications now order).engine.reached last = e.reached last := by
    unfold reached
    rw [hpolled.desktopOpen, hpolled.isDue]
  unfold SameTo
  rw [List.map_append, desktopDue_seen, desktopDue_seen, desktopDue_seen, hreached,
    (h.earlier hle).yields.records]
  refine taken_behind_marks (e.reached now) (e.reached last) (·.desktopNotified)
    (e.marking now) (reached_mono hle) (fun r => rfl) (fun r => rfl) (fun r => ?_) _
  simp [marking, AlarmRecord.markDesktop_eq_marked, AlarmRecord.seenBy_marked]

theorem SumsInRange.emailDue_absorbed (h : e.SumsInRange last) (hle : now ≤ last)
    (order : ScanOrder) :
    SameTo .mail (e.emailDue now ++ (e.pollNotifications now order).engine.emailDue last)
      (e.emailDue last) := by
  have hpolled := (e.pollNotifications_within now order).engine
  unfold SameTo
  rw [List.map_append, emailDue_seen, emailDue_seen, emailDue_seen, hpolled.emailOpen,
    (h.earlier hle).yields.records]
  refine taken_behind_marks (fun _ => e.emailOpen now) (fun _ => e.emailOpen last)
    (·.emailNotified) (e.marking now) (fun _ => emailOpen_mono hle) (fun r => rfl) (fun r => rfl)
    (fun r => ?_) _
  simp [marking, AlarmRecord.markEmail_eq_marked, AlarmRecord.seenBy_marked]

/-- Behind a poll, another one at the same time selects nothing. -/
theorem SumsInRange.nothing_left (h : e.SumsInRange now) (order again : ScanOrder) :
    ((e.pollNotifications now order).engine.pollNotifications now again).found = .ok {} := by
  have hle : now ≤ now := .inr ⟨rfl, le_refl _⟩
  have hpolled := (e.pollNotifications_within now order).engine
  rw [(h.polled hle order).yields.found, hpolled.isEmpty, (h.remembered order).1]
  have hdesktop := (h.desktopDue_absorbed hle order).length_eq
  have hemail := (h.emailDue_absorbed hle order).length_eq
  simp only [List.length_map, List.length_append, Nat.add_eq_left, List.length_eq_zero_iff]
    at hdesktop hemail
  rw [hdesktop, hemail, Bool.and_not_self]

/-! ## A schedule -/

/-- Polls at several times, one after the other, with the order of each one's scan. -/
def pollAll (e : Engine) : List (Instant × ScanOrder) → Step (List NotificationTick)
  | [] => .done e []
  | (now, order) :: rest => (e.pollNotifications now order).andThen fun e tick =>
      (e.pollAll rest).andThen fun e ticks => .done e (tick :: ticks)

/-- What a poll finds that is not broken off. -/
def tickDue (e : Engine) (now : Instant) : NotificationTick :=
  { cleared := e.store.isEmpty && e.alarmSeen
    desktop := e.desktopDue now
    email := e.emailDue now }

theorem SumsInRange.pollAll_cons (h : e.SumsInRange now) (order : ScanOrder)
    (rest : List (Instant × ScanOrder)) :
    (e.pollAll ((now, order) :: rest)).engine =
        ((e.pollNotifications now order).engine.pollAll rest).engine ∧
      (e.pollAll ((now, order) :: rest)).found =
        ((e.pollNotifications now order).engine.pollAll rest).found.map (e.tickDue now :: ·) := by
  have hfound : (e.pollNotifications now order).found = .ok (e.tickDue now) := h.yields.found
  rw [pollAll, Step.andThen, hfound]
  dsimp only
  generalize (e.pollNotifications now order).engine.pollAll rest = s
  unfold Step.andThen
  cases s.found with
  | error fault => exact ⟨rfl, rfl⟩
  | ok ticks => exact ⟨rfl, rfl⟩

/-- What the polls of a schedule come to, against one poll at its last time. -/
structure ComesTo (e : Engine) (last : Instant) (s : Step (List NotificationTick))
    (ticks : List NotificationTick) : Prop where
  found : s.found = .ok ticks
  engine : ∀ alone, s.engine = (e.pollNotifications last alone).engine
  desktop : SameTo .desktop (ticks.flatMap (·.desktop)) (e.desktopDue last)
  email : SameTo .mail (ticks.flatMap (·.email)) (e.emailDue last)

theorem SumsInRange.comesTo {earlier : List (Instant × ScanOrder)} (h : e.SumsInRange last)
    (ordered : ∀ poll ∈ earlier, poll.1 ≤ last) (order : ScanOrder) :
    ∃ ticks, e.ComesTo last (e.pollAll (earlier ++ [(last, order)])) ticks := by
  induction earlier generalizing e with
  | nil =>
    obtain ⟨hengine, hfound⟩ := h.pollAll_cons order []
    refine ⟨[e.tickDue last], hfound, fun alone => hengine.trans (h.engine_of_order order alone),
      ?_, ?_⟩
    · rw [List.flatMap_singleton]
      exact List.Perm.refl _
    · rw [List.flatMap_singleton]
      exact List.Perm.refl _
  | cons poll rest ih =>
    obtain ⟨now, first⟩ := poll
    have hle : now ≤ last := ordered (now, first) List.mem_cons_self
    obtain ⟨ticks, hrest⟩ :=
      ih (h.polled hle first) fun poll hpoll => ordered poll (List.mem_cons_of_mem _ hpoll)
    obtain ⟨hengine, hfound⟩ := (h.earlier hle).pollAll_cons first (rest ++ [(last, order)])
    refine ⟨e.tickDue now :: ticks, ?_, ?_, ?_, ?_⟩
    · rw [List.cons_append, hfound, hrest.found]
      rfl
    · intro alone
      rw [List.cons_append, hengine, hrest.engine order, h.engine_absorbed hle first order alone]
    · rw [List.flatMap_cons]
      exact (hrest.desktop.append_left _).trans (h.desktopDue_absorbed hle first)
    · rw [List.flatMap_cons]
      exact (hrest.email.append_left _).trans (h.emailDue_absorbed hle first)

theorem nodup_ids_desktopDue (e : Engine) (now : Instant) :
    ((e.desktopDue now).map AlarmRecord.id).Nodup := by
  unfold desktopDue
  split
  · exact Roster.nodup_of_ascending (AlarmStore.ascending_of_selected _ _ fun _ => rfl)
  · exact List.nodup_nil

theorem nodup_ids_emailDue (e : Engine) (now : Instant) :
    ((e.emailDue now).map AlarmRecord.id).Nodup := by
  unfold emailDue
  split
  · exact Roster.nodup_of_ascending (AlarmStore.ascending_of_selected _ _ fun r => r.marked_id _ _)
  · exact List.nodup_nil

/-- **When an engine is polled does not matter.** Take any engine, polls with no event between them,
in whatever order as long as the last of them is the latest, and let the deadlines that a poll at
that time looks at be times that exist. Then no poll is broken off. They leave the very engine
behind that the last poll alone would have left, with the same store and the same flags, and hand
out the same alarms to each channel, each of them once; and one more poll selects nothing. A record
that is handed out also bears the mark of the other channel, which an early poll may not have set,
so each channel's records are compared as that channel sees them. Nor does it matter in which order
the scan of a poll comes by the records. -/
theorem schedule_irrelevant {earlier : List (Instant × ScanOrder)}
    (ordered : ∀ poll ∈ earlier, poll.1 ≤ last) (inRange : e.SumsInRange last)
    (order alone again : ScanOrder) :
    ∃ ticks tick,
      (e.pollAll (earlier ++ [(last, order)])).found = .ok ticks ∧
      (e.pollNotifications last alone).found = .ok tick ∧
      (e.pollAll (earlier ++ [(last, order)])).engine = (e.pollNotifications last alone).engine ∧
      SameTo .desktop (ticks.flatMap (·.desktop)) tick.desktop ∧
      ((ticks.flatMap (·.desktop)).map (·.id)).Nodup ∧
      SameTo .mail (ticks.flatMap (·.email)) tick.email ∧
      ((ticks.flatMap (·.email)).map (·.id)).Nodup ∧
      ((e.pollAll (earlier ++ [(last, order)])).engine.pollNotifications last again).found =
        .ok {} := by
  obtain ⟨ticks, h⟩ := inRange.comesTo ordered order
  refine ⟨ticks, e.tickDue last, h.found, inRange.yields.found, h.engine alone, h.desktop, ?_,
    h.email, ?_, ?_⟩
  · exact h.desktop.ids.nodup_iff.mpr (e.nodup_ids_desktopDue last)
  · exact h.email.ids.nodup_iff.mpr (e.nodup_ids_emailDue last)
  · rw [h.engine alone]
    exact inRange.nothing_left alone again

/-- A server that sends mails before it shows popups. -/
def mailFirst : Engine :=
  { settings := { role := .server, desktop := 10, email := 5 }
    attached := { desktop := true, mail := true } }

def rising : AlarmRecord := ⟨"PV1", "MAJOR", "HIHI", .ofSecond 0, false, false⟩

theorem schedule_irrelevant_mailFirst :
    build mailFirst.settings mailFirst.attached = .ok mailFirst ∧
    ∃ e, e = mailFirst.afterAll [.ingest rising] ∧
      (∀ poll ∈ [(Instant.ofSecond 5, ScanOrder.ascending)], poll.1 ≤ .ofSecond 10) ∧
      e.SumsInRange (.ofSecond 10) ∧
      ∃ ticks tick,
        (e.pollAll [(.ofSecond 5, .ascending), (.ofSecond 10, .ascending)]).found = .ok ticks ∧
        (e.pollNotifications (.ofSecond 10)).found = .ok tick ∧
        tick.desktop.map (·.id) = ["PV1"] ∧
        SameTo .desktop (ticks.flatMap (·.desktop)) tick.desktop ∧
        SameTo .mail (ticks.flatMap (·.email)) tick.email := by
  have inRange : (mailFirst.afterAll [.ingest rising]).SumsInRange (.ofSecond 10) := by
    have holdest : (mailFirst.afterAll [.ingest rising]).store.oldest = some (.ofSecond 0) := rfl
    refine ⟨fun _ t ht => ?_, fun _ => ?_, fun _ _ t ht => ?_⟩
    · cases holdest.symm.trans ht
      decide
    · intro r hr
      rw [List.mem_singleton.mp hr]
      decide
    · cases holdest.symm.trans ht
      decide
  have ordered :
      ∀ poll ∈ [(Instant.ofSecond 5, ScanOrder.ascending)], poll.1 ≤ .ofSecond 10 := by
    intro poll hpoll
    rw [List.mem_singleton.mp hpoll]
    decide
  obtain ⟨ticks, tick, hticks, htick, -, hdesktop, -, hemail, -⟩ :=
    schedule_irrelevant ordered inRange .ascending .ascending .ascending
  refine ⟨by decide, _, rfl, ordered, inRange, ticks, tick, hticks, htick, ?_, hdesktop, hemail⟩
  cases htick
  decide

/-- The mark of the other channel does depend on the schedule: a mail that is sent before the popup
is due tells of no popup. -/
theorem early_mail_lacks_popup_mark :
    build mailFirst.settings mailFirst.attached = .ok mailFirst ∧
    ∃ e, e = mailFirst.afterAll [.ingest rising] ∧
      (e.pollAll [(.ofSecond 5, .ascending), (.ofSecond 10, .ascending)]).found =
        .ok [{ email := [rising.markEmail] }, { desktop := [rising.markEmail.markDesktop] }] ∧
      (e.pollNotifications (.ofSecond 10)).found =
        .ok { desktop := [rising.markDesktop], email := [rising.markDesktop.markEmail] } ∧
      ¬ [rising.markEmail].Perm [rising.markDesktop.markEmail] ∧
      ¬ [rising.markEmail.markDesktop].Perm [rising.markDesktop] :=
  ⟨by decide, _, rfl, by decide, by decide, by decide, by decide⟩

end Engine

end AlarmEscalation
