import AlarmEscalation.Proofs.Engine.Dispatch
import AlarmEscalation.Proofs.Engine.Escalation
import Mathlib.Data.List.Flatten

/-! # No alarm is announced twice on a channel

A record that a channel has yet to announce is worth one announcement there: it is entered with at
most one, what a poll hands out is paid for with it, and nothing that happens afterwards gives it
back. This needs no clock that goes forward, no call that succeeds and no poll that comes to its
end, so it holds along every run. -/
namespace AlarmEscalation

namespace AlarmRecord

/-- Whether nothing of the record is left to announce on a channel. -/
def notified (r : AlarmRecord) : Channel → Bool
  | .desktop => r.desktopNotified
  | .mail => r.emailNotified
  | .relay | .alert => true

theorem notified_updated (r newer : AlarmRecord) (c : Channel) :
    (r.updated newer).notified c = r.notified c := by
  cases c <;> simp [notified]

theorem notified_marked {r : AlarmRecord} {c : Channel} (h : r.notified c = true)
    (desktop email : Bool) : (r.marked desktop email).notified c = true := by
  cases c <;> simp_all [notified, marked]

end AlarmRecord

/-- The alarms that a call announces on a channel. -/
def Call.announces (c : Channel) : Call → List AlarmRecord
  | .show batch => if c = .desktop then batch else []
  | .send batch => if c = .mail then batch else []
  | .clear | .switchLight _ | .startAlert | .stopAlert => []

/-- The identifiers that several calls announce on a channel. -/
def announcedOn (c : Channel) (calls : List Call) : List String :=
  (calls.flatMap (Call.announces c)).map AlarmRecord.id

theorem announcedOn_append (c : Channel) (first second : List Call) :
    announcedOn c (first ++ second) = announcedOn c first ++ announcedOn c second := by
  simp [announcedOn]

theorem announcedOn_eq_nil {c : Channel} {calls : List Call}
    (h : ∀ call ∈ calls, call.announces c = []) : announcedOn c calls = [] := by
  simpa [announcedOn] using h

namespace AlarmStore

variable {s t : AlarmStore} {c : Channel} {id : String}

/-- The announcements that are left for an alarm on a channel. -/
def left (s : AlarmStore) (c : Channel) (id : String) : Nat :=
  if (s.get? id).any fun r => !r.notified c then 1 else 0

theorem left_le_one (s : AlarmStore) (c : Channel) (id : String) : s.left c id ≤ 1 := by
  unfold left
  split <;> omega

/-- What is left there was left before, if every record that is there was there before, and no mark
has been taken from it. -/
theorem left_le (h : ∀ r, t.get? id = some r →
    ∃ r0, s.get? id = some r0 ∧ (r0.notified c = true → r.notified c = true)) :
    t.left c id ≤ s.left c id := by
  unfold left
  cases ht : t.get? id with
  | none => simp
  | some r =>
    obtain ⟨r0, hr0, hkept⟩ := h r ht
    rw [hr0]
    cases hn0 : r0.notified c with
    | true => simp [hkept hn0]
    | false =>
      simp only [Option.any_some, hn0]
      split <;> simp

theorem left_marked {desktop email : Bool}
    (h : t.get? id = (s.get? id).map (·.marked desktop email)) : t.left c id ≤ s.left c id := by
  apply left_le
  intro r hr
  rw [h] at hr
  obtain ⟨r0, hr0, rfl⟩ := Option.map_eq_some_iff.mp hr
  exact ⟨r0, hr0, fun hn => AlarmRecord.notified_marked hn desktop email⟩

theorem left_ingest {event : AlarmRecord}
    (h : ¬ ((s.ingest event).1 = .inserted ∧ event.id = id)) :
    (s.ingest event).2.left c id ≤ s.left c id := by
  apply left_le
  intro r hr
  rcases s.get?_ingest_cases event hr with ⟨hins, -⟩ | ⟨-, r0, hr0, rfl | rfl⟩
  · exact absurd hins h
  · exact ⟨r, hr0, fun hn => hn⟩
  · exact ⟨r0, hr0, fun hn => (r0.notified_updated event c).trans hn⟩

theorem mem_selected_iff (s : AlarmStore) (p : AlarmRecord → Bool) {f : AlarmRecord → AlarmRecord}
    (hf : ∀ r, (f r).id = r.id) (id : String) :
    id ∈ ((s.snapshot.filter p).map f).map AlarmRecord.id ↔ (s.get? id).any p = true := by
  rw [← s.any_id_filter_snapshot p id, List.any_eq_true]
  simp [hf]

/-- Identifiers are distinct, so a selection of records has each of them at most once. -/
theorem count_selected (s : AlarmStore) (p : AlarmRecord → Bool) {f : AlarmRecord → AlarmRecord}
    (hf : ∀ r, (f r).id = r.id) (id : String) :
    (((s.snapshot.filter p).map f).map AlarmRecord.id).count id =
      if (s.get? id).any p then 1 else 0 := by
  have hnodup : (((s.snapshot.filter p).map f).map AlarmRecord.id).Nodup :=
    Roster.nodup_of_ascending (s.ascending_of_selected p hf)
  rw [hnodup.count]
  simp only [s.mem_selected_iff p hf]

end AlarmStore

namespace Engine

variable {e : Engine} {now : Instant} {order : ScanOrder} {c : Channel} {id : String}

/-! ## One poll -/

/-- What a step announces on a channel is paid for with what was left there before. -/
def Step.Pays {α : Type} (e : Engine) (c : Channel) (id : String) (s : Step α) : Prop :=
  (announcedOn c s.calls).count id + s.engine.store.left c id ≤ e.store.left c id

theorem announcedOn_show (c : Channel) (batch : List AlarmRecord) :
    announcedOn c (if batch.isEmpty then [] else [.show batch]) =
      if c = .desktop then batch.map AlarmRecord.id else [] := by
  cases batch with
  | nil => simp [announcedOn]
  | cons r rest =>
    by_cases hc : c = .desktop <;> simp [announcedOn, Call.announces, hc]

theorem announcedOn_alertCalls (c : Channel) (e : Engine) : announcedOn c e.alertCalls = [] := by
  apply announcedOn_eq_nil
  intro call hcall
  unfold alertCalls at hcall
  split at hcall
  · rw [List.mem_singleton.mp hcall]
    rfl
  · cases hcall

theorem announcedOn_send (c : Channel) (batch : List AlarmRecord) :
    announcedOn c (if batch.isEmpty then [] else [.send batch]) =
      if c = .mail then batch.map AlarmRecord.id else [] := by
  cases batch with
  | nil => simp [announcedOn]
  | cons r rest =>
    by_cases hc : c = .mail <;> simp [announcedOn, Call.announces, hc]

theorem announcedOn_allClear (c : Channel) (e : Engine) : announcedOn c e.allClear.calls = [] := by
  apply announcedOn_eq_nil
  intro call hcall
  rcases List.mem_append.mp hcall with hcall | hcall <;> split at hcall <;>
    simp_all [Call.announces]

theorem Shown.pays {batch : List AlarmRecord} {store : AlarmStore}
    (h : e.Shown now order batch store) :
    (if c = .desktop then batch.map AlarmRecord.id else []).count id + store.left c id ≤
      e.store.left c id := by
  cases h with
  | absent => split <;> simp
  | attached batch _ hbatch =>
    have hrange := AlarmStore.inRange_of_desktopBatch hbatch
    have hget : (e.store.desktopBatch now _ order).2.get? id = _ :=
      AlarmStore.get?_desktopBatch_of_inRange now hrange id
    by_cases hc : c = .desktop
    · subst hc
      have heq := hbatch.symm.trans (AlarmStore.desktopBatch_of_inRange now hrange)
      cases heq
      rw [if_pos rfl, AlarmStore.count_selected _ _ AlarmRecord.markDesktop_id]
      unfold AlarmStore.left
      rw [hget]
      -- a record that is handed out has its mark now
      cases e.store.get? id with
      | none => simp
      | some r =>
        cases hdue : r.triggerTime.isDue (timeoutSpan e.settings.desktop) now <;>
          cases hn : r.desktopNotified <;>
          simp [AlarmRecord.notified, AlarmRecord.marked, hdue, hn]
    · rw [if_neg hc, List.count_nil, Nat.zero_add]
      obtain ⟨b, hb⟩ := e.store.get?_desktopBatch now (timeoutSpan e.settings.desktop) order id
      exact AlarmStore.left_marked hb

theorem DesktopPoll.pays {s : Step (List AlarmRecord)} (h : e.DesktopPoll now order s) :
    s.Pays e c id := by
  cases h with
  | early | outOfRange => simp [Step.Pays, Step.done, Step.broken, announcedOn]
  | scanBroken fault _ =>
    obtain ⟨b, hb⟩ := e.store.get?_desktopBatch now (timeoutSpan e.settings.desktop) order id
    simpa [Step.Pays, Step.broken, announcedOn] using AlarmStore.left_marked hb
  | handedOut _ hshown =>
    unfold Step.Pays
    rw [announcedOn_append, announcedOn_show, announcedOn_alertCalls, List.append_nil]
    exact hshown.pays

theorem EmailPoll.pays {s : Step (List AlarmRecord)} (h : e.EmailPoll now s) :
    s.Pays e c id := by
  cases h with
  | idle | outOfRange => simp [Step.Pays, Step.done, Step.broken, announcedOn]
  | handedOut =>
    have hget := e.store.get?_emailBatch id
    unfold Step.Pays
    rw [announcedOn_send]
    by_cases hc : c = .mail
    · subst hc
      have hcount : (e.store.emailBatch.1.map AlarmRecord.id).count id =
          if (e.store.get? id).any fun r => !r.emailNotified then 1 else 0 :=
        e.store.count_selected _ AlarmRecord.markEmail_id id
      rw [if_pos rfl, hcount]
      unfold AlarmStore.left
      rw [hget]
      cases e.store.get? id with
      | none => simp
      | some r => cases hn : r.emailNotified <;> simp [AlarmRecord.notified, AlarmRecord.marked, hn]
    · rw [if_neg hc, List.count_nil, Nat.zero_add]
      exact AlarmStore.left_marked hget

theorem NotificationPoll.pays {s : Step NotificationTick} (h : e.NotificationPoll now order s) :
    s.Pays e c id := by
  cases h with
  | quiet => simp [Step.Pays, Step.done, announcedOn]
  | allClear =>
    unfold Step.Pays
    dsimp only
    rw [announcedOn_allClear, List.count_nil, Nat.zero_add]
    exact Nat.le_refl _
  | desktopBroken _ hdesktop => exact hdesktop.pays
  | active _ hdesktop _ hemail =>
    have hfirst : Step.Pays _ c id _ := hdesktop.pays
    have hsecond : Step.Pays _ c id _ := hemail.pays
    unfold Step.Pays at *
    dsimp only at *
    rw [announcedOn_append, List.count_append]
    omega

/-! ## Ticks and calls -/

/-- What a tick hands out on a channel. -/
def NotificationTick.part (tick : NotificationTick) : Channel → List AlarmRecord
  | .desktop => tick.desktop
  | .mail => tick.email
  | .relay | .alert => []

/-- A poll that comes to its end announces what its tick tells. -/
theorem NotificationPoll.announcedOn {s : Step NotificationTick} (h : e.NotificationPoll now order s)
    {tick : NotificationTick} (hfound : s.found = .ok tick) (c : Channel) :
    announcedOn c s.calls = (tick.part c).map AlarmRecord.id := by
  have hcalls := (h.completed hfound).1
  cases h with
  | quiet =>
    cases hfound
    cases c <;> rfl
  | allClear =>
    cases hfound
    rw [announcedOn_allClear]
    cases c <;> rfl
  | desktopBroken => cases hfound
  | active hne =>
    have halert : AlarmEscalation.announcedOn c
        (if e.lasted e.settings.desktop now then e.alertCalls else []) = [] := by
      split
      · exact announcedOn_alertCalls c e
      · rfl
    rw [hcalls, tickCalls, if_neg (by simp [hne]), announcedOn_append, announcedOn_append,
      announcedOn_show, halert, announcedOn_send]
    cases c <;> simp [NotificationTick.part]

/-- What the tick of a poll hands out on a channel, by identifier. -/
def Moment.ticked (c : Channel) (m : Moment) : List String :=
  (m.tick?.elim [] fun tick => tick.part c).map AlarmRecord.id

/-- A poll that is broken off may have announced something, but has no tick. -/
theorem Moment.ticked_sublist (c : Channel) (m : Moment) :
    List.Sublist (m.ticked c) (announcedOn c m.calls) := by
  obtain ⟨e, a⟩ := m
  cases hpoll : a.isPoll with
  | true =>
    obtain ⟨now, fate, order, rfl⟩ := Action.eq_of_isPoll hpoll
    unfold ticked
    rw [tick?_poll]
    cases hfound : (e.pollNotifications now order).found with
    | error fault => exact List.nil_sublist _
    | ok tick =>
      have htold : announcedOn c (e.pollNotifications now order).calls = _ :=
        (e.notificationPoll now order).announcedOn hfound c
      exact htold ▸ List.Sublist.refl _
  | false =>
    rw [ticked, tick?_of_not_poll hpoll]
    exact List.nil_sublist _

/-! ## A whole run -/

/-- The moments behind the last one at which the alarm was entered as a new one. -/
def sinceInserted (id : String) (past : List Moment) : List Moment :=
  past.rtakeWhile fun m => !m.inserts id

/-- The identifiers that were announced on a channel at several moments. -/
def announcements (c : Channel) (moments : List Moment) : List String :=
  moments.flatMap fun m => announcedOn c m.calls

theorem Moment.pays (m : Moment) (c : Channel) (id : String) :
    (announcedOn c m.calls).count id + m.after.store.left c id ≤
      if m.inserts id then 1 else m.before.store.left c id := by
  obtain ⟨e, a⟩ := m
  cases hpoll : a.isPoll with
  | true =>
    obtain ⟨now, fate, order, rfl⟩ := Action.eq_of_isPoll hpoll
    exact (e.notificationPoll now order).pays
  | false =>
    have hnone : announcedOn c (e.act a).calls = [] := by
      apply announcedOn_eq_nil
      intro call hcall
      have hrelay := relay_of_not_poll hpoll hcall
      cases call with
      | switchLight on => rfl
      | _ => cases hrelay
    have hmoved := e.moved a
    simp only [calls, after, step, hnone, List.count_nil, Nat.zero_add]
    generalize (e.act a).engine = after at hmoved
    cases hmoved with
    | ingested event =>
      split
      · exact AlarmStore.left_le_one _ c id
      · rename_i hno
        apply AlarmStore.left_ingest
        simpa [inserts, and_comm] using hno
    | polled now fate order => cases hpoll
    | lit | started | stopped => exact Nat.le_refl _

/-- What has been announced of an alarm since it was entered, and what is left, are one together at
most. -/
theorem announced_and_left (e : Engine) (actions : List Action) (c : Channel) (id : String) :
    (announcements c (sinceInserted id (e.history actions))).count id +
      (e.afterAll actions).store.left c id ≤ 1 := by
  induction actions using List.reverseRecOn with
  | nil => simpa [sinceInserted, announcements, history, afterAll] using e.store.left_le_one c id
  | append_singleton actions a ih =>
    rw [history_concat, afterAll_concat, sinceInserted, List.rtakeWhile_concat]
    cases hins : Moment.inserts id ⟨e.afterAll actions, a⟩ with
    | true =>
      rw [if_neg (by simp)]
      simpa [announcements] using AlarmStore.left_le_one _ c id
    | false =>
      have hpays := Moment.pays ⟨e.afterAll actions, a⟩ c id
      rw [hins, if_neg Bool.false_ne_true] at hpays
      rw [if_pos (by simp), ← sinceInserted, announcements, List.flatMap_append, ← announcements,
        List.count_append, List.flatMap_singleton]
      change _ + (Moment.after ⟨e.afterAll actions, a⟩).store.left c id ≤ 1
      dsimp only at hpays
      omega

/-- **No alarm is announced twice on a channel.** Whatever state an engine is in, and whatever
happens to it, an alarm occurs at most once on each channel since it was last entered: at most once
in all ticks together, and at most once in all calls, those of polls that were broken off
included, whatever alarms these had come by until then. -/
theorem announced_at_most_once (e : Engine) (actions : List Action) (c : Channel) (id : String) :
    ((sinceInserted id (e.history actions)).flatMap (Moment.ticked c)).count id ≤ 1 ∧
    (announcements c (sinceInserted id (e.history actions))).count id ≤ 1 := by
  have hcalls : (announcements c (sinceInserted id (e.history actions))).count id ≤ 1 := by
    have := e.announced_and_left actions c id
    omega
  have hticks := List.Sublist.flatMap_right (sinceInserted id (e.history actions))
    fun m _ => m.ticked_sublist c
  exact ⟨(hticks.count_le id).trans hcalls, hcalls⟩

/-- A server whose mails wait for longer than there are times. -/
def patient : Engine :=
  { settings := { role := .server, desktop := 5, email := 4000000000 }
    attached := { desktop := true, mail := true } }

/-- The poll that shows the alarm is broken off at the mail, and the alarm is not shown again. -/
example :
    let alarm : AlarmRecord := ⟨"PV1", "MAJOR", "HIHI", .ofSecond (maxSeconds - 20), false, false⟩
    let moments := patient.history
      [.ingest alarm, .pollNotifications (.ofSecond (maxSeconds - 10)) fun _ => .done,
        .pollNotifications (.ofSecond (maxSeconds - 18)) fun _ => .done,
        .pollNotifications (.ofSecond (maxSeconds - 5)) fun _ => .done]
    moments.map (Moment.ticked .desktop) = [[], [], [], []] ∧
      announcements .desktop moments = ["PV1"] := by
  decide

end Engine

end AlarmEscalation
