import AlarmEscalation.Proofs.Store.Episode
import Mathlib.Data.List.Infix

/-! # The beginning of an episode is the trigger time of its first alarm

A store keeps the beginning of its episode apart from its records, and sets it at one event only.
`Opening` says which event that is: the last one that found the store empty and left it with an
alarm. What becomes of this alarm later on, and how old those behind it are, has no part in it. -/
namespace AlarmEscalation.AlarmStore

variable {s : AlarmStore}

theorem Coherent.oldest_eq_none_iff (hs : s.Coherent) :
    s.oldest = none ↔ s.isEmpty = true := by
  rw [← hs, Option.isNone_iff_eq_none]

/-! ## One operation -/

theorem Coherent.oldest_ingest (hs : s.Coherent) (event : AlarmRecord) :
    (s.ingest event).2.oldest =
      if (s.ingest event).2.isEmpty then none
      else if s.isEmpty then some event.triggerTime
      else s.oldest := by
  have hafter := hs.ingest event
  cases hempty : (s.ingest event).2.isEmpty with
  | true => exact hafter.oldest_eq_none_iff.mpr hempty
  | false =>
    -- the time that an event sets gives way to one that is there, so emptiness decides
    have hold : s.isEmpty = true → s.oldest = none := hs.oldest_eq_none_iff.mpr
    have hsome : s.isEmpty = false → s.oldest.isSome := fun hne => by
      rw [← Option.not_isNone, hs, hne]; rfl
    have h := s.ingested event
    generalize s.ingest event = result at h hempty
    cases h with
    | ignored hc hg => cases hs' : s.isEmpty <;> simp_all
    | removed hc hg =>
      have hne := s.isEmpty_of_get? hg
      have hleft : (s.roster.erase event.id).isEmpty = false := hempty
      simp [hne, hleft]
    | inserted | updated | stale =>
      cases hs' : s.isEmpty with
      | true => simp [hold hs']
      | false =>
        obtain ⟨t, ht⟩ := Option.isSome_iff_exists.mp (hsome hs')
        simp [ht]

/-- Only an event can take alarms in or out. -/
theorem isEmpty_apply (op : Operation) (h : ∀ event, op ≠ .ingest event) :
    (s.apply op).isEmpty = s.isEmpty := by
  cases op with
  | ingest event => exact absurd rfl (h event)
  | desktopBatch now timeout order =>
    exact isEmpty_of_marked fun id =>
      (s.get?_desktopBatch now timeout order id).imp fun _ hb => ⟨false, hb⟩
  | emailBatch => exact isEmpty_of_marked fun id => ⟨false, true, s.get?_emailBatch id⟩

/-- As long as alarms are active, nothing moves the beginning of the episode. -/
theorem Coherent.oldest_apply (hs : s.Coherent) {op : Operation} (hbefore : s.isEmpty = false)
    (hafter : (s.apply op).isEmpty = false) : (s.apply op).oldest = s.oldest := by
  cases op with
  | ingest event =>
    change (s.ingest event).2.isEmpty = false at hafter
    change (s.ingest event).2.oldest = s.oldest
    rw [hs.oldest_ingest, hafter, hbefore]
    rfl
  | desktopBatch | emailBatch => rfl

/-- What brings alarms into an empty store is an event, and its time the beginning. -/
theorem Coherent.opens (hs : s.Coherent) {op : Operation} (hbefore : s.isEmpty = true)
    (hafter : (s.apply op).isEmpty = false) :
    ∃ event, op = .ingest event ∧ (s.apply op).oldest = some event.triggerTime := by
  cases op with
  | ingest event =>
    change (s.ingest event).2.isEmpty = false at hafter
    refine ⟨event, rfl, ?_⟩
    change (s.ingest event).2.oldest = some event.triggerTime
    rw [hs.oldest_ingest, hafter, hbefore]
    rfl
  | desktopBatch | emailBatch =>
    rw [isEmpty_apply _ fun _ => Operation.noConfusion, hbefore] at hafter
    cases hafter

/-! ## A whole sequence -/

/-- Behind the operations `before` the store is empty; `event` brings in an alarm, and from then on
alarms are active until the operations `later` are over. -/
structure Opening (s : AlarmStore) (before : List Operation) (event : AlarmRecord)
    (later : List Operation) : Prop where
  drained : (s.after before).isEmpty = true
  active : ∀ p, p <+: later → (s.after (before ++ .ingest event :: p)).isEmpty = false

variable {before later : List Operation} {event : AlarmRecord}

theorem Opening.initial (h : s.Opening before event later) {p : List Operation} (hp : p <+: later) :
    s.Opening before event p :=
  ⟨h.drained, fun q hq => h.active q (hq.trans hp)⟩

/-- Alarms that are active now came in behind some last time at which there were none. -/
theorem exists_opening (ops : List Operation) (h : (empty.after ops).isEmpty = false) :
    ∃ before event later, ops = before ++ .ingest event :: later ∧
      empty.Opening before event later := by
  induction ops using List.reverseRecOn with
  | nil => cases h
  | append_singleton ops op ih =>
    rw [after_concat] at h
    cases hbefore : (empty.after ops).isEmpty with
    | true =>
      obtain ⟨event, rfl, -⟩ := (coherent_after ops).opens hbefore h
      refine ⟨ops, event, [], rfl, hbefore, ?_⟩
      intro p hp
      rw [List.prefix_nil.mp hp, after_concat]
      exact h
    | false =>
      obtain ⟨before, event, later, rfl, hempty, hactive⟩ := ih hbefore
      refine ⟨before, event, later ++ [op], by simp, hempty, ?_⟩
      intro p hp
      rcases List.prefix_concat_iff.mp hp with rfl | hp
      · rw [← List.cons_append, ← List.append_assoc, after_concat]
        exact h
      · exact hactive p hp

theorem Opening.oldest (h : empty.Opening before event later) :
    (empty.after (before ++ .ingest event :: later)).oldest = some event.triggerTime := by
  induction later using List.reverseRecOn with
  | nil =>
    have hactive := h.active [] (List.prefix_refl _)
    rw [after_concat] at hactive ⊢
    obtain ⟨opening, heq, holdest⟩ := (coherent_after before).opens h.drained hactive
    cases heq
    exact holdest
  | append_singleton later op ih =>
    have hearlier := h.initial (List.prefix_append later [op])
    have hactive := h.active _ (List.prefix_refl _)
    rw [← List.cons_append, ← List.append_assoc, after_concat] at hactive ⊢
    rw [(coherent_after _).oldest_apply (hearlier.active _ (List.prefix_refl _)) hactive]
    exact ih hearlier

/-- **The beginning of an episode is the trigger time of its first alarm.** Along any operations a
store knows a beginning exactly while alarms are active, and then it is the trigger time of the
event that last took the store from empty to non-empty. There is such an event, and whatever came
behind it is of no account. -/
theorem oldest_eq_opening (ops : List Operation) :
    ((empty.after ops).oldest = none ↔ (empty.after ops).isEmpty = true) ∧
    ((empty.after ops).isEmpty = false →
      ∃ before event later, ops = before ++ .ingest event :: later ∧
        empty.Opening before event later) ∧
    ∀ before event later, ops = before ++ .ingest event :: later →
      empty.Opening before event later →
      (empty.after ops).oldest = some event.triggerTime := by
  refine ⟨(coherent_after ops).oldest_eq_none_iff, exists_opening ops, ?_⟩
  rintro before event later rfl h
  exact h.oldest

/-- The alarm that opens the episode is cleared, and an older one takes over. -/
def handedOver : List Operation :=
  [.ingest ⟨"PV1", "MAJOR", "HIHI", .ofSecond 1000, false, false⟩,
    .ingest ⟨"PV2", "MINOR", "LOW", .ofSecond 900, false, false⟩,
    .desktopBatch (.ofSecond 1010) (.ofSeconds 5),
    .ingest ⟨"PV1", "OK", "NO_ALARM", .ofSecond 1020, false, false⟩]

theorem oldest_eq_opening_handedOver :
    (empty.after handedOver).snapshot.map AlarmRecord.triggerTime = [.ofSecond 900] ∧
    (empty.after handedOver).oldest = some (.ofSecond 1000) := by
  refine ⟨by decide, (oldest_eq_opening handedOver).2.2 [] _ (handedOver.drop 1) rfl ⟨rfl, ?_⟩⟩
  intro p hp
  rw [← List.mem_inits] at hp
  revert p
  decide

end AlarmEscalation.AlarmStore
