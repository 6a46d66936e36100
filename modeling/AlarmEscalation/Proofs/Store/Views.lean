import AlarmEscalation.Proofs.Store.Table

/-! # What the views of a store say of each other

A store can be asked for one record, for all of them, for their number, and for those that a channel
has yet to announce. Here these answers are compared: with each other, before and behind a scan, and
with those of a table that went through the same operations and meets its entries in another order
each time. -/
namespace AlarmEscalation

/-- A table and a store that went through the same operations. Before each of them the entries of
the table may have come into another order, and a scan of the store looks at the records in that
order, too. -/
inductive Reached : Table → AlarmStore → Prop
  | new : Reached {} .empty
  | shuffled {t t' : Table} {s : AlarmStore} : t'.entries.Perm t.entries → t'.oldest = t.oldest →
      Reached t s → Reached t' s
  | ingested {t : Table} {s : AlarmStore} (event : AlarmRecord) :
      Reached t s → Reached (t.ingest event).2 (s.ingest event).2
  | scanned {t : Table} {s : AlarmStore} (now : Instant) (timeout : Span) :
      Reached t s → Reached (t.desktopBatch now timeout).2 (s.scanned now timeout t.values)
  | mailed {t : Table} {s : AlarmStore} : Reached t s → Reached t.emailBatch.2 s.emailBatch.2

variable {t : Table} {s : AlarmStore}

theorem Reached.holds (h : Reached t s) : t.Holds s := by
  induction h with
  | new => exact Table.holds_empty
  | shuffled hperm holdest _ ih => exact ih.shuffled hperm holdest
  | ingested event _ ih => exact (ih.ingest event).2
  | scanned now timeout _ ih => exact ih.desktopBatch now timeout
  | mailed _ ih => exact ih.emailBatch.2

/-- The entries of a table may be met in the order of a scan. -/
theorem Reached.arranged (h : Reached t s) (order : ScanOrder) :
    Reached { t with entries := (order.arrange s.snapshot).map fun r => (r.id, r) } s := by
  have hentries : t.values.map (fun r => (r.id, r)) = t.entries := by
    rw [Table.values, List.map_map]
    refine (List.map_congr_left fun entry hentry => ?_).trans (List.map_id _)
    exact Prod.ext (h.holds.own hentry) rfl
  have hperm : ((order.arrange s.snapshot).map fun r => (r.id, r)).Perm t.entries :=
    hentries ▸ ((order.perm s.snapshot).trans h.holds.values_perm.symm).map _
  exact .shuffled hperm rfl h

/-- Every store of the operations of its own is reached, with some table. -/
theorem exists_reached_after (ops : List AlarmStore.Operation) :
    ∃ t, Reached t (AlarmStore.empty.after ops) := by
  induction ops using List.reverseRecOn with
  | nil => exact ⟨_, .new⟩
  | append_singleton ops op ih =>
    obtain ⟨t, h⟩ := ih
    rw [AlarmStore.after_concat]
    generalize AlarmStore.empty.after ops = s at h
    cases op with
    | ingest event => exact ⟨_, h.ingested event⟩
    | emailBatch => exact ⟨_, h.mailed⟩
    | desktopBatch now timeout order =>
      -- The table comes into the order of the scan first.
      have hscanned := (h.arranged order).scanned now timeout
      have hvalues : Table.values
          { t with entries := (order.arrange s.snapshot).map fun r => (r.id, r) } =
            order.arrange s.snapshot := by
        rw [Table.values, List.map_map]
        exact List.map_id _
      rw [hvalues, AlarmStore.scanned_arrange] at hscanned
      exact ⟨_, hscanned⟩

namespace AlarmStore

/-! ## No record clears -/

/-- The alarms of a store are active. -/
def Raising (s : AlarmStore) : Prop := ∀ id r, s.get? id = some r → r.isClearing = false

theorem isClearing_updated {r newer : AlarmRecord} (h : r.isClearing = false)
    (hnewer : newer.isClearing = false) : (r.updated newer).isClearing = false := by
  unfold AlarmRecord.updated
  split
  · exact hnewer
  · exact h

theorem Raising.ingest (h : s.Raising) (event : AlarmRecord) : (s.ingest event).2.Raising := by
  intro id r hr
  by_cases hid : id = event.id
  · subst hid
    rw [get?_ingest_self] at hr
    unfold AlarmRecord.takenIn at hr
    split at hr
    · cases hr
    · rename_i hc
      have hc : event.isClearing = false := by simpa using hc
      split at hr
      · cases hr
        exact hc
      · rename_i active hactive
        cases hr
        exact isClearing_updated (h _ active hactive) hc
  · rw [s.get?_ingest_of_ne event hid] at hr
    exact h id r hr

/-- Marks do not make a record a clearing one. -/
theorem Raising.marked (h : s.Raising) {after : AlarmStore} {desktop email : AlarmRecord → Bool}
    (hmarked : ∀ id, after.get? id = (s.get? id).map fun r => r.marked (desktop r) (email r)) :
    after.Raising := by
  intro id r hr
  rw [hmarked] at hr
  obtain ⟨before, hbefore, rfl⟩ := Option.map_eq_some_iff.mp hr
  exact h id before hbefore

theorem raising_of_reached (h : Reached t s) : s.Raising := by
  induction h with
  | new => exact fun _ _ hr => nomatch hr
  | shuffled _ _ _ ih => exact ih
  | ingested event _ ih => exact ih.ingest event
  | scanned now timeout _ ih => exact ih.marked (get?_scanned _ now timeout _)
  | mailed _ ih => exact ih.marked (get?_emailBatch _)

/-! ## Views -/

/-- What the views of a store say of each other. -/
structure Views (s : AlarmStore) : Prop where
  ascending : (s.snapshot.map fun r => Text.Utf8.encode r.id).Pairwise (· < ·)
  listed_iff : ∀ id, id ∈ s.snapshot.map AlarmRecord.id ↔ (s.get? id).isSome = true
  found : ∀ r ∈ s.snapshot, s.get? r.id = some r
  own : ∀ id r, s.get? id = some r → r.id = id
  length_eq : s.snapshot.length = s.count
  isEmpty_iff : s.isEmpty = true ↔ s.count = 0
  raising : ∀ r ∈ s.snapshot, r.isClearing = false

theorem Raising.views (h : s.Raising) : s.Views := by
  have hfound : ∀ r ∈ s.snapshot, s.get? r.id = some r := fun _ => s.mem_snapshot_iff.mp
  refine ⟨?_, fun id => Roster.isSome_get?_iff.symm, hfound, fun _ _ => s.get?_id, rfl, ?_, ?_⟩
  · refine List.pairwise_map.mpr ((List.pairwise_map.mp s.roster.ascending).imp ?_)
    intro a b hlt
    exact (Text.Utf8.encode_lt_iff a.id b.id).mpr hlt
  · rw [isEmpty, Roster.isEmpty, List.isEmpty_iff, ← List.length_eq_zero_iff]
    rfl
  · intro r hr
    exact h r.id r (hfound r hr)

/-! ## Batches -/

/-- A batch is what a snapshot shows afterwards of the records that were due before; these are
marked, and nothing else changes. -/
structure HandsOut (s : AlarmStore) (due : AlarmRecord → Bool) (mark : AlarmRecord → AlarmRecord)
    (batch : List AlarmRecord) (after : AlarmStore) : Prop where
  batch_eq : batch = after.snapshot.filter fun r => (s.get? r.id).any due
  records : ∀ id, after.get? id = (s.get? id).map fun r => if due r then mark r else r
  oldest : after.oldest = s.oldest

theorem handsOut_of_snapshot {due : AlarmRecord → Bool} {mark : AlarmRecord → AlarmRecord}
    {after : AlarmStore} (hmark : ∀ r, (mark r).id = r.id)
    (hsnapshot : after.snapshot = s.snapshot.map fun r => if due r then mark r else r)
    (holdest : after.oldest = s.oldest) :
    s.HandsOut due mark ((s.snapshot.filter due).map mark) after := by
  have hid : ∀ r, (if due r then mark r else r).id = r.id := by
    intro r
    split
    · exact hmark r
    · rfl
  refine ⟨?_, ?_, holdest⟩
  · have hdue : ∀ r ∈ s.snapshot, (s.get? (if due r then mark r else r).id).any due = due r := by
      intro r hr
      rw [hid, s.mem_snapshot_iff.mp hr]
      rfl
    rw [hsnapshot, List.filter_map]
    have hfilter : s.snapshot.filter ((fun r => (s.get? r.id).any due) ∘
        fun r => if due r then mark r else r) = s.snapshot.filter due :=
      List.filter_congr hdue
    rw [hfilter]
    refine List.map_congr_left fun r hr => ?_
    rw [if_pos (List.mem_filter.mp hr).2]
  · intro id
    rw [get?_eq_find?_snapshot, hsnapshot]
    exact Roster.find?_map_of_id hid _ id

theorem handsOut_desktopBatch (now : Instant) {timeout : Span} (order : ScanOrder)
    (h : s.InRange timeout) :
    ∃ batch, (s.desktopBatch now timeout order).1 = .ok batch ∧
      s.HandsOut (·.awaits now timeout) .markDesktop batch
        (s.desktopBatch now timeout order).2 := by
  refine ⟨_, desktopBatch_of_inRange now h, handsOut_of_snapshot AlarmRecord.markDesktop_id ?_ rfl⟩
  rw [snapshot_desktopBatch_of_inRange now h]
  refine List.map_congr_left fun r _ => ?_
  cases hnotified : r.desktopNotified with
  | true => simp [AlarmRecord.awaits, hnotified, AlarmRecord.marked_of_notified hnotified]
  | false =>
    cases hdue : r.triggerTime.isDue timeout now <;>
      simp [AlarmRecord.awaits, hnotified, hdue, AlarmRecord.markDesktop_eq_marked]

theorem handsOut_emailBatch (s : AlarmStore) :
    s.HandsOut (fun r => !r.emailNotified) .markEmail s.emailBatch.1 s.emailBatch.2 := by
  refine handsOut_of_snapshot AlarmRecord.markEmail_id ?_ rfl
  refine List.map_congr_left fun r _ => ?_
  obtain ⟨id, severity, status, triggerTime, desktopNotified, emailNotified⟩ := r
  cases emailNotified <;> rfl

end AlarmStore

/-! ## The law -/

/-- A table answers as a store does. -/
structure Table.Alike (t : Table) (s : AlarmStore) : Prop where
  own : ∀ entry ∈ t.entries, entry.2.id = entry.1
  get? : ∀ id, t.get? id = s.get? id
  snapshot : t.snapshot = s.snapshot
  count : t.count = s.count
  isEmpty : t.isEmpty = s.isEmpty
  ingest : ∀ event,
    (t.ingest event).1 = (s.ingest event).1 ∧ (t.ingest event).2.Holds (s.ingest event).2
  desktopBatch : ∀ now timeout order, s.InRange timeout →
    (t.desktopBatch now timeout).1 = (s.desktopBatch now timeout order).1 ∧
      (t.desktopBatch now timeout).2.Holds (s.desktopBatch now timeout order).2
  emailBatch : t.emailBatch.1 = s.emailBatch.1 ∧ t.emailBatch.2.Holds s.emailBatch.2

theorem Table.Holds.alike (h : t.Holds s) : t.Alike s :=
  ⟨fun _ => h.own, h.get?, h.snapshot_eq, h.count_eq, h.isEmpty_eq, h.ingest,
    fun now _ => h.desktopBatch_of_inRange now, h.emailBatch⟩

/-- **The views of a store and its batches agree.** Whatever a store and a table went through, and
in whatever order the entries of the table are met: the snapshot ascends by the bytes of the
identifiers and lists the records that can be looked up, each once and under its own identifier; the
number counts them, and none is a clearing one. Where all deadlines exist the desktop batch is what
the snapshot shows afterwards of the records that were due and not announced before, and the e-mail
batch likewise of all that were not announced there; both change nothing but the one mark of these
records. The table answers as the store does in every order. -/
theorem views_and_batches_agree (h : Reached t s) :
    s.Views ∧
    (∀ now timeout order, s.InRange timeout →
      ∃ batch, (s.desktopBatch now timeout order).1 = .ok batch ∧
        s.HandsOut (·.awaits now timeout) .markDesktop batch
          (s.desktopBatch now timeout order).2) ∧
    s.HandsOut (fun r => !r.emailNotified) .markEmail s.emailBatch.1 s.emailBatch.2 ∧
    ∀ t' : Table, t'.entries.Perm t.entries → t'.oldest = t.oldest → t'.Alike s :=
  ⟨(AlarmStore.raising_of_reached h).views, fun now _ => AlarmStore.handsOut_desktopBatch now,
    s.handsOut_emailBatch, fun _ hperm holdest => (h.holds.shuffled hperm holdest).alike⟩

/-- Two alarms that are raised one after the other are met in the opposite order, and handed out in
that of their identifiers. -/
theorem views_and_batches_agree_reversed :
    let first : AlarmRecord := ⟨"PV1", "MAJOR", "HIHI", .ofSecond 0, false, false⟩
    let second : AlarmRecord := ⟨"PV2", "MINOR", "HIGH", .ofSecond 1, false, false⟩
    let t := (Table.ingest (Table.ingest {} first).2 second).2
    let s := AlarmStore.empty.after [.ingest first, .ingest second]
    Reached t s ∧ t.values = [second, first] ∧ s.InRange (.ofSeconds 5) ∧
    (t.desktopBatch (.ofSecond 100) (.ofSeconds 5)).1 =
      .ok [first.markDesktop, second.markDesktop] ∧
    t.snapshot = [first, second] := by
  intro first second t s
  have h : Reached t s := (Reached.new.ingested first).ingested second
  obtain ⟨-, -, -, halike⟩ := views_and_batches_agree h
  have hsame : t.Alike s := halike t (.refl _) rfl
  have hrange : s.InRange (.ofSeconds 5) := by
    unfold AlarmStore.InRange
    decide
  exact ⟨h, by decide, hrange, ((hsame.desktopBatch _ _ .ascending hrange).1).trans (by decide),
    hsame.snapshot.trans (by decide)⟩

end AlarmEscalation
