import AlarmEscalation.Proofs.Store.Scan
import AlarmEscalation.Proofs.Text.Utf8

/-! # Alarms in a map without an order

A store keeps its records in the order of their identifiers. Here they are the entries of a map from
identifiers to records, which are met in any order whatever, and what is handed out is sorted
afterwards by the bytes of the identifiers. Such a table answers as the store does that holds the
same records, and goes on doing so. -/
namespace AlarmEscalation

namespace AlarmStore

/-- The store behind a scan that looks at the records in this order, and may be broken off. -/
def scanned (s : AlarmStore) (now : Instant) (timeout : Span) (order : List AlarmRecord) :
    AlarmStore :=
  { s with
    roster := s.roster.withRecords
      (s.snapshot.map fun r => r.marked (decide (r ∈ marks now timeout order)) false)
      (by rw [List.map_map]; rfl) }

theorem get?_scanned (s : AlarmStore) (now : Instant) (timeout : Span) (order : List AlarmRecord)
    (id : String) : (s.scanned now timeout order).get? id =
      (s.get? id).map fun r => r.marked (decide (r ∈ marks now timeout order)) false :=
  Roster.find?_map_of_id (fun r => r.marked_id _ _) s.snapshot id

/-- The batch of a store is the scan in its order. -/
theorem scanned_arrange (s : AlarmStore) (now : Instant) (timeout : Span) (order : ScanOrder) :
    s.scanned now timeout (order.arrange s.snapshot) = (s.desktopBatch now timeout order).2 := by
  have hperm := order.perm s.snapshot
  have hrecords : (desktopScan now timeout (order.arrange s.snapshot)).2 = _ :=
    desktopScan_records (hperm.nodup_iff.mpr s.nodup_snapshot)
  have hroster : (s.scanned now timeout (order.arrange s.snapshot)).roster =
      (s.desktopBatch now timeout order).2.roster := by
    refine Roster.ext_get? fun id => ?_
    change (s.scanned now timeout (order.arrange s.snapshot)).get? id =
      (Roster.ofRecords (desktopScan now timeout (order.arrange s.snapshot)).2).get? id
    rw [get?_scanned, Roster.get?_ofRecords, hrecords,
      Roster.find?_map_of_id fun r => r.marked_id _ _, Roster.find?_of_perm hperm]
    rfl
  exact congrArg (AlarmStore.mk · s.oldest) hroster

end AlarmStore

/-- A map from identifiers to records, its entries in the order in which they are met, and the
beginning of the episode. -/
structure Table where
  entries : List (String × AlarmRecord) := []
  oldest : Option Instant := none

namespace Table

def keys (t : Table) : List String := t.entries.map Prod.fst

def values (t : Table) : List AlarmRecord := t.entries.map Prod.snd

def get? (t : Table) (id : String) : Option AlarmRecord :=
  (t.entries.find? fun entry => entry.1 == id).map Prod.snd

def count (t : Table) : Nat := t.entries.length

def isEmpty (t : Table) : Bool := t.entries.isEmpty

def sorted (records : List AlarmRecord) : List AlarmRecord :=
  records.mergeSort fun a b => Text.Utf8.encode a.id ≤ Text.Utf8.encode b.id

def snapshot (t : Table) : List AlarmRecord := sorted t.values

/-- Other records under the same keys. -/
def withValues (t : Table) (values : List AlarmRecord) : Table :=
  { t with entries := t.keys.zip values }

/-- An entry brought up to date, if it is that of the event. -/
def refreshed (event : AlarmRecord) (entry : String × AlarmRecord) : String × AlarmRecord :=
  if entry.1 == event.id then (entry.1, entry.2.updated event) else entry

def ingest (t : Table) (event : AlarmRecord) : IngestOutcome × Table :=
  if event.isClearing then
    match t.get? event.id with
    | some _ =>
      let entries := t.entries.filter fun entry => entry.1 != event.id
      (.removed, { entries, oldest := if entries.isEmpty then none else t.oldest })
    | none => (.ignored, t)
  else
    let oldest := t.oldest.or (some event.triggerTime)
    match t.get? event.id with
    | some active =>
      if active.isOutdatedBy event then
        (.updated, { entries := t.entries.map (refreshed event), oldest })
      else (.stale, { t with oldest })
    | none => (.inserted, { entries := (event.id, event) :: t.entries, oldest })

def desktopBatch (t : Table) (now : Instant) (timeout : Span) :
    Except Fault (List AlarmRecord) × Table :=
  let scan := AlarmStore.desktopScan now timeout t.values
  (scan.1.map sorted, t.withValues scan.2)

def emailBatch (t : Table) : List AlarmRecord × Table :=
  (sorted ((t.values.filter fun r => !r.emailNotified).map .markEmail),
    t.withValues (t.values.map fun r => if r.emailNotified then r else r.markEmail))

/-! ## Look-up and order -/

section Lookup
variable {t : Table}

theorem get?_eq_some_iff (h : t.keys.Nodup) {id : String} {r : AlarmRecord} :
    t.get? id = some r ↔ (id, r) ∈ t.entries := by
  obtain ⟨entries, oldest⟩ := t
  simp only [get?, keys] at h ⊢
  induction entries with
  | nil => simp
  | cons entry rest ih =>
    obtain ⟨hfresh, hrest⟩ := List.nodup_cons.mp h
    by_cases hid : entry.1 = id
    · subst hid
      have hnot : (entry.1, r) ∉ rest := fun hr => hfresh (List.mem_map.mpr ⟨_, hr, rfl⟩)
      simp [hnot, Prod.ext_iff, eq_comm]
    · rw [List.find?_cons_of_neg (by simpa using hid), ih hrest, List.mem_cons]
      simp [Prod.ext_iff, Ne.symm hid]

theorem withValues_map (t : Table) (f : AlarmRecord → AlarmRecord) :
    t.withValues (t.values.map f) =
      { t with entries := t.entries.map fun entry => (entry.1, f entry.2) } := by
  simp only [withValues, keys, values, List.map_map, List.zip_map']
  rfl

theorem get?_withValues_map (t : Table) (f : AlarmRecord → AlarmRecord) (id : String) :
    (t.withValues (t.values.map f)).get? id = (t.get? id).map f := by
  rw [withValues_map]
  simp only [get?, List.find?_map, Option.map_map, Function.comp_def]

theorem keys_withValues_map (t : Table) (f : AlarmRecord → AlarmRecord) :
    (t.withValues (t.values.map f)).keys = t.keys := by
  rw [withValues_map]
  simp [keys]

end Lookup

/-- Records in the order of their identifiers are what sorting them comes to. -/
theorem sorted_eq {l l' : List AlarmRecord} (h : l.Perm l')
    (hascending : (l'.map AlarmRecord.id).Pairwise (· < ·)) : sorted l = l' := by
  let le (a b : AlarmRecord) : Bool := Text.Utf8.encode a.id ≤ Text.Utf8.encode b.id
  have hle : ∀ a b, le a b = true ↔ a.id ≤ b.id := by
    intro a b
    rw [decide_eq_true_iff, ← List.not_lt, Text.Utf8.encode_lt_iff, String.not_lt]
  have hsorted : (sorted l).Pairwise fun a b => le a b = true := by
    apply List.pairwise_mergeSort
    · intro a b c hab hbc
      exact (hle a c).mpr (String.le_trans ((hle a b).mp hab) ((hle b c).mp hbc))
    · intro a b
      rw [Bool.or_eq_true, hle, hle]
      exact String.le_total a.id b.id
  have hperm : (sorted l).Perm l' := (List.mergeSort_perm l le).trans h
  have hascends : l'.Pairwise fun a b => le a b = true :=
    (List.pairwise_map.mp hascending).imp fun hlt =>
      (hle _ _).mpr (String.not_lt.mp (String.lt_asymm hlt))
  refine hperm.eq_of_pairwise ?_ hsorted hascends
  intro a b ha hb hab hba
  have hid : a.id = b.id := String.le_antisymm ((hle a b).mp hab) ((hle b a).mp hba)
  have hfound := Roster.find?_of_mem hascending (hperm.mem_iff.mp ha)
  rw [hid, Roster.find?_of_mem hascending hb] at hfound
  exact (Option.some.inj hfound).symm

/-! ## Tables and stores -/

/-- The table holds the records of the store, each once and under its identifier. -/
structure Holds (t : Table) (s : AlarmStore) : Prop where
  keys : t.keys.Nodup
  get? : ∀ id, t.get? id = s.get? id
  oldest : t.oldest = s.oldest

variable {t t' : Table} {s s' : AlarmStore}

theorem holds_empty : Holds {} AlarmStore.empty := ⟨.nil, fun _ => rfl, rfl⟩

theorem Holds.mem_entries_iff (h : t.Holds s) {entry : String × AlarmRecord} :
    entry ∈ t.entries ↔ s.get? entry.1 = some entry.2 := by
  rw [← h.get?, get?_eq_some_iff h.keys]

theorem Holds.own (h : t.Holds s) {entry : String × AlarmRecord} (hentry : entry ∈ t.entries) :
    entry.2.id = entry.1 := s.get?_id (h.mem_entries_iff.mp hentry)

theorem Holds.values_perm (h : t.Holds s) : t.values.Perm s.snapshot := by
  have hids : t.values.map AlarmRecord.id = t.keys := by
    rw [Table.values, Table.keys, List.map_map]
    exact List.map_congr_left fun entry hentry => h.own hentry
  have hnodup : t.values.Nodup := .of_map AlarmRecord.id (hids ▸ h.keys)
  refine (List.perm_ext_iff_of_nodup hnodup s.nodup_snapshot).mpr fun r => ?_
  rw [s.mem_snapshot_iff]
  constructor
  · intro hr
    obtain ⟨entry, hentry, rfl⟩ := List.mem_map.mp hr
    rw [h.own hentry]
    exact h.mem_entries_iff.mp hentry
  · intro hr
    exact List.mem_map.mpr ⟨(r.id, r), h.mem_entries_iff.mpr hr, rfl⟩

/-- Entries are met in any order. -/
theorem Holds.shuffled (h : t.Holds s) (hperm : t'.entries.Perm t.entries)
    (holdest : t'.oldest = t.oldest) : t'.Holds s := by
  have hkeys : t'.keys.Nodup := (hperm.map Prod.fst).nodup_iff.mpr h.keys
  refine ⟨hkeys, ?_, holdest.trans h.oldest⟩
  intro id
  ext r
  rw [get?_eq_some_iff hkeys, hperm.mem_iff, ← h.get?, get?_eq_some_iff h.keys]

theorem Holds.snapshot_eq (h : t.Holds s) : t.snapshot = s.snapshot :=
  sorted_eq h.values_perm s.roster.ascending

theorem Holds.count_eq (h : t.Holds s) : t.count = s.count := by
  have hlength := h.values_perm.length_eq
  rwa [values, List.length_map] at hlength

theorem Holds.isEmpty_eq (h : t.Holds s) : t.isEmpty = s.isEmpty := by
  have hlength : t.entries.length = s.roster.records.length := h.count_eq
  rw [Bool.eq_iff_iff]
  simp only [isEmpty, AlarmStore.isEmpty, Roster.isEmpty, List.isEmpty_iff,
    ← List.length_eq_zero_iff, hlength]

/-- Records are changed under their keys. -/
theorem Holds.withValues (h : t.Holds s) {f : AlarmRecord → AlarmRecord}
    (hget : ∀ id, s'.get? id = (s.get? id).map f) (holdest : s'.oldest = s.oldest) :
    (t.withValues (t.values.map f)).Holds s' := by
  refine ⟨?_, ?_, h.oldest.trans holdest.symm⟩
  · rw [keys_withValues_map]
    exact h.keys
  · intro id
    rw [get?_withValues_map, h.get?, hget]

/-! ## Operations -/

theorem get?_filter (entries : List (String × AlarmRecord)) (oldest : Option Instant)
    (id other : String) :
    get? { entries := entries.filter fun entry => entry.1 != id, oldest } other =
      if other = id then none else get? { entries, oldest } other := by
  simp only [get?, List.find?_filter]
  split
  · rename_i h
    subst h
    simp
  · rename_i h
    congr 2
    funext entry
    by_cases hentry : entry.1 = other <;> simp [hentry, h]

theorem refreshed_key (event : AlarmRecord) (entry : String × AlarmRecord) :
    (refreshed event entry).1 = entry.1 := by
  unfold refreshed
  split <;> rfl

theorem keys_refreshed (entries : List (String × AlarmRecord)) (event : AlarmRecord) :
    (entries.map (refreshed event)).map Prod.fst = entries.map Prod.fst := by
  rw [List.map_map]
  exact List.map_congr_left fun entry _ => refreshed_key event entry

theorem get?_refreshed (entries : List (String × AlarmRecord)) (oldest : Option Instant)
    (event : AlarmRecord) (id : String) :
    get? { entries := entries.map (refreshed event), oldest } id =
      (get? { entries, oldest } id).map fun r => if id = event.id then r.updated event else r := by
  simp only [get?, List.find?_map, Function.comp_def, refreshed_key]
  cases hfound : entries.find? (fun entry => entry.1 == id) with
  | none => rfl
  | some entry =>
    have hid : entry.1 = id := by simpa using List.find?_some hfound
    by_cases hevent : id = event.id <;> simp [refreshed, hid, hevent]

/-- A table and the store that it holds take in events alike. -/
theorem Holds.ingest (h : t.Holds s) (event : AlarmRecord) :
    (t.ingest event).1 = (s.ingest event).1 ∧ (t.ingest event).2.Holds (s.ingest event).2 := by
  have hingested := s.ingested event
  have hlookup := h.get? event.id
  generalize s.ingest event = result at hingested
  cases hingested with
  | ignored hc hg =>
    simp only [Table.ingest, hc, if_true, hlookup, hg]
    exact ⟨trivial, h⟩
  | removed hc hg =>
    have hheld : Holds
        { entries := t.entries.filter fun entry => entry.1 != event.id, oldest := s.oldest }
        { roster := s.roster.erase event.id, oldest := s.oldest } := by
      refine ⟨h.keys.sublist (List.filter_sublist.map _), ?_, rfl⟩
      intro id
      rw [get?_filter]
      change _ = (s.roster.erase event.id).get? id
      rw [Roster.get?_erase]
      exact if_congr Iff.rfl rfl (h.get? id)
    -- The episode ends with the last entry of the one as with the last record of the other.
    have hempty := hheld.isEmpty_eq
    simp only [Table.ingest, hc, if_true, hlookup, hg]
    refine ⟨trivial, hheld.keys, hheld.get?, ?_⟩
    rw [h.oldest]
    exact congrArg (fun empty : Bool => if empty then none else s.oldest) hempty
  | inserted hc hg =>
    have hfresh : event.id ∉ t.keys := by
      intro hmem
      obtain ⟨entry, hentry, hid⟩ := List.mem_map.mp hmem
      have hfound := h.mem_entries_iff.mp hentry
      rw [hid, hg] at hfound
      cases hfound
    simp only [Table.ingest, hc, Bool.false_eq_true, if_false, hlookup, hg]
    refine ⟨trivial, List.nodup_cons.mpr ⟨hfresh, h.keys⟩, ?_, by rw [h.oldest]⟩
    intro id
    change _ = (s.roster.put event).get? id
    rw [Roster.get?_put]
    by_cases hid : id = event.id
    · simp [Table.get?, hid]
    · have hrest : t.get? id = s.roster.get? id := h.get? id
      rw [if_neg hid, ← hrest]
      simp [Table.get?, Ne.symm hid]
  | @updated r hc hg hold =>
    have hid : r.id = event.id := s.get?_id hg
    simp only [Table.ingest, hc, Bool.false_eq_true, if_false, hlookup, hg, hold, if_true]
    refine ⟨trivial, ?_, ?_, by rw [h.oldest]⟩
    · rw [Table.keys, keys_refreshed]
      exact h.keys
    · intro id
      have hrest : t.get? id = s.get? id := h.get? id
      rw [get?_refreshed]
      change (t.get? id).map _ = (s.roster.put (r.updated event)).get? id
      rw [Roster.get?_put, AlarmRecord.updated_id, hid, hrest]
      by_cases hevent : id = event.id
      · simp [hevent, hg]
      · simp [hevent]
        rfl
  | stale hc hg hold =>
    simp only [Table.ingest, hc, Bool.false_eq_true, if_false, hlookup, hg, hold]
    exact ⟨trivial, h.keys, h.get?, by rw [h.oldest]⟩

theorem Holds.desktopBatch (h : t.Holds s) (now : Instant) (timeout : Span) :
    (t.desktopBatch now timeout).2.Holds (s.scanned now timeout t.values) := by
  have hnodup : t.values.Nodup := h.values_perm.nodup_iff.mpr s.nodup_snapshot
  rw [Table.desktopBatch, AlarmStore.desktopScan_records hnodup]
  exact h.withValues (s.get?_scanned now timeout t.values) rfl

/-- A scan that comes to its end has the same batch in every order, and sets the same marks. -/
theorem Holds.desktopBatch_of_inRange (h : t.Holds s) (now : Instant) {timeout : Span}
    (order : ScanOrder) (hrange : s.InRange timeout) :
    (t.desktopBatch now timeout).1 = (s.desktopBatch now timeout order).1 ∧
      (t.desktopBatch now timeout).2.Holds (s.desktopBatch now timeout order).2 := by
  have hvalues : ∀ r ∈ t.values, (r.triggerTime.shift? timeout).isSome := fun r hr =>
    hrange r (h.values_perm.mem_iff.mp hr)
  rw [AlarmStore.desktopBatch_of_inRange now hrange]
  rw [Table.desktopBatch, AlarmStore.desktopScan_of_inRange now timeout hvalues]
  constructor
  · refine congrArg Except.ok (sorted_eq ((h.values_perm.filter _).map _) ?_)
    exact s.ascending_of_selected _ AlarmRecord.markDesktop_id
  · exact h.withValues (AlarmStore.get?_desktopBatch_of_inRange now hrange) rfl

theorem Holds.emailBatch (h : t.Holds s) :
    t.emailBatch.1 = s.emailBatch.1 ∧ t.emailBatch.2.Holds s.emailBatch.2 := by
  have hmark : ∀ r : AlarmRecord, (if r.emailNotified then r else r.markEmail) = r.markEmail := by
    rintro ⟨id, severity, status, triggerTime, desktopNotified, emailNotified⟩
    cases emailNotified <;> rfl
  constructor
  · refine sorted_eq ((h.values_perm.filter _).map _) ?_
    exact s.ascending_of_selected _ AlarmRecord.markEmail_id
  · simp only [Table.emailBatch, hmark]
    refine h.withValues (fun id => ?_) rfl
    simp only [AlarmRecord.markEmail_eq_marked]
    exact s.get?_emailBatch id

end Table

end AlarmEscalation
