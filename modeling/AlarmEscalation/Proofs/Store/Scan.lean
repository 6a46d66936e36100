import AlarmEscalation.Proofs.Store.Episode
import Mathlib.Data.List.Nodup
import Mathlib.Data.List.Perm.Basic

/-! # What a desktop scan leaves behind when it is broken off

A scan marks the records that are due one after the other, and breaks off at the first deadline that
is out of range. It has no batch then, but the marks that it set stay: the alarms that it came by
before are announced to nobody, neither now nor later. Which ones these are depends on the order in
which the records are looked at, so the statements are about every order. -/
namespace AlarmEscalation

namespace AlarmRecord

/-- The deadline of the record is a time that exists. -/
def hasDeadline (timeout : Span) (r : AlarmRecord) : Bool :=
  (r.triggerTime.shift? timeout).isSome

/-- The record is due on the desktop and has not been announced there. -/
def awaits (now : Instant) (timeout : Span) (r : AlarmRecord) : Bool :=
  r.triggerTime.isDue timeout now && !r.desktopNotified

theorem hasDeadline_of_awaits {now : Instant} {timeout : Span} {r : AlarmRecord}
    (h : r.awaits now timeout = true) : r.hasDeadline timeout = true := by
  have hdue : r.triggerTime.isDue timeout now = true := (Bool.and_eq_true_iff.mp h).1
  unfold hasDeadline
  unfold Instant.isDue at hdue
  cases hshift : r.triggerTime.shift? timeout with
  | none => simp [hshift] at hdue
  | some deadline => rfl

end AlarmRecord

namespace AlarmStore

variable {s : AlarmStore} {now : Instant} {timeout : Span} {order : List AlarmRecord}

/-- The records that get their mark from a scan in this order: those that wait for it among the ones
in front of the first deadline out of range. -/
def marks (now : Instant) (timeout : Span) (order : List AlarmRecord) : List AlarmRecord :=
  (order.takeWhile (·.hasDeadline timeout)).filter (·.awaits now timeout)

theorem marks_of_all (h : order.all (·.hasDeadline timeout) = true) :
    marks now timeout order = order.filter (·.awaits now timeout) := by
  rw [marks, List.takeWhile_eq_self_iff.mpr (List.all_eq_true.mp h)]

/-! ## One scan -/

theorem desktopScan_eq (now : Instant) (timeout : Span) (order : List AlarmRecord) :
    desktopScan now timeout order =
      (if order.all (·.hasDeadline timeout) then
          .ok ((order.filter (·.awaits now timeout)).map .markDesktop)
        else .error .timeOverflow,
        (order.takeWhile (·.hasDeadline timeout)).map
            (fun r => r.marked (r.awaits now timeout) false) ++
          order.dropWhile (·.hasDeadline timeout)) := by
  induction order with
  | nil => rfl
  | cons r rest ih =>
    simp only [desktopScan]
    cases hshift : r.triggerTime.shift? timeout with
    | none =>
      have hno : r.hasDeadline timeout = false := by simp [AlarmRecord.hasDeadline, hshift]
      simp [Instant.due?, hshift, hno]
    | some deadline =>
      have hhas : r.hasDeadline timeout = true := by simp [AlarmRecord.hasDeadline, hshift]
      have hdue : r.triggerTime.due? timeout now = some (r.triggerTime.isDue timeout now) :=
        Instant.due?_of_inRange hhas now
      have hwaits : (r.triggerTime.isDue timeout now && !r.desktopNotified) =
        r.awaits now timeout := rfl
      rw [hdue, ih]
      dsimp only
      rw [hwaits]
      cases hw : r.awaits now timeout with
      | false => simp [hhas, hw]
      | true =>
        cases hall : rest.all (·.hasDeadline timeout) <;>
          simp_all [Except.map, AlarmRecord.markDesktop_eq_marked]

theorem mem_marks_iff {r : AlarmRecord} :
    r ∈ marks now timeout order ↔
      r ∈ order.takeWhile (·.hasDeadline timeout) ∧ r.awaits now timeout = true := by
  rw [marks, List.mem_filter]

/-- A scan changes nothing but the records that get their mark from it. -/
theorem desktopScan_records (h : order.Nodup) :
    (desktopScan now timeout order).2 =
      order.map fun r => r.marked (decide (r ∈ marks now timeout order)) false := by
  have hsplit := List.takeWhile_append_dropWhile (p := (·.hasDeadline timeout)) (l := order)
  have hapart : List.Disjoint (order.takeWhile (·.hasDeadline timeout))
      (order.dropWhile (·.hasDeadline timeout)) := by
    rw [← hsplit] at h
    exact List.disjoint_of_nodup_append h
  have hfirst : (order.takeWhile (·.hasDeadline timeout)).map
        (fun r => r.marked (r.awaits now timeout) false) =
      (order.takeWhile (·.hasDeadline timeout)).map
        fun r => r.marked (decide (r ∈ marks now timeout order)) false := by
    refine List.map_congr_left fun r hr => ?_
    simp [mem_marks_iff, hr]
  have hrest : (order.dropWhile (·.hasDeadline timeout)).map
      (fun r => r.marked (decide (r ∈ marks now timeout order)) false) =
        order.dropWhile (·.hasDeadline timeout) := by
    refine (List.map_congr_left fun r hr => ?_).trans (List.map_id _)
    have hout : r ∉ marks now timeout order := fun hm => hapart (mem_marks_iff.mp hm).1 hr
    simp [hout]
  rw [desktopScan_eq, hfirst, ← hrest, ← List.map_append, hsplit]

/-- Marks that are missing can be seen, so a scan without marks is one that changes nothing. -/
theorem desktopScan_unchanged_iff (h : order.Nodup) :
    (desktopScan now timeout order).2 = order ↔ marks now timeout order = [] := by
  rw [desktopScan_records h]
  constructor
  · intro hsame
    rw [List.eq_nil_iff_forall_not_mem]
    intro r hr
    have hmem : r ∈ order := List.takeWhile_subset _ (mem_marks_iff.mp hr).1
    have hself : r.marked (decide (r ∈ marks now timeout order)) false = r :=
      List.map_eq_map_iff.mp (hsame.trans (List.map_id order).symm) r hmem
    have hunmarked : r.desktopNotified = false := by
      simpa using (Bool.and_eq_true_iff.mp (mem_marks_iff.mp hr).2).2
    have hmark := congrArg AlarmRecord.desktopNotified hself
    simp [AlarmRecord.marked, hr, hunmarked] at hmark
  · intro hnone
    simp [hnone]

/-- What a scan in this order hands out, and what it leaves behind. -/
structure Scans (now : Instant) (timeout : Span) (order : List AlarmRecord) : Prop where
  handedOut : (desktopScan now timeout order).1 =
    if order.all (·.hasDeadline timeout) then .ok ((marks now timeout order).map .markDesktop)
    else .error .timeOverflow
  records : (desktopScan now timeout order).2 =
    order.map fun r => r.marked (decide (r ∈ marks now timeout order)) false
  unchanged_iff : (desktopScan now timeout order).2 = order ↔ marks now timeout order = []

theorem scans (h : order.Nodup) : Scans now timeout order := by
  refine ⟨?_, desktopScan_records h, desktopScan_unchanged_iff h⟩
  rw [desktopScan_eq]
  dsimp only
  split
  · rename_i hall
    rw [marks_of_all hall]
  · rfl

/-! ## Every order -/

/-- Whatever order the records of a store have, there is a scan that comes by them in it. -/
theorem exists_arrange {records : List AlarmRecord} (h : order.Perm records) :
    ∃ scan : ScanOrder, scan.arrange records = order := by
  refine ⟨⟨fun l => if l = records then order else l, fun l => ?_⟩, if_pos rfl⟩
  split
  · rename_i heq
    exact heq ▸ h
  · exact .refl l

theorem nodup_snapshot (s : AlarmStore) : s.snapshot.Nodup := s.roster.nodup_records

theorem ids_desktopScan (h : order.Nodup) :
    (desktopScan now timeout order).2.map AlarmRecord.id = order.map AlarmRecord.id := by
  rw [desktopScan_records h, List.map_map]
  rfl

/-- In the order in which the records are kept, what is handed out and what is left behind need not
be put in order. -/
theorem desktopBatch_ascending (s : AlarmStore) (now : Instant) (timeout : Span) :
    (s.desktopBatch now timeout).1 = (desktopScan now timeout s.snapshot).1 ∧
      (s.desktopBatch now timeout).2.snapshot = (desktopScan now timeout s.snapshot).2 := by
  constructor
  · change (desktopScan now timeout s.snapshot).1.map _ = _
    rw [desktopScan_eq]
    dsimp only
    split
    · exact congrArg Except.ok (Roster.records_ofRecords (.refl _)
        (s.ascending_of_selected _ AlarmRecord.markDesktop_id))
    · rfl
  · refine Roster.records_ofRecords (.refl _) ?_
    rw [ids_desktopScan s.nodup_snapshot]
    exact s.roster.ascending

/-- A record that waits for its mark can be the first that a scan looks at. -/
theorem exists_marks_iff (s : AlarmStore) (now : Instant) (timeout : Span) :
    (∃ order, order.Perm s.snapshot ∧ marks now timeout order ≠ []) ↔
      ∃ r ∈ s.snapshot, r.awaits now timeout = true := by
  constructor
  · rintro ⟨order, hperm, hne⟩
    obtain ⟨r, hr⟩ := List.exists_mem_of_ne_nil _ hne
    obtain ⟨hmem, hawaits⟩ := mem_marks_iff.mp hr
    exact ⟨r, hperm.mem_iff.mp (List.takeWhile_subset _ hmem), hawaits⟩
  · rintro ⟨r, hr, hawaits⟩
    have hhas := AlarmRecord.hasDeadline_of_awaits hawaits
    refine ⟨r :: s.snapshot.erase r, (List.perm_cons_erase hr).symm, ?_⟩
    refine List.ne_nil_of_mem (mem_marks_iff.mpr ⟨?_, hawaits⟩)
    simp [hhas]

/-- **A scan that is broken off keeps its marks.** In whatever order a scan looks at the records of
a store, it comes to its end exactly if all their deadlines exist, and then hands out what it marks.
If it is broken off it hands out nothing, and has marked those that were due in front of the break.
So the records stay as they were exactly if there were none of these, and do so in every order
exactly if no record at all is due that has not been announced. -/
theorem broken_scan_keeps_marks (s : AlarmStore) (now : Instant) (timeout : Span) :
    (s.desktopBatch now timeout).1 = (desktopScan now timeout s.snapshot).1 ∧
    (s.desktopBatch now timeout).2.snapshot = (desktopScan now timeout s.snapshot).2 ∧
    (∀ order, order.Perm s.snapshot → Scans now timeout order) ∧
    ((∀ order, order.Perm s.snapshot → (desktopScan now timeout order).2 = order) ↔
      ∀ r ∈ s.snapshot, r.awaits now timeout = false) := by
  have hscans : ∀ order, order.Perm s.snapshot → Scans now timeout order :=
    fun order hperm => scans (hperm.nodup_iff.mpr s.nodup_snapshot)
  have hexists := s.exists_marks_iff now timeout
  obtain ⟨hbatch, hleft⟩ := s.desktopBatch_ascending now timeout
  refine ⟨hbatch, hleft, hscans, ?_⟩
  constructor
  · intro hsame r hr
    by_contra hawaits
    obtain ⟨order, hperm, hne⟩ := hexists.mpr ⟨r, hr, by simpa using hawaits⟩
    exact hne ((hscans order hperm).unchanged_iff.mp (hsame order hperm))
  · intro hnone order hperm
    rw [(hscans order hperm).unchanged_iff]
    by_contra hne
    obtain ⟨r, hr, hawaits⟩ := hexists.mp ⟨order, hperm, hne⟩
    rw [hnone r hr] at hawaits
    cases hawaits

/-- An alarm, and one from the last second of all. -/
def strayed : AlarmStore :=
  empty.after
    [.ingest ⟨"PV1", "MAJOR", "HIHI", .ofSecond 0, false, false⟩,
      .ingest ⟨"PV2", "MAJOR", "HIHI", .ofSecond maxSeconds, false, false⟩]

/-- A scan that comes by the stray alarm first changes nothing. -/
theorem broken_scan_keeps_marks_strayed :
    strayed.snapshot.reverse.Perm strayed.snapshot ∧
    (desktopScan (.ofSecond 100) (.ofSeconds 5) strayed.snapshot.reverse).1 =
      .error .timeOverflow ∧
    (desktopScan (.ofSecond 100) (.ofSeconds 5) strayed.snapshot.reverse).2 =
      strayed.snapshot.reverse := by
  have hperm : strayed.snapshot.reverse.Perm strayed.snapshot := List.reverse_perm _
  have hscans : Scans (.ofSecond 100) (.ofSeconds 5) strayed.snapshot.reverse :=
    (broken_scan_keeps_marks strayed _ _).2.2.1 _ hperm
  exact ⟨hperm, hscans.handedOut.trans (by decide), hscans.unchanged_iff.mpr (by decide)⟩

/-- In ascending order the other alarm has its mark from a scan without a batch, and when the stray
one is gone the next scan does not hand it out. -/
theorem mark_lost_to_broken_scan :
    (strayed.desktopBatch (.ofSecond 100) (.ofSeconds 5)).1 = .error .timeOverflow ∧
    (strayed.get? "PV1").map AlarmRecord.desktopNotified = some false ∧
    ((strayed.desktopBatch (.ofSecond 100) (.ofSeconds 5)).2.get? "PV1").map
      AlarmRecord.desktopNotified = some true ∧
    ((strayed.after
      [.desktopBatch (.ofSecond 100) (.ofSeconds 5),
        .ingest ⟨"PV2", "OK", "NO_ALARM", .ofSecond 101, false, false⟩]).desktopBatch
          (.ofSecond 110) (.ofSeconds 5)).1 = .ok [] :=
  ⟨by decide, by decide, by decide, by decide⟩

end AlarmStore

end AlarmEscalation
