import AlarmEscalation.Store.Basic
import Mathlib.Data.List.Nodup

/-! # What the operations of a store do to its look-up

Every later statement about a store goes through `get?`, `count` and `oldest`. This file says once
what taking in an event and handing out a batch do to each of them; nothing behind it opens
`ingest`, `desktopBatch` or `emailBatch` again. -/
namespace AlarmEscalation

/-- The beginning of a second, or of the epoch if there is no such second. -/
def Instant.ofSecond (seconds : Int) : Instant := (ofParts? seconds 0).getD epoch

/-- Whether the moment `span` after `t` exists and has come at `now`. -/
def Instant.isDue (t : Instant) (span : Span) (now : Instant) : Bool :=
  (t.shift? span).any fun deadline => deadline ≤ now

theorem Instant.due?_of_inRange {t : Instant} {span : Span} (h : (t.shift? span).isSome)
    (now : Instant) : t.due? span now = some (t.isDue span now) := by
  obtain ⟨deadline, hd⟩ := Option.isSome_iff_exists.mp h
  simp [due?, isDue, hd]

theorem Instant.isDue_of_due? {t : Instant} {span : Span} {now : Instant} {due : Bool}
    (h : t.due? span now = some due) : t.isDue span now = due := by
  obtain ⟨deadline, hd, rfl⟩ := Option.map_eq_some_iff.mp h
  simp [isDue, hd]

theorem Instant.isDue_mono {t : Instant} {span : Span} {now later : Instant} (hle : now ≤ later)
    (h : t.isDue span now = true) : t.isDue span later = true := by
  obtain ⟨deadline, hdeadline, hpassed⟩ := (Option.any_eq_true ..).mp h
  have hlater : deadline ≤ later := Instant.le_trans (of_decide_eq_true hpassed) hle
  simp [isDue, hdeadline, hlater]

theorem Instant.shift?_zero (t : Instant) : t.shift? ⟨0⟩ = some t := by
  have hvalid : Valid t.seconds t.nanos := ⟨t.seconds_ge, t.seconds_le, t.nanos_lt⟩
  have hwhole : (⟨0⟩ : Span).whole = 0 := rfl
  have hpart : (⟨0⟩ : Span).part = 0 := rfl
  have hparts : t.shiftParts ⟨0⟩ = (t.seconds, (t.nanos : Int)) := by
    have hlt := t.nanos_lt
    simp only [shiftParts, shiftBase, StaysInLeap, hwhole, hpart, nanosPerSecond] at hlt ⊢
    split
    · simp
    · rename_i hstays
      have hordinary : t.nanos < 1000000000 := by
        by_contra hleap
        exact hstays ⟨by omega, trivial, by omega⟩
      rw [if_pos hordinary, if_neg (by omega), if_neg (by omega)]
      simp
  simp [shift?, hparts, ofParts?, hvalid]

/-! ## Rosters -/

namespace Roster

theorem nodup_of_ascending {ids : List String} (h : ids.Pairwise (· < ·)) : ids.Nodup :=
  h.imp fun {a b} (hlt : a < b) (he : a = b) => String.lt_irrefl a (he ▸ hlt)

theorem nodup_ids (roster : Roster) : (roster.records.map AlarmRecord.id).Nodup :=
  nodup_of_ascending roster.ascending

theorem nodup_records (roster : Roster) : roster.records.Nodup :=
  .of_map AlarmRecord.id roster.nodup_ids

theorem find?_of_mem {l : List AlarmRecord} (h : (l.map AlarmRecord.id).Pairwise (· < ·))
    {r : AlarmRecord} (hr : r ∈ l) : l.find? (fun x => x.id == r.id) = some r := by
  induction l with
  | nil => cases hr
  | cons s rest ih =>
    obtain ⟨hs, hrest⟩ := List.pairwise_cons.mp h
    rcases List.mem_cons.mp hr with rfl | hr
    · simp
    · have hlt : s.id < r.id := hs _ (List.mem_map_of_mem hr)
      have hne : s.id ≠ r.id := fun he => String.lt_irrefl _ (he ▸ hlt)
      rw [List.find?_cons_of_neg (by simpa using hne)]
      exact ih hrest hr

theorem mem_records_iff {roster : Roster} {r : AlarmRecord} :
    r ∈ roster.records ↔ roster.get? r.id = some r :=
  ⟨find?_of_mem roster.ascending, List.mem_of_find?_eq_some⟩

theorem isSome_get?_iff {roster : Roster} {id : String} :
    (roster.get? id).isSome ↔ id ∈ roster.records.map AlarmRecord.id := by
  simp [get?, List.find?_isSome]

/-- The order is that of the identifiers, so a roster is told by its look-up. -/
theorem ext_get? {roster roster' : Roster} (h : ∀ id, roster'.get? id = roster.get? id) :
    roster' = roster := by
  have hperm : roster'.records.Perm roster.records := by
    refine (List.perm_ext_iff_of_nodup roster'.nodup_records roster.nodup_records).mpr fun r => ?_
    rw [mem_records_iff, mem_records_iff, h]
  have hascending : ∀ r : Roster, r.records.Pairwise fun a b => a.id < b.id := fun r =>
    List.pairwise_map.mp r.ascending
  have hrecords : roster'.records = roster.records :=
    hperm.eq_of_pairwise (fun a b _ _ hlt hgt => absurd hgt (String.lt_asymm hlt))
      (hascending roster') (hascending roster)
  cases roster
  cases hrecords
  rfl

/-- Identifiers are distinct, so records are looked up alike in every order. -/
theorem find?_of_perm {roster : Roster} {l : List AlarmRecord} (h : l.Perm roster.records)
    (id : String) : l.find? (fun r => r.id == id) = roster.get? id := by
  cases hfound : l.find? (fun r => r.id == id) with
  | none =>
    symm
    refine List.find?_eq_none.mpr fun r hr => ?_
    exact List.find?_eq_none.mp hfound r (h.mem_iff.mpr hr)
  | some r =>
    have hid : r.id = id := by simpa using List.find?_some hfound
    rw [← hid]
    exact (mem_records_iff.mp (h.mem_iff.mp (List.mem_of_find?_eq_some hfound))).symm

theorem ofRecords_of_perm {roster : Roster} {l : List AlarmRecord} (h : l.Perm roster.records) :
    ofRecords l = roster :=
  ext_get? fun id => (get?_ofRecords l id).trans (find?_of_perm h id)

/-- Records come into the order of their identifiers, whatever order they were in. -/
theorem records_ofRecords {l l' : List AlarmRecord} (h : l.Perm l')
    (hascending : (l'.map AlarmRecord.id).Pairwise (· < ·)) : (ofRecords l).records = l' :=
  congrArg records (show ofRecords l = ⟨l', hascending⟩ from ofRecords_of_perm h)

/-- A change that keeps identifiers is seen in the look-up as the same change. -/
theorem find?_map_of_id {f : AlarmRecord → AlarmRecord} (hf : ∀ r, (f r).id = r.id)
    (l : List AlarmRecord) (id : String) :
    (l.map f).find? (fun r => r.id == id) = (l.find? fun r => r.id == id).map f := by
  simp only [List.find?_map, Function.comp_def, hf]

theorem length_place_of_absent {r : AlarmRecord} {l : List AlarmRecord}
    (h : r.id ∉ l.map AlarmRecord.id) : (place r l).length = l.length + 1 := by
  induction l with
  | nil => rfl
  | cons s rest ih =>
    obtain ⟨hne, hrest⟩ : r.id ≠ s.id ∧ r.id ∉ rest.map AlarmRecord.id := by
      simpa [not_or] using h
    simp only [place]
    split
    · rfl
    · simp [ih hrest]

theorem length_place_of_present {r : AlarmRecord} {l : List AlarmRecord}
    (hl : (l.map AlarmRecord.id).Pairwise (· < ·)) (h : r.id ∈ l.map AlarmRecord.id) :
    (place r l).length = l.length := by
  induction l with
  | nil => simp at h
  | cons s rest ih =>
    obtain ⟨hs, hrest⟩ := List.pairwise_cons.mp hl
    rcases List.mem_cons.mp h with he | hmem
    · simp [place, he]
    · have hlt := hs _ hmem
      have hnlt : ¬ r.id < s.id := String.lt_asymm hlt
      have hne : r.id ≠ s.id := fun he => String.lt_irrefl _ (he ▸ hlt)
      simp [place, hnlt, hne, ih hrest hmem]

theorem count_put (roster : Roster) (r : AlarmRecord) :
    (roster.put r).count =
      if (roster.get? r.id).isSome then roster.count else roster.count + 1 := by
  split
  · rename_i h
    exact length_place_of_present roster.ascending (isSome_get?_iff.mp h)
  · rename_i h
    exact length_place_of_absent fun hm => h (isSome_get?_iff.mpr hm)

/-- Taking out an identifier that occurs takes out one record: identifiers are distinct. -/
theorem count_erase {roster : Roster} {id : String} (h : (roster.get? id).isSome) :
    (roster.erase id).count + 1 = roster.count := by
  obtain ⟨r, hr⟩ := Option.isSome_iff_exists.mp h
  have hid := get?_id hr
  subst hid
  have hmem : r.id ∈ roster.records.map AlarmRecord.id := isSome_get?_iff.mp h
  have hids : (roster.erase r.id).records.map AlarmRecord.id =
      (roster.records.map AlarmRecord.id).erase r.id := by
    rw [roster.nodup_ids.erase_eq_filter, List.filter_map]
    rfl
  have hlen := congrArg List.length hids
  rw [List.length_erase_of_mem hmem] at hlen
  have hpos := List.length_pos_of_mem hmem
  simp only [List.length_map] at hlen hpos
  simp only [count]
  omega

theorem isEmpty_iff {roster : Roster} : roster.isEmpty = true ↔ ∀ id, roster.get? id = none := by
  constructor
  · intro h id
    simp only [isEmpty, List.isEmpty_iff] at h
    simp [get?, h]
  · intro h
    simp only [isEmpty, List.isEmpty_iff]
    exact List.eq_nil_iff_forall_not_mem.mpr fun r hr => by
      have := mem_records_iff.mp hr
      rw [h] at this
      cases this

theorem isEmpty_put (roster : Roster) (r : AlarmRecord) : (roster.put r).isEmpty = false := by
  refine Bool.eq_false_iff.mpr fun h => ?_
  have := isEmpty_iff.mp h r.id
  simp [get?_put] at this

end Roster

/-! ## Events -/

namespace AlarmRecord

/-- The record of an identifier when an event for it comes to a store that has `active` there. -/
def takenIn (event : AlarmRecord) (active : Option AlarmRecord) : Option AlarmRecord :=
  if event.isClearing then none
  else match active with
    | none => some event
    | some r => some (r.updated event)

/-- What the store answers to such an event. -/
def outcome (event : AlarmRecord) (active : Option AlarmRecord) : IngestOutcome :=
  match active with
  | none => if event.isClearing then .ignored else .inserted
  | some r =>
    if event.isClearing then .removed
    else if r.isOutdatedBy event then .updated else .stale

@[simp] theorem updated_desktopNotified (r newer : AlarmRecord) :
    (r.updated newer).desktopNotified = r.desktopNotified := by
  unfold updated; split <;> rfl

@[simp] theorem updated_emailNotified (r newer : AlarmRecord) :
    (r.updated newer).emailNotified = r.emailNotified := by
  unfold updated; split <;> rfl

/-- The record with marks added to those it has. -/
def marked (r : AlarmRecord) (desktop email : Bool) : AlarmRecord :=
  { r with
    desktopNotified := r.desktopNotified || desktop
    emailNotified := r.emailNotified || email }

theorem markDesktop_eq_marked (r : AlarmRecord) : r.markDesktop = r.marked true false := by
  simp [marked, markDesktop]

theorem markEmail_eq_marked (r : AlarmRecord) : r.markEmail = r.marked false true := by
  simp [marked, markEmail]

@[simp] theorem marked_false (r : AlarmRecord) : r.marked false false = r := by simp [marked]

@[simp] theorem marked_marked (r : AlarmRecord) (d m d' m' : Bool) :
    (r.marked d m).marked d' m' = r.marked (d || d') (m || m') := by
  simp [marked, Bool.or_assoc]

@[simp] theorem marked_id (r : AlarmRecord) (d m : Bool) : (r.marked d m).id = r.id := rfl

theorem marked_of_notified {r : AlarmRecord} (h : r.desktopNotified = true) (d : Bool) :
    r.marked d false = r := by
  cases r
  simp_all [marked]

end AlarmRecord

namespace AlarmStore

/-- The five ways in which a store takes in an event. -/
inductive Ingested (s : AlarmStore) (event : AlarmRecord) : IngestOutcome × AlarmStore → Prop
  | ignored : event.isClearing = true → s.get? event.id = none → Ingested s event (.ignored, s)
  | removed {r : AlarmRecord} : event.isClearing = true → s.get? event.id = some r →
      Ingested s event (.removed,
        { roster := s.roster.erase event.id
          oldest := if (s.roster.erase event.id).isEmpty then none else s.oldest })
  | inserted : event.isClearing = false → s.get? event.id = none →
      Ingested s event (.inserted,
        { roster := s.roster.put event, oldest := s.oldest.or (some event.triggerTime) })
  | updated {r : AlarmRecord} : event.isClearing = false → s.get? event.id = some r →
      r.isOutdatedBy event = true →
      Ingested s event (.updated,
        { roster := s.roster.put (r.updated event)
          oldest := s.oldest.or (some event.triggerTime) })
  | stale {r : AlarmRecord} : event.isClearing = false → s.get? event.id = some r →
      r.isOutdatedBy event = false →
      Ingested s event (.stale, { s with oldest := s.oldest.or (some event.triggerTime) })

variable (s : AlarmStore) (event : AlarmRecord)

theorem ingested : Ingested s event (s.ingest event) := by
  unfold ingest
  split
  · rename_i hc
    unfold clear
    split
    · rename_i hg; exact .ignored hc hg
    · rename_i r hg; exact .removed hc hg
  · rename_i hc
    have hc : event.isClearing = false := by simpa using hc
    unfold raise
    dsimp only
    split
    · rename_i hg; exact .inserted hc hg
    · rename_i r hg
      split
      · rename_i hold; exact .updated hc hg hold
      · rename_i hold; exact .stale hc hg (by simpa using hold)

/-- An event can be taken in in one way only. -/
theorem Ingested.eq {s : AlarmStore} {event : AlarmRecord} {result : IngestOutcome × AlarmStore}
    (h : Ingested s event result) : s.ingest event = result := by
  cases h with
  | ignored hc hg | removed hc hg =>
    change s.roster.get? event.id = _ at hg
    simp [ingest, clear, hc, hg]
  | inserted hc hg =>
    change s.roster.get? event.id = _ at hg
    simp [ingest, raise, hc, hg]
  | updated hc hg hold | stale hc hg hold =>
    change s.roster.get? event.id = _ at hg
    simp [ingest, raise, hc, hg, hold]

theorem outcome_ingest : (s.ingest event).1 = event.outcome (s.get? event.id) := by
  have h := s.ingested event
  generalize s.ingest event = result at h
  cases h <;> simp_all [AlarmRecord.outcome]

theorem get?_id {id : String} {r : AlarmRecord} (h : s.get? id = some r) : r.id = id :=
  Roster.get?_id h

theorem get?_ingest_self : (s.ingest event).2.get? event.id = event.takenIn (s.get? event.id) := by
  have h := s.ingested event
  generalize s.ingest event = result at h
  cases h with
  | ignored hc hg => simp [AlarmRecord.takenIn, hc, hg]
  | removed hc hg => simp [AlarmRecord.takenIn, hc, get?, Roster.get?_erase]
  | inserted hc hg =>
    simp only [AlarmRecord.takenIn, hc, hg]
    simp [get?, Roster.get?_put]
  | updated hc hg hold =>
    have hid := s.get?_id hg
    simp only [AlarmRecord.takenIn, hc, hg]
    simp [get?, Roster.get?_put, hid]
  | stale hc hg hold =>
    simp only [AlarmRecord.takenIn, hc, hg, AlarmRecord.updated, hold]
    exact hg

/-- An event leaves the records of all other identifiers alone. -/
theorem get?_ingest_of_ne {id : String} (hne : id ≠ event.id) :
    (s.ingest event).2.get? id = s.get? id := by
  have h := s.ingested event
  generalize s.ingest event = result at h
  cases h with
  | ignored hc hg => rfl
  | removed hc hg => simp [get?, Roster.get?_erase, hne]
  | inserted hc hg => simp [get?, Roster.get?_put, hne]
  | updated hc hg hold => simp [get?, Roster.get?_put, s.get?_id hg, hne]
  | stale hc hg hold => rfl

/-- A record behind an event is the event itself, entered as a new alarm, or was there before. -/
theorem get?_ingest_cases {id : String} {r : AlarmRecord}
    (h : (s.ingest event).2.get? id = some r) :
    (((s.ingest event).1 = .inserted ∧ event.id = id) ∧ event.isClearing = false ∧ r = event) ∨
    (¬ ((s.ingest event).1 = .inserted ∧ event.id = id) ∧
      ∃ r0, s.get? id = some r0 ∧ (r = r0 ∨ r = r0.updated event)) := by
  by_cases hid : event.id = id
  · subst hid
    have hout := s.outcome_ingest event
    rw [get?_ingest_self] at h
    cases hc : event.isClearing with
    | true => simp [AlarmRecord.takenIn, hc] at h
    | false =>
      cases hg : s.get? event.id with
      | none =>
        rw [hg] at h hout
        refine .inl ⟨⟨by simp [hout, AlarmRecord.outcome, hc], rfl⟩, rfl, ?_⟩
        simpa [AlarmRecord.takenIn, hc] using h.symm
      | some r0 =>
        rw [hg] at h hout
        refine .inr ⟨?_, r0, rfl, .inr ?_⟩
        · intro hins
          simp only [hout, AlarmRecord.outcome, hc] at hins
          cases hold : r0.isOutdatedBy event <;> simp [hold] at hins
        · simpa [AlarmRecord.takenIn, hc] using h.symm
  · rw [s.get?_ingest_of_ne event (Ne.symm hid)] at h
    exact .inr ⟨fun hins => hid hins.2, r, h, .inl rfl⟩

/-- The number of records follows the answer. -/
theorem count_ingest :
    match (s.ingest event).1 with
    | .inserted => (s.ingest event).2.count = s.count + 1
    | .removed => (s.ingest event).2.count + 1 = s.count
    | _ => (s.ingest event).2.count = s.count := by
  have h := s.ingested event
  generalize s.ingest event = result at h
  cases h with
  | ignored hc hg => rfl
  | removed hc hg => exact Roster.count_erase (Option.isSome_of_eq_some hg)
  | inserted hc hg =>
    have hg : s.roster.get? event.id = none := hg
    simp [count, Roster.count_put, hg]
  | updated hc hg hold =>
    have hid := s.get?_id hg
    have hg : s.roster.get? event.id = some _ := hg
    simp [count, Roster.count_put, hid, hg]
  | stale hc hg hold => rfl

theorem mem_snapshot_iff {r : AlarmRecord} : r ∈ s.snapshot ↔ s.get? r.id = some r :=
  Roster.mem_records_iff

/-- Identifiers are distinct: a selection of records has one exactly if the record of this
identifier was selected. -/
theorem any_id_filter_snapshot (p : AlarmRecord → Bool) (id : String) :
    ((s.snapshot.filter p).any fun r => r.id == id) = (s.get? id).any p := by
  rw [Bool.eq_iff_iff, List.any_eq_true, Option.any_eq_true]
  constructor
  · rintro ⟨r, hr, hid⟩
    obtain ⟨hr, hp⟩ := List.mem_filter.mp hr
    have hid : r.id = id := by simpa using hid
    exact ⟨r, hid ▸ s.mem_snapshot_iff.mp hr, hp⟩
  · rintro ⟨r, hr, hp⟩
    have hid := s.get?_id hr
    subst hid
    exact ⟨r, List.mem_filter.mpr ⟨s.mem_snapshot_iff.mpr hr, hp⟩, by simp⟩

/-- A selection of a store's records, however marked, is in ascending order. -/
theorem ascending_of_selected (p : AlarmRecord → Bool)
    {f : AlarmRecord → AlarmRecord} (hf : ∀ r, (f r).id = r.id) :
    (((s.snapshot.filter p).map f).map AlarmRecord.id).Pairwise (· < ·) := by
  rw [List.map_map, show AlarmRecord.id ∘ f = AlarmRecord.id from funext hf]
  exact s.roster.ascending.sublist (List.filter_sublist.map _)

theorem isEmpty_iff_get? : s.isEmpty = true ↔ ∀ id, s.get? id = none := Roster.isEmpty_iff

theorem isEmpty_of_get? {id : String} {r : AlarmRecord} (h : s.get? id = some r) :
    s.isEmpty = false :=
  Bool.eq_false_iff.mpr fun he => by simp [s.isEmpty_iff_get?.mp he] at h

/-- A stale event leaves a store as it is once an episode runs there. -/
theorem ingest_of_stale (ho : s.oldest.isSome) (hs : (s.ingest event).1 = .stale) :
    (s.ingest event).2 = s := by
  obtain ⟨t, ht⟩ := Option.isSome_iff_exists.mp ho
  have h := s.ingested event
  generalize s.ingest event = result at h hs
  cases h with
  | stale hc hg hold => cases s; simp_all
  | ignored | removed | inserted | updated => cases hs

theorem oldest_ingest_isSome (ho : s.oldest.isSome) (hne : (s.ingest event).2.isEmpty = false) :
    (s.ingest event).2.oldest.isSome := by
  obtain ⟨t, ht⟩ := Option.isSome_iff_exists.mp ho
  have h := s.ingested event
  generalize s.ingest event = result at h hne
  cases h with
  | ignored => exact ho
  | removed =>
    have hne : (s.roster.erase event.id).isEmpty = false := hne
    simp [hne, ht]
  | inserted | updated | stale => simp

/-- The beginning of the episode is known exactly while alarms are active. -/
def Coherent (s : AlarmStore) : Prop := s.oldest.isNone = s.isEmpty

theorem coherent_empty : empty.Coherent := rfl

theorem Coherent.ingest {s : AlarmStore} (hs : s.Coherent) (event : AlarmRecord) :
    (s.ingest event).2.Coherent := by
  have h := s.ingested event
  generalize s.ingest event = result at h
  cases h with
  | ignored hc hg => exact hs
  | removed hc hg =>
    have hne := s.isEmpty_of_get? hg
    unfold Coherent at hs ⊢
    rw [hne] at hs
    cases he : (s.roster.erase event.id).isEmpty <;> simp_all [isEmpty]
  | inserted hc hg => simp [Coherent, isEmpty, Roster.isEmpty_put]
  | updated hc hg hold => simp [Coherent, isEmpty, Roster.isEmpty_put]
  | stale hc hg hold =>
    have hne : s.roster.isEmpty = false := s.isEmpty_of_get? hg
    simp [Coherent, isEmpty, hne]

/-- The times that a store knows: those of its records and the beginning of its episode. -/
structure TimesIn (P : Instant → Prop) (s : AlarmStore) : Prop where
  records : ∀ id r, s.get? id = some r → P r.triggerTime
  oldest : ∀ t, s.oldest = some t → P t

theorem timesIn_empty (P : Instant → Prop) : empty.TimesIn P :=
  ⟨fun _ _ h => (by cases h), fun _ h => (by cases h)⟩

theorem TimesIn.ingest {P : Instant → Prop} {s : AlarmStore} (hs : s.TimesIn P)
    {event : AlarmRecord} (he : event.isClearing = false → P event.triggerTime) :
    (s.ingest event).2.TimesIn P := by
  constructor
  · intro id r hr
    rcases s.get?_ingest_cases event hr with ⟨-, hc, rfl⟩ | ⟨-, r0, hr0, rfl | rfl⟩
    · exact he hc
    · exact hs.records id r hr0
    · simpa using hs.records id r0 hr0
  · intro t ht
    have h := s.ingested event
    generalize s.ingest event = result at h ht
    cases h with
    | ignored => exact hs.oldest t ht
    | removed =>
      dsimp only at ht
      split at ht
      · cases ht
      · exact hs.oldest t ht
    | inserted hc | updated hc | stale hc =>
      dsimp only at ht
      cases ho : s.oldest with
      | none =>
        rw [ho] at ht
        cases ht
        exact he hc
      | some t' =>
        rw [ho] at ht
        cases ht
        exact hs.oldest _ ho

/-! ## Batches -/

/-- Every deadline that a scan with this timeout looks at is a time that exists. -/
def InRange (s : AlarmStore) (timeout : Span) : Prop :=
  ∀ r ∈ s.snapshot, (r.triggerTime.shift? timeout).isSome

/-- A scan without a deadline out of range reads as a filter and a map. -/
theorem desktopScan_of_inRange (now : Instant) (timeout : Span) {l : List AlarmRecord}
    (h : ∀ r ∈ l, (r.triggerTime.shift? timeout).isSome) :
    desktopScan now timeout l =
      (.ok ((l.filter fun r => r.triggerTime.isDue timeout now && !r.desktopNotified).map
          AlarmRecord.markDesktop),
        l.map fun r => r.marked (r.triggerTime.isDue timeout now) false) := by
  induction l with
  | nil => rfl
  | cons r rest ih =>
    obtain ⟨hr, hrest⟩ := List.forall_mem_cons.mp h
    simp only [desktopScan, Instant.due?_of_inRange hr, ih hrest]
    cases hdue : r.triggerTime.isDue timeout now with
    | false => simp [hdue]
    | true =>
      cases hn : r.desktopNotified with
      | false => simp [hdue, hn, Except.map, AlarmRecord.markDesktop_eq_marked]
      | true => simp [hdue, hn, AlarmRecord.marked_of_notified hn]

/-- A scan, broken off or not, does nothing to a record but mark it when it is due. -/
theorem find?_desktopScan (now : Instant) (timeout : Span) (l : List AlarmRecord) (id : String) :
    ∃ b, (desktopScan now timeout l).2.find? (fun r => r.id == id) =
        (l.find? fun r => r.id == id).map (·.marked b false) ∧
      (b = true →
        (l.find? fun r => r.id == id).any (fun r => r.triggerTime.isDue timeout now) = true) := by
  induction l with
  | nil => exact ⟨false, rfl, Bool.noConfusion⟩
  | cons r rest ih =>
    simp only [desktopScan]
    cases hdue : r.triggerTime.due? timeout now with
    | none => exact ⟨false, by simp, Bool.noConfusion⟩
    | some due =>
      dsimp only
      by_cases hid : r.id = id
      · refine ⟨due && !r.desktopNotified, ?_, ?_⟩
        · cases due && !r.desktopNotified <;> simp [hid, AlarmRecord.markDesktop_eq_marked]
        · intro hmark
          obtain ⟨rfl, -⟩ := Bool.and_eq_true_iff.mp hmark
          simp [hid, Instant.isDue_of_due? hdue]
      · obtain ⟨b, hb, hmark⟩ := ih
        refine ⟨b, ?_, ?_⟩
        · split <;> simpa [hid] using hb
        · simpa [hid] using hmark

variable (now : Instant) (timeout : Span) {order : ScanOrder}

/-- A scan that comes to its end has the same batch in every order. -/
theorem desktopBatch_of_inRange {s : AlarmStore} {timeout : Span} (h : s.InRange timeout) :
    (s.desktopBatch now timeout order).1 =
      .ok ((s.snapshot.filter fun r => r.triggerTime.isDue timeout now && !r.desktopNotified).map
        AlarmRecord.markDesktop) := by
  have hperm := order.perm s.snapshot
  have hscan := desktopScan_of_inRange now timeout fun r hr => h r (hperm.mem_iff.mp hr)
  change (desktopScan now timeout (order.arrange s.snapshot)).1.map _ = _
  rw [hscan]
  exact congrArg Except.ok (Roster.records_ofRecords ((hperm.filter _).map _)
    (s.ascending_of_selected _ AlarmRecord.markDesktop_id))

theorem snapshot_desktopBatch_of_inRange {s : AlarmStore} {timeout : Span}
    (h : s.InRange timeout) :
    (s.desktopBatch now timeout order).2.snapshot =
      s.snapshot.map fun r => r.marked (r.triggerTime.isDue timeout now) false := by
  have hperm := order.perm s.snapshot
  have hscan := desktopScan_of_inRange now timeout fun r hr => h r (hperm.mem_iff.mp hr)
  have hids : ((s.snapshot.map fun r => r.marked (r.triggerTime.isDue timeout now) false).map
      AlarmRecord.id).Pairwise (· < ·) := by
    rw [List.map_map]
    exact s.roster.ascending
  change (Roster.ofRecords (desktopScan now timeout (order.arrange s.snapshot)).2).records = _
  rw [hscan]
  exact Roster.records_ofRecords (hperm.map _) hids

theorem get?_eq_find?_snapshot (id : String) :
    s.get? id = s.snapshot.find? fun r => r.id == id := rfl

theorem get?_desktopBatch_of_inRange {s : AlarmStore} {timeout : Span} (h : s.InRange timeout)
    (id : String) :
    (s.desktopBatch now timeout order).2.get? id =
      (s.get? id).map fun r => r.marked (r.triggerTime.isDue timeout now) false := by
  rw [get?_eq_find?_snapshot, snapshot_desktopBatch_of_inRange now h]
  exact Roster.find?_map_of_id (fun r => r.marked_id _ _) _ id

variable (order)

theorem get?_desktopBatch_due (id : String) :
    ∃ b, (s.desktopBatch now timeout order).2.get? id = (s.get? id).map (·.marked b false) ∧
      (b = true → (s.get? id).any (fun r => r.triggerTime.isDue timeout now) = true) := by
  have hfound := find?_desktopScan now timeout (order.arrange s.roster.records) id
  rw [Roster.find?_of_perm (order.perm s.roster.records)] at hfound
  obtain ⟨b, hb, hdue⟩ := hfound
  exact ⟨b, (Roster.get?_ofRecords _ id).trans hb, hdue⟩

theorem get?_desktopBatch (id : String) :
    ∃ b, (s.desktopBatch now timeout order).2.get? id = (s.get? id).map (·.marked b false) :=
  (s.get?_desktopBatch_due now timeout order id).imp fun _ h => h.1

theorem snapshot_emailBatch : s.emailBatch.2.snapshot = s.snapshot.map (·.marked false true) :=
  List.map_congr_left fun r _ => r.markEmail_eq_marked

theorem get?_emailBatch (id : String) :
    s.emailBatch.2.get? id = (s.get? id).map (·.marked false true) := by
  rw [get?_eq_find?_snapshot, snapshot_emailBatch]
  exact Roster.find?_map_of_id (fun r => r.marked_id _ _) _ id

/-- Marks neither take an alarm out nor bring one in. -/
theorem isEmpty_of_marked {s t : AlarmStore}
    (h : ∀ id, ∃ desktop email, t.get? id = (s.get? id).map (·.marked desktop email)) :
    t.isEmpty = s.isEmpty := by
  rw [Bool.eq_iff_iff, isEmpty_iff_get?, isEmpty_iff_get?]
  apply forall_congr'
  intro id
  obtain ⟨desktop, email, hmarked⟩ := h id
  rw [hmarked, Option.map_eq_none_iff]

theorem Coherent.desktopBatch {s : AlarmStore} (hs : s.Coherent) (now : Instant) (timeout : Span)
    (order : ScanOrder) : (s.desktopBatch now timeout order).2.Coherent := by
  have hempty : (s.desktopBatch now timeout order).2.isEmpty = s.isEmpty :=
    isEmpty_of_marked fun id =>
      (s.get?_desktopBatch now timeout order id).imp fun _ hb => ⟨false, hb⟩
  exact hs.trans hempty.symm

theorem Coherent.emailBatch {s : AlarmStore} (hs : s.Coherent) : s.emailBatch.2.Coherent := by
  have hempty : s.emailBatch.2.isEmpty = s.isEmpty :=
    isEmpty_of_marked fun id => ⟨false, true, s.get?_emailBatch id⟩
  exact hs.trans hempty.symm

end AlarmStore

end AlarmEscalation
