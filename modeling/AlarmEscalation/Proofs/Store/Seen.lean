import AlarmEscalation.Channel
import AlarmEscalation.Proofs.Store.View

/-! # A store as one channel sees it

Each channel has a mark of its own in every record. `AlarmStore.seenBy` takes the marks of all other
channels from a store; since no operation looks at a mark to decide what becomes of an alarm, a
store that is seen so takes in events just as the store itself does. -/
namespace AlarmEscalation

namespace AlarmRecord

/-- A record without the marks of other channels. -/
def seenBy (c : Channel) (r : AlarmRecord) : AlarmRecord :=
  { r with
    desktopNotified := decide (c = .desktop) && r.desktopNotified
    emailNotified := decide (c = .mail) && r.emailNotified }

@[simp] theorem seenBy_id (c : Channel) (r : AlarmRecord) : (r.seenBy c).id = r.id := rfl

@[simp] theorem seenBy_triggerTime (c : Channel) (r : AlarmRecord) :
    (r.seenBy c).triggerTime = r.triggerTime := rfl

@[simp] theorem isOutdatedBy_seenBy (c : Channel) (r newer : AlarmRecord) :
    (r.seenBy c).isOutdatedBy (newer.seenBy c) = r.isOutdatedBy newer := rfl

theorem updated_seenBy (c : Channel) (r newer : AlarmRecord) :
    (r.seenBy c).updated (newer.seenBy c) = (r.updated newer).seenBy c := by
  unfold updated
  rw [isOutdatedBy_seenBy]
  split <;> rfl

/-- A channel sees a mark if it is its own. -/
theorem seenBy_marked (c : Channel) (r : AlarmRecord) (desktop email : Bool) :
    (r.marked desktop email).seenBy c =
      (r.seenBy c).marked (decide (c = .desktop) && desktop) (decide (c = .mail) && email) := by
  simp [seenBy, marked, Bool.and_or_distrib_left]

end AlarmRecord

namespace Roster

variable (c : Channel) (roster : Roster)

/-- Records without the marks of other channels. -/
def seenBy : Roster :=
  roster.withRecords (roster.records.map (·.seenBy c)) (by simp [Function.comp_def])

theorem get?_seenBy (id : String) : (roster.seenBy c).get? id = (roster.get? id).map (·.seenBy c) :=
  find?_map_of_id (AlarmRecord.seenBy_id c) _ id

theorem isEmpty_seenBy : (roster.seenBy c).isEmpty = roster.isEmpty := List.isEmpty_map

theorem count_seenBy : (roster.seenBy c).count = roster.count := List.length_map _

theorem place_seenBy (r : AlarmRecord) (l : List AlarmRecord) :
    place (r.seenBy c) (l.map (·.seenBy c)) = (place r l).map (·.seenBy c) := by
  induction l with
  | nil => rfl
  | cons s rest ih =>
    simp only [List.map_cons, place, AlarmRecord.seenBy_id, ih]
    by_cases hlt : r.id < s.id
    · simp only [if_pos hlt, List.map_cons]
    · rw [if_neg hlt, if_neg hlt]
      by_cases heq : r.id = s.id
      · simp only [if_pos heq, List.map_cons]
      · simp only [if_neg heq, List.map_cons]

theorem put_seenBy (r : AlarmRecord) :
    (roster.seenBy c).put (r.seenBy c) = (roster.put r).seenBy c := by
  simp only [put, seenBy, withRecords, place_seenBy]

theorem erase_seenBy (id : String) :
    (roster.seenBy c).erase id = (roster.erase id).seenBy c := by
  simp only [erase, seenBy, withRecords, List.filter_map, Function.comp_def, AlarmRecord.seenBy_id]

end Roster

namespace AlarmStore

/-- A store is told by its records and the beginning of its episode. -/
theorem ext_snapshot {s t : AlarmStore} (hsnapshot : s.snapshot = t.snapshot)
    (holdest : s.oldest = t.oldest) : s = t := by
  obtain ⟨⟨records, ascending⟩, oldest⟩ := s
  obtain ⟨⟨records', ascending'⟩, oldest'⟩ := t
  cases hsnapshot
  cases holdest
  rfl

variable (c : Channel) (s : AlarmStore)

/-- A store without the marks of other channels. -/
def seenBy : AlarmStore := { roster := s.roster.seenBy c, oldest := s.oldest }

@[simp] theorem oldest_seenBy : (s.seenBy c).oldest = s.oldest := rfl

theorem snapshot_seenBy : (s.seenBy c).snapshot = s.snapshot.map (·.seenBy c) := rfl

@[simp] theorem isEmpty_seenBy : (s.seenBy c).isEmpty = s.isEmpty := Roster.isEmpty_seenBy c _

@[simp] theorem count_seenBy : (s.seenBy c).count = s.count := Roster.count_seenBy c _

theorem get?_seenBy (id : String) : (s.seenBy c).get? id = (s.get? id).map (·.seenBy c) :=
  s.roster.get?_seenBy c id

variable {s}

/-- A store without any marks, which is what the relay sees of it. -/
def unmarked (s : AlarmStore) : AlarmStore := s.seenBy .relay

theorem unmarked_of_marked {t : AlarmStore} (holdest : t.oldest = s.oldest)
    (h : ∀ id, ∃ desktop email, t.get? id = (s.get? id).map (·.marked desktop email)) :
    t.unmarked = s.unmarked := by
  have hroster : t.roster.seenBy .relay = s.roster.seenBy .relay := by
    refine Roster.ext_get? fun id => ?_
    obtain ⟨desktop, email, hmarked⟩ := h id
    have hmarked : t.roster.get? id = (s.roster.get? id).map (·.marked desktop email) := hmarked
    rw [Roster.get?_seenBy, Roster.get?_seenBy, hmarked, Option.map_map]
    exact congrArg (fun f => Option.map f _) (funext fun r => by simp [AlarmRecord.seenBy_marked])
  rw [unmarked, unmarked, AlarmStore.seenBy, AlarmStore.seenBy, hroster, holdest]

theorem count_of_unmarked {t : AlarmStore} (h : t.unmarked = s.unmarked) : t.count = s.count := by
  rw [← t.count_seenBy .relay, ← s.count_seenBy .relay]
  exact congrArg count h

theorem Ingested.seenBy {event : AlarmRecord} {outcome : IngestOutcome} {t : AlarmStore}
    (h : s.Ingested event (outcome, t)) :
    (s.seenBy c).Ingested (event.seenBy c) (outcome, t.seenBy c) := by
  have hnone : s.get? event.id = none → (s.seenBy c).get? (event.seenBy c).id = none := fun hg => by
    simp [get?_seenBy, hg]
  have hsome : ∀ {r}, s.get? event.id = some r →
      (s.seenBy c).get? (event.seenBy c).id = some (r.seenBy c) := fun hg => by
    simp [get?_seenBy, hg]
  cases h with
  | ignored hc hg => exact .ignored hc (hnone hg)
  | removed hc hg =>
    have hremoved : (s.seenBy c).Ingested (event.seenBy c) _ := .removed hc (hsome hg)
    simpa [AlarmStore.seenBy, Roster.erase_seenBy, Roster.isEmpty_seenBy] using hremoved
  | inserted hc hg =>
    have hinserted : (s.seenBy c).Ingested (event.seenBy c) _ := .inserted hc (hnone hg)
    simpa [AlarmStore.seenBy, Roster.put_seenBy] using hinserted
  | updated hc hg hold =>
    have hupdated : (s.seenBy c).Ingested (event.seenBy c) _ := .updated hc (hsome hg) hold
    simpa [AlarmStore.seenBy, AlarmRecord.updated_seenBy, Roster.put_seenBy] using hupdated
  | stale hc hg hold => exact .stale hc (hsome hg) hold

/-- What a store makes of an event does not depend on the marks. -/
theorem ingest_seenBy (s : AlarmStore) (event : AlarmRecord) :
    (s.seenBy c).ingest (event.seenBy c) =
      ((s.ingest event).1, (s.ingest event).2.seenBy c) :=
  ((s.ingested event).seenBy c).eq

/-- Stores that differ in their marks only do so behind an event, too. -/
theorem unmarked_ingest {s t : AlarmStore} (h : t.unmarked = s.unmarked) (event : AlarmRecord) :
    (t.ingest event).2.unmarked = (s.ingest event).2.unmarked := by
  have hs := s.ingest_seenBy .relay event
  have ht := t.ingest_seenBy .relay event
  rw [show t.seenBy .relay = s.seenBy .relay from h, hs] at ht
  exact (congrArg Prod.snd ht).symm

end AlarmStore

end AlarmEscalation
