import AlarmEscalation.Proofs.Store.View
import Mathlib.Data.List.DropRight

/-! # Sequences of operations, and the record of one identifier along them

A store is driven by events and by the scans of its two channels, through whichever handle they
come. `AlarmRecord.followed` reads the record of an alarm off the event that raised it and the
operations behind it; `Episode.get?_after` says that the store holds this record as long as the
alarm is not cleared. -/
namespace AlarmEscalation

namespace AlarmStore

inductive Operation where
  | ingest (event : AlarmRecord)
  | desktopBatch (now : Instant) (timeout : Span) (order : ScanOrder := .ascending)
  | emailBatch

def apply (s : AlarmStore) : Operation → AlarmStore
  | .ingest event => (s.ingest event).2
  | .desktopBatch now timeout order => (s.desktopBatch now timeout order).2
  | .emailBatch => s.emailBatch.2

/-- The store behind a sequence of operations, the earliest first. -/
def after (s : AlarmStore) (ops : List Operation) : AlarmStore := ops.foldl apply s

@[simp] theorem after_nil (s : AlarmStore) : s.after [] = s := rfl

theorem after_cons (s : AlarmStore) (op : Operation) (ops : List Operation) :
    s.after (op :: ops) = (s.apply op).after ops := rfl

theorem after_append (s : AlarmStore) (first second : List Operation) :
    s.after (first ++ second) = (s.after first).after second :=
  List.foldl_append

theorem after_concat (s : AlarmStore) (ops : List Operation) (op : Operation) :
    s.after (ops ++ [op]) = (s.after ops).apply op := by
  rw [after_append]; rfl

/-- The beginning of the episode is known exactly while alarms are active, whatever is done. -/
theorem coherent_after (ops : List Operation) : (empty.after ops).Coherent := by
  induction ops using List.reverseRecOn with
  | nil => exact coherent_empty
  | append_singleton ops op ih =>
    rw [after_concat]
    cases op with
    | ingest event => exact ih.ingest event
    | desktopBatch now timeout order => exact ih.desktopBatch now timeout order
    | emailBatch => exact ih.emailBatch

namespace Operation

/-- The event for an identifier that an operation takes in. -/
def event? (id : String) : Operation → Option AlarmRecord
  | .ingest event => if event.id = id then some event else none
  | .desktopBatch _ _ _ | .emailBatch => none

def clears (id : String) (op : Operation) : Bool := (op.event? id).any AlarmRecord.isClearing

def raises (id : String) (op : Operation) : Bool := (op.event? id).any fun e => !e.isClearing

/-- Whether an operation announces what was triggered at `t` on the desktop. -/
def shows (t : Instant) : Operation → Bool
  | .desktopBatch now timeout _ => t.isDue timeout now
  | .ingest _ | .emailBatch => false

def isEmailBatch : Operation → Bool
  | .emailBatch => true
  | .ingest _ | .desktopBatch _ _ _ => false

/-- A scan adds its timeout to the trigger time of every record; the sums have to be times. -/
def InRange (s : AlarmStore) : Operation → Prop
  | .desktopBatch _ timeout _ => s.InRange timeout
  | .ingest _ | .emailBatch => True

theorem eq_ingest_of_event? {id : String} {op : Operation} {e : AlarmRecord}
    (h : op.event? id = some e) : op = .ingest e ∧ e.id = id := by
  cases op with
  | ingest event =>
    simp only [event?] at h
    split at h
    · rename_i hid
      cases h
      exact ⟨rfl, hid⟩
    · cases h
  | desktopBatch | emailBatch => cases h

end Operation

/-- The events for an identifier among operations. -/
def eventsOf (id : String) (ops : List Operation) : List AlarmRecord :=
  ops.filterMap (Operation.event? id)

theorem eventsOf_concat (id : String) (ops : List Operation) (op : Operation) :
    eventsOf id (ops ++ [op]) = eventsOf id ops ++ (op.event? id).toList := by
  rw [eventsOf, List.filterMap_append]
  cases h : op.event? id <;> simp [eventsOf, h]

/-- No time sum leaves the range of times along a sequence. -/
def InRangeAlong (s : AlarmStore) : List Operation → Prop
  | [] => True
  | op :: ops => op.InRange s ∧ InRangeAlong (s.apply op) ops

theorem inRangeAlong_append {s : AlarmStore} {first second : List Operation} :
    s.InRangeAlong (first ++ second) ↔
      s.InRangeAlong first ∧ (s.after first).InRangeAlong second := by
  induction first generalizing s with
  | nil => simp [InRangeAlong]
  | cons op rest ih => simp only [List.cons_append, InRangeAlong, ih, after_cons, and_assoc]

theorem inRangeAlong_concat {s : AlarmStore} {ops : List Operation} {op : Operation} :
    s.InRangeAlong (ops ++ [op]) ↔ s.InRangeAlong ops ∧ op.InRange (s.after ops) := by
  simp [inRangeAlong_append, InRangeAlong]

end AlarmStore

/-! ## What an operation does to one record -/

namespace AlarmRecord
open AlarmStore (Operation eventsOf)

/-- The last of several events that is newer than the one that raised the alarm. -/
def lastNewer (e0 : AlarmRecord) (events : List AlarmRecord) : AlarmRecord :=
  (events.filter fun e => e0.triggerTime < e.triggerTime).getLast?.getD e0

theorem lastNewer_concat (e0 : AlarmRecord) (events : List AlarmRecord) (e : AlarmRecord) :
    e0.lastNewer (events ++ [e]) =
      if e0.triggerTime < e.triggerTime then e else e0.lastNewer events := by
  unfold lastNewer
  rw [List.filter_append]
  split <;> rename_i h <;> simp [h]

/-- The record of an alarm that the event `e0` raised, when the operations `later` have followed
and none of them cleared it. -/
def followed (e0 : AlarmRecord) (later : List Operation) : AlarmRecord where
  id := e0.id
  severity := (e0.lastNewer (eventsOf e0.id later)).severity
  status := (e0.lastNewer (eventsOf e0.id later)).status
  triggerTime := e0.triggerTime
  desktopNotified := e0.desktopNotified || later.any (Operation.shows e0.triggerTime)
  emailNotified := e0.emailNotified || later.any Operation.isEmailBatch

theorem followed_nil (e0 : AlarmRecord) : e0.followed [] = e0 := by
  simp [followed, lastNewer, eventsOf]

theorem followed_concat_of_event {e0 e : AlarmRecord} {op : Operation}
    (h : op.event? e0.id = some e) (later : List Operation) :
    e0.followed (later ++ [op]) = (e0.followed later).updated e := by
  obtain ⟨rfl, -⟩ := Operation.eq_ingest_of_event? h
  simp only [followed, AlarmStore.eventsOf_concat, h, Option.toList_some, lastNewer_concat, updated,
    isOutdatedBy]
  split <;> rename_i hlt <;> simp [hlt, Operation.shows, Operation.isEmailBatch]

theorem followed_concat_of_no_event {e0 : AlarmRecord} {op : Operation}
    (h : op.event? e0.id = none) (later : List Operation) :
    e0.followed (later ++ [op]) =
      (e0.followed later).marked (op.shows e0.triggerTime) op.isEmailBatch := by
  simp [followed, marked, AlarmStore.eventsOf_concat, h, Bool.or_assoc]

end AlarmRecord

namespace AlarmStore

variable (s : AlarmStore)

theorem get?_apply_of_event {id : String} {op : Operation} {e : AlarmRecord}
    (h : op.event? id = some e) : (s.apply op).get? id = e.takenIn (s.get? id) := by
  obtain ⟨rfl, rfl⟩ := Operation.eq_ingest_of_event? h
  exact s.get?_ingest_self e

/-- Whatever is not an event for an identifier at most marks its record, and marks exactly what is
due if the scan is not broken off. -/
theorem get?_apply_of_no_event {id : String} {op : Operation} (h : op.event? id = none) :
    ∃ b, (s.apply op).get? id = (s.get? id).map (·.marked b op.isEmailBatch) ∧
      (op.InRange s → ∀ r, s.get? id = some r → b = op.shows r.triggerTime) := by
  cases op with
  | ingest event =>
    have hne : id ≠ event.id := fun he => by simp [Operation.event?, he] at h
    refine ⟨false, ?_, fun _ _ _ => rfl⟩
    rw [apply, s.get?_ingest_of_ne event hne]
    simp [AlarmRecord.marked, Operation.isEmailBatch]
  | desktopBatch now timeout order =>
    by_cases hr : s.InRange timeout
    · have hdue : (s.desktopBatch now timeout order).2.get? id = _ :=
        get?_desktopBatch_of_inRange now hr id
      cases hg : s.get? id with
      | none => exact ⟨false, by rw [apply, hdue, hg]; rfl, fun _ _ hn => by cases hn⟩
      | some r =>
        refine ⟨r.triggerTime.isDue timeout now, by rw [apply, hdue, hg]; rfl, fun _ r' hr' => ?_⟩
        cases hr'
        rfl
    · obtain ⟨b, hb⟩ := s.get?_desktopBatch now timeout order id
      exact ⟨b, hb, fun h => absurd h hr⟩
  | emailBatch => exact ⟨false, s.get?_emailBatch id, fun _ _ _ => rfl⟩

theorem takenIn_of_not_clears {id : String} {op : Operation} {e r : AlarmRecord}
    (h : op.event? id = some e) (hc : op.clears id = false) :
    e.takenIn (some r) = some (r.updated e) := by
  have hc : e.isClearing = false := by simpa [Operation.clears, h] using hc
  simp [AlarmRecord.takenIn, hc]

/-- The event `e0` raises an alarm in a store, and none of the operations `later` clears it. -/
structure Episode (e0 : AlarmRecord) (later : List Operation) : Prop where
  absent : s.get? e0.id = none
  raising : e0.isClearing = false
  kept : ∀ op ∈ later, op.clears e0.id = false

variable {s} {e0 : AlarmRecord} {later : List Operation}

theorem Episode.initial (h : s.Episode e0 later) {p : List Operation} (hp : p <+: later) :
    s.Episode e0 p :=
  ⟨h.absent, h.raising, fun op hop => h.kept op (hp.subset hop)⟩

/-- **The record of an alarm is the event that raised it, followed by what came behind.** A scan
that is broken off can leave a desktop mark out, nothing else. -/
theorem Episode.get?_after (h : s.Episode e0 later) :
    ∃ b, (s.after (.ingest e0 :: later)).get? e0.id =
        some { e0.followed later with desktopNotified := b } ∧
      (s.InRangeAlong (.ingest e0 :: later) → b = (e0.followed later).desktopNotified) := by
  induction later using List.reverseRecOn with
  | nil =>
    refine ⟨e0.desktopNotified, ?_, fun _ => by rw [e0.followed_nil]⟩
    rw [after_cons, after_nil, apply, s.get?_ingest_self, h.absent, e0.followed_nil]
    simp [AlarmRecord.takenIn, h.raising]
  | append_singleton later op ih =>
    obtain ⟨b, hb, hrange⟩ := ih (h.initial (List.prefix_append _ _))
    have hkept := h.kept op (by simp)
    rw [← List.cons_append, after_concat]
    simp only [inRangeAlong_concat]
    cases he : op.event? e0.id with
    | some e =>
      refine ⟨b, ?_, ?_⟩
      · rw [get?_apply_of_event _ he, hb, takenIn_of_not_clears he hkept,
          AlarmRecord.followed_concat_of_event he]
        unfold AlarmRecord.updated AlarmRecord.isOutdatedBy
        split <;> rfl
      · intro h
        rw [hrange h.1, AlarmRecord.followed_concat_of_event he]
        unfold AlarmRecord.updated
        split <;> rfl
    | none =>
      obtain ⟨b', hb', hdue⟩ := get?_apply_of_no_event (s.after (.ingest e0 :: later)) he
      refine ⟨b || b', ?_, ?_⟩
      · rw [hb', hb, AlarmRecord.followed_concat_of_no_event he]
        rfl
      · intro h
        rw [hrange h.1, hdue h.2 _ hb, AlarmRecord.followed_concat_of_no_event he]
        rfl

end AlarmStore

end AlarmEscalation
