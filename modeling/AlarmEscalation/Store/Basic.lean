import AlarmEscalation.Fault
import AlarmEscalation.Store.Roster

/-!
The alarms that are active now and the moment the current episode began. An episode lasts from the
first alarm in an empty store to the removal of the last one; its beginning is the trigger time of
that first alarm, whatever becomes of it.

The two scans hand out the records a channel has yet to announce, and mark them. Nothing is said of
the order in which a scan comes by the records; what it hands out is in the order of their
identifiers.
-/
namespace AlarmEscalation

/-- An order in which a scan comes by the records. -/
structure ScanOrder where
  arrange : List AlarmRecord → List AlarmRecord
  perm : ∀ records, (arrange records).Perm records

/-- The order in which the records are kept. -/
def ScanOrder.ascending : ScanOrder := ⟨fun records => records, fun _ => .refl _⟩

/-- What an event did to the store. -/
inductive IngestOutcome where
  | inserted | updated | stale | removed | ignored
deriving DecidableEq, Repr

structure AlarmStore where
  roster : Roster := Roster.empty
  oldest : Option Instant := none
deriving DecidableEq

namespace AlarmStore

def empty : AlarmStore := {}

def count (s : AlarmStore) : Nat := s.roster.count

def isEmpty (s : AlarmStore) : Bool := s.roster.isEmpty

def get? (s : AlarmStore) (id : String) : Option AlarmRecord := s.roster.get? id

/-- All records in ascending order of their identifiers. -/
def snapshot (s : AlarmStore) : List AlarmRecord := s.roster.records

/-- An acknowledged or cleared alarm leaves; the episode ends with the last one. -/
def clear (s : AlarmStore) (id : String) : IngestOutcome × AlarmStore :=
  match s.roster.get? id with
  | none => (.ignored, s)
  | some _ =>
    let roster := s.roster.erase id
    (.removed, { roster, oldest := if roster.isEmpty then none else s.oldest })

/-- A new alarm is entered as it is; a known one is brought up to date. -/
def raise (s : AlarmStore) (event : AlarmRecord) : IngestOutcome × AlarmStore :=
  let oldest := s.oldest.or (some event.triggerTime)
  match s.roster.get? event.id with
  | none => (.inserted, { roster := s.roster.put event, oldest })
  | some active =>
    if active.isOutdatedBy event then
      (.updated, { roster := s.roster.put (active.updated event), oldest })
    else (.stale, { s with oldest })

def ingest (s : AlarmStore) (event : AlarmRecord) : IngestOutcome × AlarmStore :=
  if event.isClearing then s.clear event.id else s.raise event

/-- Whether the episode has lasted for `timeout` at `now`. -/
def episodeElapsed (s : AlarmStore) (now : Instant) (timeout : Span) : Except Fault Bool :=
  match s.oldest with
  | none => .ok false
  | some oldest =>
    if s.isEmpty then .ok false
    else
      match oldest.due? timeout now with
      | none => .error .timeOverflow
      | some due => .ok due

/-- Marks the records that are due on the desktop and not yet announced there. The scan looks at
every deadline and breaks off at the first that is out of range. -/
def desktopScan (now : Instant) (timeout : Span) :
    List AlarmRecord → Except Fault (List AlarmRecord) × List AlarmRecord
  | [] => (.ok [], [])
  | r :: rest =>
    match r.triggerTime.due? timeout now with
    | none => (.error .timeOverflow, r :: rest)
    | some due =>
      let (batch, scanned) := desktopScan now timeout rest
      if due && !r.desktopNotified then
        (batch.map (r.markDesktop :: ·), r.markDesktop :: scanned)
      else (batch, r :: scanned)

def desktopBatch (s : AlarmStore) (now : Instant) (timeout : Span)
    (order : ScanOrder := .ascending) : Except Fault (List AlarmRecord) × AlarmStore :=
  let (batch, scanned) := desktopScan now timeout (order.arrange s.roster.records)
  (batch.map fun batch => (Roster.ofRecords batch).records,
    { s with roster := .ofRecords scanned })

theorem markEmail_ids (l : List AlarmRecord) :
    (l.map AlarmRecord.markEmail).map AlarmRecord.id = l.map AlarmRecord.id := by
  rw [List.map_map]; rfl

/-- Marks every record and hands out those that had not been announced by e-mail. -/
def emailBatch (s : AlarmStore) : List AlarmRecord × AlarmStore :=
  let records := s.roster.records
  ((records.filter fun r => !r.emailNotified).map AlarmRecord.markEmail,
    { s with
      roster := s.roster.withRecords (records.map AlarmRecord.markEmail) (markEmail_ids records) })

end AlarmStore

end AlarmEscalation
