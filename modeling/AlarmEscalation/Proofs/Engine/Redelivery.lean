import AlarmEscalation.Proofs.Engine.Publication
import AlarmEscalation.Proofs.Engine.Reception

/-! # A message that is delivered once more

The bus delivers every message at least once, and stamps it anew each time. What a message has to
say of its process variable is in the store behind its first delivery, unless that was stale, and
stays there as long as nothing else is said of this variable. A store that says already what an
event says is not changed by it, whichever time the event bears. -/
namespace AlarmEscalation

/-! ## What a store says of a process variable -/

/-- Severity and status of a process variable, if its alarm is active. -/
def AlarmStore.state? (s : AlarmStore) (id : String) : Option (String × String) :=
  (s.get? id).map fun r => (r.severity, r.status)

/-- What it is behind an event or a message with this severity and status. -/
def stateOf (severity status : String) : Option (String × String) :=
  if isClearingSeverity severity then none else some (severity, status)

theorem AlarmRecord.updated_of_same {r event : AlarmRecord}
    (hseverity : r.severity = event.severity) (hstatus : r.status = event.status) :
    r.updated event = r := by
  unfold updated
  split
  · rw [← hseverity, ← hstatus]
  · rfl

theorem Roster.put_of_get? {roster : Roster} {r : AlarmRecord} (h : roster.get? r.id = some r) :
    roster.put r = roster := by
  refine Roster.ext_get? fun id => ?_
  rw [Roster.get?_put]
  split
  · rename_i hid
    rw [hid, h]
  · rfl

namespace AlarmStore

variable {s : AlarmStore} {event : AlarmRecord}

theorem state?_ingest_of_not_stale (h : (s.ingest event).1 ≠ .stale) :
    (s.ingest event).2.state? event.id = stateOf event.severity event.status := by
  rw [outcome_ingest] at h
  rw [state?, get?_ingest_self, stateOf]
  change _ = if event.isClearing then _ else _
  unfold AlarmRecord.takenIn
  cases hclearing : event.isClearing with
  | true => rfl
  | false =>
    cases hactive : s.get? event.id with
    | none => rfl
    | some r =>
      have hnewer : r.isOutdatedBy event = true := by
        simpa [AlarmRecord.outcome, hactive, hclearing] using h
      simp [AlarmRecord.updated, hnewer]

theorem state?_ingest_of_ne {id : String} (hne : event.id ≠ id) :
    (s.ingest event).2.state? id = s.state? id := by
  rw [state?, s.get?_ingest_of_ne event (Ne.symm hne), state?]

/-- Marks say nothing of a process variable. -/
theorem state?_of_unmarked {t : AlarmStore} (h : t.unmarked = s.unmarked) (id : String) :
    t.state? id = s.state? id := by
  have hseen : ∀ u : AlarmStore, u.state? id = u.unmarked.state? id := by
    intro u
    rw [state?, state?, unmarked, u.get?_seenBy, Option.map_map]
    rfl
  rw [hseen t, hseen s, h]

theorem Coherent.of_unmarked {t : AlarmStore} (hs : s.Coherent) (h : t.unmarked = s.unmarked) :
    t.Coherent := by
  have holdest : t.unmarked.oldest = s.unmarked.oldest := congrArg oldest h
  have holdest : t.oldest = s.oldest := holdest
  have hempty : t.isEmpty = s.isEmpty := by
    rw [← t.isEmpty_seenBy .relay, ← s.isEmpty_seenBy .relay]
    exact congrArg isEmpty h
  rw [Coherent, holdest, hempty]
  exact hs

/-- An event that has nothing new to say changes nothing. -/
theorem Coherent.ingest_of_state (hs : s.Coherent)
    (h : s.state? event.id = stateOf event.severity event.status) : (s.ingest event).2 = s := by
  have hoccupied : ∀ r, s.get? event.id = some r → s.oldest.isSome := by
    intro r hr
    rw [← Option.not_isNone, hs, s.isEmpty_of_get? hr]
    rfl
  have h : (s.get? event.id).map (fun r => (r.severity, r.status)) =
      if event.isClearing then none else some (event.severity, event.status) := h
  have hingested := s.ingested event
  generalize s.ingest event = result at hingested
  cases hingested with
  | ignored => rfl
  | removed hclearing hactive => simp [hclearing, hactive] at h
  | inserted hraising hnone => simp [hraising, hnone] at h
  | updated hraising hactive =>
    obtain ⟨hseverity, hstatus⟩ := by simpa [hraising, hactive] using h
    obtain ⟨t, ht⟩ := Option.isSome_iff_exists.mp (hoccupied _ hactive)
    have hid := s.get?_id hactive
    rw [AlarmRecord.updated_of_same hseverity hstatus, Roster.put_of_get? (hid ▸ hactive), ht]
    cases s
    simp_all
  | stale _ hactive =>
    obtain ⟨t, ht⟩ := Option.isSome_iff_exists.mp (hoccupied _ hactive)
    cases s
    simp_all

end AlarmStore

namespace Engine

/-! ## An engine that no call is under way in -/

/-- The store is in order, and subscribers see how many alarms are active. -/
structure Settled (e : Engine) : Prop where
  coherent : e.store.Coherent
  published : e.published = e.count

variable {e : Engine}

theorem Settled.ingest (h : e.Settled) (event : AlarmRecord) : (e.ingest event).2.Settled := by
  refine ⟨?_, (Intake.told_ingest e event).count⟩
  rw [store_ingest]
  exact h.coherent.ingest event

theorem Settled.of_sameAlarms {after : Engine} (h : e.Settled) (hsame : e.SameAlarms after) :
    after.Settled := by
  refine ⟨h.coherent.of_unmarked hsame.alarms, ?_⟩
  rw [hsame.published, h.published]
  exact (AlarmStore.count_of_unmarked hsame.alarms).symm

theorem Settled.take (h : e.Settled) (t : Turn) : (e.take t).engine.Settled := by
  by_cases hevent : ∃ event, t = .action (.ingest event)
  · obtain ⟨event, rfl⟩ := hevent
    exact h.ingest event
  · exact h.of_sameAlarms (take_sameAlarms fun event ht => hevent ⟨event, ht⟩)

theorem settled {settings : EngineSettings} {attached : Attached}
    (built : build settings attached = .ok e) (turns : List Turn) :
    (e.afterTurns turns).Settled := by
  have base : e.Settled := by
    rw [eq_of_build built]
    exact ⟨AlarmStore.coherent_empty, rfl⟩
  exact turns_induction base (fun _ t (_ : True) h => h.take t) (by simp)

/-- Nor is there a new count to publish. -/
theorem Settled.ingest_of_state (h : e.Settled) {event : AlarmRecord}
    (same : e.store.state? event.id = stateOf event.severity event.status) :
    (e.ingest event).2 = e := by
  have hsame : (e.apply event).2 = e := by
    change { e with store := (e.store.ingest event).2 } = e
    rw [h.coherent.ingest_of_state same]
  change (e.apply event).2.publish = e
  rw [hsame, publish, if_pos h.published]

/-! ## Deliveries -/

open StateMessage

/-- What happens behind the first delivery of a message: a turn, or the message once more. -/
inductive Delivery where
  | turn (t : Turn)
  | again (received : Instant)

def amid (payload : List Json.Glyph) (e : Engine) : Delivery → Engine
  | .turn t => (e.take t).engine
  | .again received => (e.receive payload received).2

/-- The store says of a process variable what a message says of it. -/
structure Heard (id : String) (state : Option (String × String)) (e : Engine) : Prop where
  settled : e.Settled
  state : e.store.state? id = state

variable {id name severity status : String} {payload : List Json.Glyph}

theorem Heard.receive (h : e.Heard id (stateOf severity status))
    (announces : Announces payload name severity status) (spells : Spells id name)
    (received : Instant) : (e.receive payload received).2 = e := by
  rw [e.receive_of_announces announces spells]
  exact h.settled.ingest_of_state h.state

theorem Heard.turn {state : Option (String × String)} (h : e.Heard id state) {t : Turn}
    (other : ∀ event, t = .action (.ingest event) → event.id ≠ id) :
    (e.take t).engine.Heard id state := by
  refine ⟨h.settled.take t, ?_⟩
  by_cases hevent : ∃ event, t = .action (.ingest event)
  · obtain ⟨event, rfl⟩ := hevent
    have hstore : (e.take (.action (.ingest event))).engine.store = (e.store.ingest event).2 :=
      e.store_ingest event
    rw [hstore, AlarmStore.state?_ingest_of_ne (other event rfl), h.state]
  · have hsame := take_sameAlarms (e := e) (t := t) fun event ht => hevent ⟨event, ht⟩
    rw [AlarmStore.state?_of_unmarked hsame.alarms, h.state]

/-- Behind its first delivery the store says what the message says. -/
theorem Settled.heard (h : e.Settled) (announces : Announces payload name severity status)
    (spells : Spells id name) {received : Instant}
    (fresh : (e.receive payload received).1 ≠ .ok (some .stale)) :
    (e.receive payload received).2.Heard id (stateOf severity status) := by
  rw [e.receive_of_announces announces spells] at fresh ⊢
  refine ⟨h.ingest _, ?_⟩
  change (e.ingest _).2.store.state? _ = _
  rw [store_ingest]
  refine AlarmStore.state?_ingest_of_not_stale fun hstale => fresh ?_
  rw [receives, outcome_ingest, hstale]

theorem Heard.amid (h : e.Heard id (stateOf severity status))
    (announces : Announces payload name severity status) (spells : Spells id name)
    {since : List Delivery}
    (others : ∀ event, .turn (.action (.ingest event)) ∈ since → event.id ≠ id) :
    (behind (amid payload) e since).Heard id (stateOf severity status) := by
  induction since using List.reverseRecOn with
  | nil => exact h
  | append_singleton since d ih =>
    have hbefore := ih fun event hevent => others event (List.mem_append_left _ hevent)
    rw [behind_concat]
    cases d with
    | turn t =>
      refine hbefore.turn fun event ht => others event ?_
      rw [ht]
      simp
    | again received =>
      change Heard id (stateOf severity status) (Engine.receive _ payload received).2
      rw [hbefore.receive announces spells]
      exact hbefore

/-- **A message that is delivered again changes nothing.** Take any run of a built engine, with its
actors at work, and a message whose first delivery is not stale. As long as nothing else is heard of
its process variable, whatever else happens and however often the message comes again, the store
says of the variable what the message says, and one more delivery leaves the engine as it is, with
all records and their marks, the beginning of the episode and the count that subscribers see. It
does not matter when the deliveries are received: the clock may have been set back. -/
theorem redelivery_harmless {settings : EngineSettings} {attached : Attached}
    (built : build settings attached = .ok e) (turns : List Turn)
    (announces : Announces payload name severity status) (spells : Spells id name)
    {first : Instant}
    (fresh : ((e.afterTurns turns).receive payload first).1 ≠ .ok (some .stale))
    {since : List Delivery}
    (others : ∀ event, .turn (.action (.ingest event)) ∈ since → event.id ≠ id)
    (again : Instant) :
    let later := behind (amid payload) ((e.afterTurns turns).receive payload first).2 since
    later.store.state? id = stateOf severity status ∧ (later.receive payload again).2 = later := by
  have hfirst := (settled built turns).heard announces spells fresh
  have hlater := hfirst.amid announces spells others
  exact ⟨hlater.state, hlater.receive announces spells again⟩

/-- The alarm is announced and the message comes again, stamped earlier than the first time, while
another alarm comes and goes. -/
def meanwhile : List Delivery :=
  [.turn (.action (.ingest ⟨"PV2", "MINOR", "LOW", .ofSecond 101, false, false⟩)),
    .turn (.wake 0 (.ofSecond 121) fun _ => .done),
    .again (.ofSecond 90),
    .turn (.action (.ingest ⟨"PV2", "OK", "NO_ALARM", .ofSecond 122, false, false⟩))]

theorem redelivery_harmless_meanwhile :
    Announces raisedOnBus ("epics://" ++ "HV") "MAJOR" "HIHI" ∧
    ((desk.afterTurns [.action (.start true)]).receive raisedOnBus (.ofSecond 100)).1 =
      .ok (some .inserted) ∧
    (∀ event, .turn (.action (.ingest event)) ∈ meanwhile → event.id ≠ "HV") ∧
    ∃ later, later = behind (amid raisedOnBus)
        ((desk.afterTurns [.action (.start true)]).receive raisedOnBus (.ofSecond 100)).2
        meanwhile ∧
      later.store.state? "HV" = some ("MAJOR", "HIHI") ∧
      (later.receive raisedOnBus (.ofSecond 200)).2 = later := by
  have built : build desk.settings desk.attached = .ok desk := by decide
  have announces : Announces raisedOnBus ("epics://" ++ "HV") "MAJOR" "HIHI" :=
    ⟨[("TEXT", "STATE"), ("NAME", "epics://HV"), ("SEVERITY", "MAJOR"), ("STATUS", "HIHI")],
      by rfl, by decide, by decide, by decide, by decide⟩
  have spells : Spells "HV" ("epics://" ++ "HV") := .inl rfl
  have inserted : ((desk.afterTurns [.action (.start true)]).receive raisedOnBus
      (.ofSecond 100)).1 = .ok (some .inserted) := by
    rw [receive_of_announces _ announces spells]
    rfl
  have fresh : ((desk.afterTurns [.action (.start true)]).receive raisedOnBus
      (.ofSecond 100)).1 ≠ .ok (some .stale) := by
    intro hstale
    cases inserted.symm.trans hstale
  have others : ∀ event, .turn (.action (.ingest event)) ∈ meanwhile → event.id ≠ "HV" := by
    intro event hevent
    simp only [meanwhile, List.mem_cons, Delivery.turn.injEq, Turn.action.injEq,
      Action.ingest.injEq, reduceCtorEq, List.not_mem_nil, or_false, false_or] at hevent
    rcases hevent with rfl | rfl <;> decide
  exact ⟨announces, inserted, others, _, rfl,
    redelivery_harmless built _ announces spells fresh others (.ofSecond 200)⟩

end Engine

end AlarmEscalation
