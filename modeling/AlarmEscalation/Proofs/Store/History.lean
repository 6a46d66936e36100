import AlarmEscalation.Proofs.Store.Episode

/-! # A store is its history, identifier by identifier

`recorded?` reads the record of an identifier off the operations alone: it looks for the event that
raised the alarm and for what came behind. A new store never holds anything else, and its answers
and its count go with it. -/
namespace AlarmEscalation.AlarmStore

/-- The operations since an alarm was raised: they begin with the first event for its identifier
that does not clear it, behind the last one that does. -/
def sinceRaised (id : String) (ops : List Operation) : List Operation :=
  (ops.rtakeWhile fun op => !op.clears id).dropWhile fun op => !op.raises id

/-- The record of an identifier, as its history tells it. -/
def recorded? (id : String) (ops : List Operation) : Option AlarmRecord :=
  match sinceRaised id ops with
  | .ingest e0 :: later => some (e0.followed later)
  | _ => none

/-- An operation that has to do with an identifier: a scan, or an event for it. -/
def Operation.concerns (id : String) : Operation → Bool
  | .ingest event => event.id = id
  | .desktopBatch _ _ _ | .emailBatch => true

theorem sinceRaised_concat_of_clears {id : String} {op : Operation} (h : op.clears id = true)
    (ops : List Operation) : sinceRaised id (ops ++ [op]) = [] := by
  simp [sinceRaised, h]

theorem sinceRaised_concat {id : String} {op : Operation} (h : op.clears id = false)
    (ops : List Operation) :
    sinceRaised id (ops ++ [op]) =
      if sinceRaised id ops = [] then if op.raises id then [op] else []
      else sinceRaised id ops ++ [op] := by
  rw [sinceRaised, List.rtakeWhile_concat, if_pos (by simp [h]), List.dropWhile_append]
  split
  · rename_i hnone
    rw [if_pos (show sinceRaised id ops = [] from List.isEmpty_iff.mp hnone)]
    cases hr : op.raises id <;> simp [hr]
  · rename_i hsome
    rw [if_neg fun hnone : sinceRaised id ops = [] => hsome (List.isEmpty_iff.mpr hnone)]
    rfl

variable (s : AlarmStore)

/-- Either no alarm of the identifier is pending in a history and the store holds no record, or the
history splits at the event that raised it. -/
theorem history_splits {id : String} (absent : s.get? id = none) (ops : List Operation) :
    (sinceRaised id ops = [] ∧ (s.after ops).get? id = none) ∨
    ∃ before e0 later, ops = before ++ .ingest e0 :: later ∧
      sinceRaised id ops = .ingest e0 :: later ∧ e0.id = id ∧
      (s.after before).Episode e0 later := by
  induction ops using List.reverseRecOn with
  | nil => exact .inl ⟨rfl, absent⟩
  | append_singleton ops op ih =>
    cases hc : op.clears id with
    | true =>
      obtain ⟨e, he, hce⟩ : ∃ e, op.event? id = some e ∧ e.isClearing = true := by
        simpa [Operation.clears, Option.any_eq_true] using hc
      refine .inl ⟨sinceRaised_concat_of_clears hc ops, ?_⟩
      rw [after_concat, get?_apply_of_event _ he]
      simp [AlarmRecord.takenIn, hce]
    | false =>
      rw [sinceRaised_concat hc]
      rcases ih with ⟨hnone, hget⟩ | ⟨before, e0, later, rfl, hsince, rfl, hep⟩
      · rw [if_pos hnone]
        cases he : op.event? id with
        | none =>
          obtain ⟨b, hb, -⟩ := get?_apply_of_no_event (s.after ops) he
          refine .inl ⟨by simp [Operation.raises, he], ?_⟩
          rw [after_concat, hb, hget]; rfl
        | some e =>
          obtain ⟨rfl, rfl⟩ := Operation.eq_ingest_of_event? he
          have hce : e.isClearing = false := by simpa [Operation.clears, he] using hc
          exact .inr ⟨ops, e, [], rfl, by simp [Operation.raises, he, hce], rfl, hget, hce, by simp⟩
      · refine .inr ⟨before, e0, later ++ [op], by simp, by simp [hsince], rfl,
          hep.absent, hep.raising, fun op' h => ?_⟩
        rcases List.mem_append.mp h with h | h
        · exact hep.kept op' h
        · rw [List.mem_singleton.mp h]; exact hc

theorem get?_after {id : String} (absent : s.get? id = none) {ops : List Operation}
    (range : s.InRangeAlong ops) : (s.after ops).get? id = recorded? id ops := by
  rcases s.history_splits absent ops with ⟨hnone, hget⟩ |
    ⟨before, e0, later, rfl, hsince, rfl, hep⟩
  · rw [hget, recorded?, hnone]
  · obtain ⟨b, hb, hflag⟩ := hep.get?_after
    rw [after_append, hb, hflag (inRangeAlong_append.mp range).2, recorded?, hsince]

/-- An alarm is active exactly when the last event for it does not clear it. -/
theorem isSome_get?_after {id : String} (absent : s.get? id = none) (ops : List Operation) :
    ((s.after ops).get? id).isSome = (eventsOf id ops).getLast?.any fun e => !e.isClearing := by
  induction ops using List.reverseRecOn with
  | nil => simp [absent, eventsOf]
  | append_singleton ops op ih =>
    rw [after_concat, eventsOf_concat]
    cases he : op.event? id with
    | some e =>
      rw [get?_apply_of_event _ he]
      cases hc : e.isClearing <;> cases (s.after ops).get? id <;> simp [AlarmRecord.takenIn, hc]
    | none =>
      obtain ⟨b, hb, -⟩ := get?_apply_of_no_event (s.after ops) he
      rw [hb, Option.isSome_map, ih]
      simp

/-- What a store holds when the events for all identifiers but one are left out: the record of that
one, and no other. -/
theorem after_filter_concerns (id : String) {ops : List Operation}
    (range : empty.InRangeAlong ops) :
    empty.InRangeAlong (ops.filter (·.concerns id)) ∧
      (empty.after (ops.filter (·.concerns id))).get? id = (empty.after ops).get? id ∧
      ∀ other ≠ id, (empty.after (ops.filter (·.concerns id))).get? other = none := by
  induction ops using List.reverseRecOn with
  | nil => exact ⟨trivial, rfl, fun _ _ => rfl⟩
  | append_singleton ops op ih =>
    obtain ⟨hrange, hop⟩ := inRangeAlong_concat.mp range
    obtain ⟨ihrange, ihsame, ihnone⟩ := ih hrange
    cases hcon : op.concerns id with
    | false =>
      obtain ⟨e, rfl, hne⟩ : ∃ e, op = .ingest e ∧ e.id ≠ id := by
        cases op with
        | ingest e => exact ⟨e, rfl, by simpa [Operation.concerns] using hcon⟩
        | desktopBatch | emailBatch => cases hcon
      rw [List.filter_append, List.filter_cons_of_neg (by simp [hcon]), List.filter_nil,
        List.append_nil, after_concat, apply, get?_ingest_of_ne _ _ hne.symm]
      exact ⟨ihrange, ihsame, ihnone⟩
    | true =>
      rw [List.filter_append, List.filter_cons_of_pos hcon, List.filter_nil, after_concat,
        after_concat, inRangeAlong_concat]
      generalize empty.after (ops.filter (·.concerns id)) = t at ihsame ihnone ⊢
      cases op with
      | ingest e =>
        have hid : e.id = id := by simpa [Operation.concerns] using hcon
        subst hid
        refine ⟨⟨ihrange, trivial⟩, ?_, ?_⟩
        · rw [apply, apply, get?_ingest_self, get?_ingest_self, ihsame]
        · intro other hne
          rw [apply, get?_ingest_of_ne _ _ hne, ihnone other hne]
      | desktopBatch now timeout order =>
        -- the only record left is the one the full store has under the same identifier
        have ht : t.InRange timeout := by
          intro r hr
          have hg := t.mem_snapshot_iff.mp hr
          by_cases hid : r.id = id
          · subst hid
            exact hop r ((mem_snapshot_iff _).mpr (ihsame ▸ hg))
          · rw [ihnone r.id hid] at hg
            cases hg
        refine ⟨⟨ihrange, ht⟩, ?_, ?_⟩
        · rw [apply, apply, get?_desktopBatch_of_inRange now ht,
            get?_desktopBatch_of_inRange now hop, ihsame]
        · intro other hne
          rw [apply, get?_desktopBatch_of_inRange now ht, ihnone other hne]
          rfl
      | emailBatch =>
        refine ⟨⟨ihrange, trivial⟩, ?_, ?_⟩
        · rw [apply, apply, get?_emailBatch, get?_emailBatch, ihsame]
        · intro other hne
          rw [apply, get?_emailBatch, ihnone other hne]
          rfl

/-- How the answer to an event, the record of its identifier and the count fit together. -/
structure Answered (event : AlarmRecord) : Prop where
  inserted : (s.ingest event).1 = .inserted ↔
    s.get? event.id = none ∧ ((s.ingest event).2.get? event.id).isSome
  removed : (s.ingest event).1 = .removed ↔
    (s.get? event.id).isSome ∧ (s.ingest event).2.get? event.id = none
  updated : (s.ingest event).1 = .updated ↔
    ∃ r, s.get? event.id = some r ∧ event.isClearing = false ∧ r.triggerTime < event.triggerTime
  stale : (s.ingest event).1 = .stale ↔
    ∃ r, s.get? event.id = some r ∧ event.isClearing = false ∧ ¬ r.triggerTime < event.triggerTime
  ignored : (s.ingest event).1 = .ignored ↔ s.get? event.id = none ∧ event.isClearing = true
  count : match (s.ingest event).1 with
    | .inserted => (s.ingest event).2.count = s.count + 1
    | .removed => (s.ingest event).2.count + 1 = s.count
    | .updated | .stale | .ignored => (s.ingest event).2.count = s.count

theorem answered (event : AlarmRecord) : s.Answered event := by
  have hout := s.outcome_ingest event
  have hget := s.get?_ingest_self event
  have hcount := s.count_ingest event
  cases hg : s.get? event.id with
  | none =>
    cases hc : event.isClearing <;> constructor <;>
      simp_all [AlarmRecord.outcome, AlarmRecord.takenIn]
  | some r =>
    cases hc : event.isClearing <;> cases hold : r.isOutdatedBy event <;> constructor <;>
      simp_all [AlarmRecord.outcome, AlarmRecord.takenIn, AlarmRecord.isOutdatedBy]

/-- **A store is its history, identifier by identifier.** Along any operations without a time sum
out of range, a new store has the record that `recorded?` reads off the operations; it has one
exactly if the last event for the identifier does not clear it; events for other identifiers have
no part in it; and the answer to whatever event comes next agrees with the change. -/
theorem store_eq_history (ops : List Operation) (range : empty.InRangeAlong ops) :
    (∀ id, (empty.after ops).get? id = recorded? id ops) ∧
    (∀ id, ((empty.after ops).get? id).isSome =
      (eventsOf id ops).getLast?.any fun e => !e.isClearing) ∧
    (∀ id, (empty.after (ops.filter (·.concerns id))).get? id = (empty.after ops).get? id) ∧
    ∀ event, (empty.after ops).Answered event :=
  ⟨fun _ => empty.get?_after rfl range, fun _ => empty.isSome_get?_after rfl ops,
    fun id => (after_filter_concerns id range).2.1, answered _⟩

/-- An alarm that is raised, announced and cleared, and then raised again by an event that a later
one brings up to date: the marks of its first time are gone. -/
def reraised : List Operation :=
  [.ingest ⟨"HV", "MAJOR", "HIHI", .ofSecond 100, false, false⟩,
    .desktopBatch (.ofSecond 110) (.ofSeconds 5),
    .ingest ⟨"HV", "MAJOR_ACK", "HIHI", .ofSecond 120, false, false⟩,
    .ingest ⟨"HV", "MINOR", "LOW", .ofSecond 130, false, false⟩,
    .emailBatch,
    .ingest ⟨"HV", "MAJOR", "LOLO", .ofSecond 140, false, false⟩]

theorem store_eq_history_reraised :
    empty.InRangeAlong reraised ∧
    (empty.after reraised).get? "HV" =
      some ⟨"HV", "MAJOR", "LOLO", .ofSecond 130, false, true⟩ := by
  have range : empty.InRangeAlong reraised := by
    refine ⟨trivial, ?_, trivial, trivial, trivial, trivial, trivial⟩
    unfold Operation.InRange InRange
    decide
  exact ⟨range, ((store_eq_history reraised range).1 "HV").trans (by decide)⟩

end AlarmEscalation.AlarmStore
