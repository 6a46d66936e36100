import AlarmEscalation.Proofs.Store.Episode

/-! # Events of one alarm that arrive out of order

An active alarm is brought up to date by every event that is newer than the one that raised it:
the trigger time of the record is never moved on. So the newest event received so far is what the
store tells only if the events behind the first one arrive in order; `AlarmRecord.Orderly` says
which orders these are. -/
namespace AlarmEscalation

namespace AlarmRecord

/-- What an alarm server reports about an alarm. -/
def told (r : AlarmRecord) : String × String := (r.severity, r.status)

/-- The event with the greatest trigger time, of several the one received first. -/
def newest (e0 : AlarmRecord) (events : List AlarmRecord) : AlarmRecord :=
  events.foldl (fun best e => if best.triggerTime < e.triggerTime then e else best) e0

theorem newest_concat (e0 : AlarmRecord) (events : List AlarmRecord) (e : AlarmRecord) :
    e0.newest (events ++ [e]) =
      if (e0.newest events).triggerTime < e.triggerTime then e else e0.newest events := by
  rw [newest, List.foldl_append]
  rfl

theorem newest_spec (e0 : AlarmRecord) (events : List AlarmRecord) :
    ∃ earlier later, e0 :: events = earlier ++ e0.newest events :: later ∧
      (∀ e ∈ earlier, e.triggerTime < (e0.newest events).triggerTime) ∧
      ∀ e ∈ later, e.triggerTime ≤ (e0.newest events).triggerTime := by
  induction events using List.reverseRecOn with
  | nil => exact ⟨[], [], rfl, by simp, by simp⟩
  | append_singleton events e ih =>
    obtain ⟨earlier, later, hsplit, hearlier, hlater⟩ := ih
    rw [newest_concat, ← List.cons_append]
    split
    · rename_i hlt
      refine ⟨e0 :: events, [], rfl, ?_, by simp⟩
      intro x hx
      rw [hsplit] at hx
      rcases List.mem_append.mp hx with hx | hx
      · have := hearlier x hx
        simp only [Instant.lt_def] at *; omega
      · rcases List.mem_cons.mp hx with rfl | hx
        · exact hlt
        · have := hlater x hx
          simp only [Instant.lt_def, Instant.le_def] at *; omega
    · rename_i hge
      refine ⟨earlier, later ++ [e], by simp [hsplit], hearlier, ?_⟩
      intro x hx
      rcases List.mem_append.mp hx with hx | hx
      · exact hlater x hx
      · rw [List.mem_singleton.mp hx]
        exact Instant.not_lt.mp hge

theorem newest_mem (e0 : AlarmRecord) (events : List AlarmRecord) :
    e0.newest events ∈ e0 :: events := by
  obtain ⟨earlier, later, hsplit, -⟩ := e0.newest_spec events
  rw [hsplit]
  simp

theorem le_newest {e0 e : AlarmRecord} {events : List AlarmRecord} (h : e ∈ e0 :: events) :
    e.triggerTime ≤ (e0.newest events).triggerTime := by
  obtain ⟨earlier, later, hsplit, hearlier, hlater⟩ := e0.newest_spec events
  rw [hsplit] at h
  rcases List.mem_append.mp h with h | h
  · have := hearlier e h
    simp only [Instant.lt_def, Instant.le_def] at *; omega
  · rcases List.mem_cons.mp h with rfl | h
    · simp [Instant.le_def]
    · exact hlater e h

/-- Events that arrive behind `e0` in such an order that the last one accepted is the newest: each
one is no newer than `e0`, or newer than all before it, or no older than these and tells the same
as the newest of them. -/
def Orderly (e0 : AlarmRecord) (events : List AlarmRecord) : Prop :=
  ∀ before e, before ++ [e] <+: events →
    e.triggerTime ≤ e0.triggerTime ∨ (e0.newest before).triggerTime < e.triggerTime ∨
      ((e0.newest before).triggerTime ≤ e.triggerTime ∧ e.told = (e0.newest before).told)

theorem Orderly.initial {e0 : AlarmRecord} {events first : List AlarmRecord}
    (h : e0.Orderly events) (hp : first <+: events) : e0.Orderly first :=
  fun before e hb => h before e (hb.trans hp)

theorem orderly_nil (e0 : AlarmRecord) : e0.Orderly [] := by
  intro before e h
  simp at h

theorem orderly_concat {e0 e : AlarmRecord} {events : List AlarmRecord} :
    e0.Orderly (events ++ [e]) ↔ e0.Orderly events ∧
      (e.triggerTime ≤ e0.triggerTime ∨ (e0.newest events).triggerTime < e.triggerTime ∨
        ((e0.newest events).triggerTime ≤ e.triggerTime ∧ e.told = (e0.newest events).told)) := by
  refine ⟨fun h => ⟨h.initial (List.prefix_append _ _), h events e (List.prefix_refl _)⟩,
    fun ⟨h, he⟩ before e' hb => ?_⟩
  rcases List.prefix_concat_iff.mp hb with hb | hb
  · obtain ⟨rfl, heq⟩ := List.append_inj' hb rfl
    cases heq
    exact he
  · exact h before e' hb

theorem Orderly.told_lastNewer {e0 : AlarmRecord} {events : List AlarmRecord}
    (h : e0.Orderly events) : (e0.lastNewer events).told = (e0.newest events).told := by
  induction events using List.reverseRecOn with
  | nil => rfl
  | append_singleton events e ih =>
    have ih := ih (h.initial (List.prefix_append _ _))
    have hle : e0.triggerTime ≤ (e0.newest events).triggerTime := le_newest (by simp)
    rw [lastNewer_concat, newest_concat]
    rcases h events e (List.prefix_refl _) with hold | hnew | ⟨hge, hsame⟩
    · rw [if_neg (Instant.not_lt.mpr hold), if_neg, ih]
      exact Instant.not_lt.mpr (Instant.le_trans hold hle)
    · rw [if_pos hnew, if_pos]
      simp only [Instant.lt_def, Instant.le_def] at *; omega
    · split <;> split <;> simp_all

end AlarmRecord

namespace AlarmStore

/-- The newest event received so far is what the store tells, after each operation of an episode
that `e0` opens. -/
def NewestKept (s : AlarmStore) (e0 : AlarmRecord) (later : List Operation) : Prop :=
  ∀ p, p <+: later → ∃ r, (s.after (.ingest e0 :: p)).get? e0.id = some r ∧
    r.told = (e0.newest (eventsOf e0.id p)).told

/-- An event older than one that was applied before it is stale and changes nothing. -/
def OlderStale (s : AlarmStore) (e0 : AlarmRecord) (later : List Operation) : Prop :=
  ∀ before f between e, (before ++ .ingest f :: between) ++ [.ingest e] <+: .ingest e0 :: later →
    f.id = e0.id → e.id = e0.id → ((s.after before).ingest f).1 ∈ [.inserted, .updated] →
    e.triggerTime < f.triggerTime →
    (s.after (before ++ .ingest f :: between)).ingest e =
      (.stale, s.after (before ++ .ingest f :: between))

theorem exists_prefix_of_eventsOf {id : String} {ops : List Operation} {before : List AlarmRecord}
    {e : AlarmRecord} (h : before ++ [e] <+: eventsOf id ops) :
    ∃ p, p ++ [.ingest e] <+: ops ∧ eventsOf id p = before ∧ e.id = id := by
  induction ops using List.reverseRecOn with
  | nil => simp [eventsOf] at h
  | append_singleton ops op ih =>
    have shorter : before ++ [e] <+: eventsOf id ops →
        ∃ p, p ++ [.ingest e] <+: ops ++ [op] ∧ eventsOf id p = before ∧ e.id = id := fun h => by
      obtain ⟨p, hp, hb, hid⟩ := ih h
      exact ⟨p, hp.trans (List.prefix_append _ _), hb, hid⟩
    rw [eventsOf_concat] at h
    cases he : op.event? id with
    | none => exact shorter (by simpa [he] using h)
    | some x =>
      rw [he, Option.toList_some, List.prefix_concat_iff] at h
      rcases h with h | h
      · obtain ⟨rfl, hx⟩ := List.append_inj' h rfl
        cases hx
        obtain ⟨rfl, hid⟩ := Operation.eq_ingest_of_event? he
        exact ⟨ops, List.prefix_refl _, rfl, hid⟩
      · exact shorter h

/-! ## What an episode keeps -/

variable {s : AlarmStore} {e0 : AlarmRecord} {later : List Operation}

theorem Episode.told (h : s.Episode e0 later) :
    ∃ r, (s.after (.ingest e0 :: later)).get? e0.id = some r ∧ r.triggerTime = e0.triggerTime ∧
      r.told = (e0.lastNewer (eventsOf e0.id later)).told := by
  obtain ⟨b, hb, -⟩ := h.get?_after
  exact ⟨_, hb, rfl, rfl⟩

theorem Episode.oldest_isSome (h : s.Episode e0 later) :
    (s.after (.ingest e0 :: later)).oldest.isSome := by
  induction later using List.reverseRecOn with
  | nil =>
    have hi := s.ingested e0
    rw [after_cons, after_nil, apply]
    generalize s.ingest e0 = result at hi
    cases hi with
    | inserted => simp
    | ignored hc | removed hc => rw [h.raising] at hc; cases hc
    | updated _ hg | stale _ hg => rw [h.absent] at hg; cases hg
  | append_singleton later op ih =>
    have ih := ih (h.initial (List.prefix_append _ _))
    obtain ⟨r, hr, -⟩ := h.told
    rw [← List.cons_append, after_concat] at hr ⊢
    cases op with
    | ingest e => exact oldest_ingest_isSome _ e ih (isEmpty_of_get? _ hr)
    | desktopBatch now timeout => exact ih
    | emailBatch => exact ih

/-- An event is compared with the one that raised the alarm, whatever has come since. -/
theorem Episode.outcome (h : s.Episode e0 later) {e : AlarmRecord} (hid : e.id = e0.id)
    (hc : e.isClearing = false) :
    ((s.after (.ingest e0 :: later)).ingest e).1 =
      if e0.triggerTime < e.triggerTime then .updated else .stale := by
  obtain ⟨r, hr, ht, -⟩ := h.told
  rw [outcome_ingest, hid, hr]
  simp [AlarmRecord.outcome, hc, AlarmRecord.isOutdatedBy, ht]

theorem Episode.ingest_of_stale (h : s.Episode e0 later) {e : AlarmRecord} (hid : e.id = e0.id)
    (hc : e.isClearing = false) (hold : e.triggerTime ≤ e0.triggerTime) :
    (s.after (.ingest e0 :: later)).ingest e = (.stale, s.after (.ingest e0 :: later)) := by
  have hout := h.outcome hid hc
  rw [if_neg (Instant.not_lt.mpr hold)] at hout
  exact Prod.ext hout (AlarmStore.ingest_of_stale _ _ h.oldest_isSome hout)

/-- An event of an episode does not clear the alarm. -/
theorem Episode.not_clearing (h : s.Episode e0 later) {p : List Operation} {e : AlarmRecord}
    (hp : p ++ [.ingest e] <+: later) (hid : e.id = e0.id) : e.isClearing = false := by
  have := h.kept (.ingest e) (hp.subset (by simp))
  simpa [Operation.clears, Operation.event?, hid] using this

/-! ## Which arrivals keep the newest state -/

theorem Episode.newestKept (h : s.Episode e0 later) (ho : e0.Orderly (eventsOf e0.id later)) :
    s.NewestKept e0 later := by
  intro p hp
  obtain ⟨r, hr, -, htold⟩ := (h.initial hp).told
  exact ⟨r, hr, htold.trans (ho.initial (hp.filterMap _)).told_lastNewer⟩

theorem eventsOf_concat_ingest {id : String} {e : AlarmRecord} (hid : e.id = id)
    (ops : List Operation) : eventsOf id (ops ++ [.ingest e]) = eventsOf id ops ++ [e] := by
  simp [eventsOf_concat, Operation.event?, hid]

theorem Episode.olderStale (h : s.Episode e0 later) (ho : e0.Orderly (eventsOf e0.id later)) :
    s.OlderStale e0 later := by
  intro before f between e hp hf hid _ hlt
  -- before `e` come the opening event and some of `later`, and `f` is among their events
  obtain ⟨p, hsplit, hp, hmem⟩ : ∃ p, before ++ .ingest f :: between = .ingest e0 :: p ∧
      p ++ [.ingest e] <+: later ∧ f ∈ e0 :: eventsOf e0.id p := by
    cases before with
    | nil =>
      obtain ⟨heq, hrest⟩ := List.cons_prefix_cons.mp hp
      cases heq
      exact ⟨between, rfl, hrest, List.mem_cons_self⟩
    | cons op rest =>
      obtain ⟨rfl, hrest⟩ := List.cons_prefix_cons.mp hp
      refine ⟨rest ++ .ingest f :: between, rfl, hrest, List.mem_cons_of_mem _ ?_⟩
      exact List.mem_filterMap.mpr ⟨.ingest f, by simp, by simp [Operation.event?, hf]⟩
  rw [hsplit]
  have hfirst : p <+: later := (List.prefix_append _ _).trans hp
  have hevents := hp.filterMap (Operation.event? e0.id)
  refine (h.initial hfirst).ingest_of_stale hid (h.not_clearing hp hid) ?_
  have hle := AlarmRecord.le_newest hmem
  have hprefix : eventsOf e0.id p ++ [e] <+: eventsOf e0.id later :=
    eventsOf_concat_ingest hid p ▸ hevents
  rcases ho (eventsOf e0.id p) e hprefix with hold | hnew | ⟨hge, -⟩
  · exact hold
  all_goals simp only [Instant.lt_def, Instant.le_def] at *; omega

theorem Episode.orderly (h : s.Episode e0 later) (hnewest : s.NewestKept e0 later)
    (hstale : s.OlderStale e0 later) : e0.Orderly (eventsOf e0.id later) := by
  intro before e hb
  obtain ⟨p, hp, rfl, hid⟩ := exists_prefix_of_eventsOf hb
  have hc := h.not_clearing hp hid
  have hfirst : p <+: later := (List.prefix_append _ _).trans hp
  by_cases hold : e.triggerTime ≤ e0.triggerTime
  · exact .inl hold
  by_cases hnew : (e0.newest (eventsOf e0.id p)).triggerTime < e.triggerTime
  · exact .inr (.inl hnew)
  have hlt : e0.triggerTime < e.triggerTime := by
    simp only [Instant.lt_def, Instant.le_def] at *; omega
  have hout := (h.initial hfirst).outcome hid hc
  rw [if_pos hlt] at hout
  refine .inr (.inr ⟨Instant.not_lt.mp fun holder => ?_, ?_⟩)
  · -- the newest event so far was applied, so `e` ought to be stale; but it is newer than `e0`
    have hmem : e0.newest (eventsOf e0.id p) ∈ eventsOf e0.id p := by
      refine (List.mem_cons.mp (e0.newest_mem _)).resolve_left fun he => ?_
      rw [he] at holder
      simp only [Instant.lt_def] at *; omega
    obtain ⟨op, hop, hev⟩ := List.mem_filterMap.mp hmem
    obtain ⟨rfl, hfid⟩ := Operation.eq_ingest_of_event? hev
    generalize e0.newest (eventsOf e0.id p) = f at hop hfid holder
    obtain ⟨q, between, rfl⟩ := List.append_of_mem hop
    have hqf : q ++ [.ingest f] <+: later :=
      List.IsPrefix.trans (by simp) hfirst
    have happlied := (h.initial ((List.prefix_append _ _).trans hqf)).outcome hfid
      (h.not_clearing hqf hfid)
    rw [if_pos (by simp only [Instant.lt_def] at *; omega)] at happlied
    have hstale := hstale (.ingest e0 :: q) f between e (by simpa using hp) hfid hid
      (by simp [happlied]) holder
    rw [List.cons_append] at hstale
    rw [hstale] at hout
    cases hout
  · -- `e` is what the store tells now, and not the newest event
    obtain ⟨r, hr, htold⟩ := hnewest _ hp
    obtain ⟨r', hr', -, htold'⟩ := (h.initial hp).told
    cases hr.symm.trans hr'
    rw [eventsOf_concat_ingest hid] at htold htold'
    rw [AlarmRecord.lastNewer_concat, if_pos hlt] at htold'
    rw [AlarmRecord.newest_concat, if_neg hnew] at htold
    exact htold'.symm.trans htold

/-- **When the newest event received so far is what a store tells.** An event of an episode is
applied exactly if it is newer than the one that raised the alarm. So all events are given their
due, the newest being kept and those older than one applied being stale, exactly if they arrive in
an orderly way. -/
theorem newest_kept_iff (h : s.Episode e0 later) :
    (∀ p e, p ++ [.ingest e] <+: later → e.id = e0.id →
      ((s.after (.ingest e0 :: p)).ingest e).1 =
        if e0.triggerTime < e.triggerTime then .updated else .stale) ∧
    (s.NewestKept e0 later ∧ s.OlderStale e0 later ↔ e0.Orderly (eventsOf e0.id later)) := by
  constructor
  · intro p e hp hid
    have hfirst : p <+: later := (List.prefix_append _ _).trans hp
    exact (h.initial hfirst).outcome hid (h.not_clearing hp hid)
  · constructor
    · intro hkept
      exact h.orderly hkept.1 hkept.2
    · intro horderly
      exact ⟨h.newestKept horderly, h.olderStale horderly⟩

/-- An event that raises an alarm, one that brings it up to date, and two that come too late. -/
def opening : AlarmRecord := ⟨"PV1", "MINOR", "HIGH", .ofSecond 100, false, false⟩
def overtaking : AlarmRecord := ⟨"PV1", "MAJOR", "HIHI", .ofSecond 300, false, false⟩
def overtaken : AlarmRecord := ⟨"PV1", "INVALID", "LINK", .ofSecond 200, false, false⟩
def outdated : AlarmRecord := ⟨"PV1", "INVALID", "LINK", .ofSecond 90, false, false⟩

theorem newest_kept_of_outdated :
    empty.Episode opening [.ingest overtaking, .emailBatch, .ingest outdated] ∧
    empty.NewestKept opening [.ingest overtaking, .emailBatch, .ingest outdated] := by
  have episode : empty.Episode opening [.ingest overtaking, .emailBatch, .ingest outdated] :=
    ⟨rfl, by decide, by decide⟩
  have orderly : opening.Orderly ([] ++ [overtaking] ++ [outdated]) := by
    simp only [AlarmRecord.orderly_concat, AlarmRecord.orderly_nil]
    decide
  exact ⟨episode, ((newest_kept_iff episode).2.mpr orderly).1⟩

/-- The overtaken event is applied, and the store goes back to an older state. -/
theorem newer_state_overwritten :
    empty.Episode opening [.ingest overtaking, .ingest overtaken] ∧
    ¬ empty.NewestKept opening [.ingest overtaking, .ingest overtaken] ∧
    ¬ empty.OlderStale opening [.ingest overtaking, .ingest overtaken] := by
  refine ⟨⟨rfl, by decide, by decide⟩, ?_, ?_⟩
  · intro hkept
    obtain ⟨r, hr, htold⟩ := hkept _ (List.prefix_refl _)
    revert r
    decide
  · intro hstale
    have hstale := hstale [.ingest opening] overtaking [] overtaken (List.prefix_refl _) rfl rfl
      (by decide) (by decide)
    exact absurd (congrArg Prod.fst hstale) (by decide)

end AlarmStore

end AlarmEscalation
