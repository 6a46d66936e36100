import AlarmEscalation.Proofs.Engine.AllClear
import AlarmEscalation.Proofs.Session.Calls
import AlarmEscalation.Proofs.Turns

/-! # What the front end is told of the switches

A switch changes the session first and is told behind that, by the same call. So the front end is
told the truth as long as no other switch comes between, and as long as the call gets so far: a call
that finds the engine badly shut down returns without telling, and the front end goes on to take a
session to be on that is off. -/
namespace AlarmEscalation.SharedSession

open OpenCalls (eq_of_perm of_perm_cons)

/-- The session is switched on or off. -/
def switches (m : Occurrence SharedSession Event) : Bool :=
  (m.before.next m.event).session.isEnabled != m.before.session.isEnabled

/-- It is switched before the front end was told of the last switch. -/
def overtakes (m : Occurrence SharedSession Event) : Bool := switches m && m.before.owed != []

/-- No engine fails to shut down, and no switch comes between another one and its telling. -/
def Orderly (past : List (Occurrence SharedSession Event)) : Prop :=
  ∀ m ∈ past, fails m = false ∧ overtakes m = false

/-- A call that has only to tell the front end does it at once. -/
def Prompt (m : Occurrence SharedSession Event) : Prop :=
  m.before.tellings ≠ [] → (m.before.next m.event).told ≠ m.before.told

variable {s t : SharedSession} {past : List (Occurrence SharedSession Event)}

/-! ## Orderly runs -/

/-- At most one switch is still to be told, and with it the front end will have been told all, in
turn. -/
structure InTurn (s : SharedSession) : Prop where
  one : s.owed.length ≤ 1
  turns : TakeTurns (s.told ++ s.owed)
  last : (s.told ++ s.owed).getLast?.getD false = s.session.isEnabled

theorem InTurn.of_same (h : InTurn s) (hon : t.session.isEnabled = s.session.isEnabled)
    (htold : t.told ++ t.owed = s.told ++ s.owed) (one : t.owed.length ≤ 1) : InTurn t :=
  ⟨one, htold ▸ h.turns, by rw [htold, hon]; exact h.last⟩

theorem InTurn.switch (h : InTurn s) (hnone : s.owed = []) (htold : t.told = s.told)
    (howed : t.owed.Perm [!s.session.isEnabled])
    (hon : t.session.isEnabled = !s.session.isEnabled) : InTurn t := by
  have howed : t.owed = [!s.session.isEnabled] := howed.eq_singleton
  have hturns := h.turns
  have hlast := h.last
  rw [hnone, List.append_nil] at hturns hlast
  refine ⟨by simp [howed], ?_, ?_⟩
  · rw [htold, howed]
    exact hturns.concat (by rw [hlast, Bool.not_not])
  · simp [htold, howed, hon]

theorem InTurn.step (h : InTurn s) (went : Went s t false)
    (overtakes : t.session.isEnabled ≠ s.session.isEnabled → s.owed = []) : InTurn t := by
  cases went with
  | aside hon htold howed | stopped hon htold howed =>
    have howed := eq_of_perm howed h.one
    exact h.of_same hon (by rw [htold, howed]) (howed ▸ h.one)
  | on hoff hon htold howed | off hoff hon htold howed =>
    have hnone := overtakes (by simp [hoff, hon])
    rw [hnone] at howed
    exact h.switch hnone htold (by rwa [hoff]) (by rw [hoff, hon]; rfl)
  | told on hon htold howed =>
    obtain ⟨hone, hnone⟩ := of_perm_cons howed h.one
    exact h.of_same hon (by rw [htold, hone, hnone, List.append_nil]) (by simp [hnone])

theorem orderly_concat {m : Occurrence SharedSession Event} :
    Orderly (past ++ [m]) ↔ Orderly past ∧ fails m = false ∧ overtakes m = false := by
  rw [Orderly, List.forall_mem_append, List.forall_mem_singleton, ← Orderly]

theorem owed_of_not_overtakes {event : Event} (h : overtakes ⟨s, event⟩ = false)
    (hswitch : (s.next event).session.isEnabled ≠ s.session.isEnabled) : s.owed = [] := by
  simpa [overtakes, switches, hswitch] using h

theorem inTurn (events : List Event) (orderly : Orderly (occurrences next {} events)) :
    InTurn (behind next {} events) := by
  induction events using List.reverseRecOn with
  | nil => exact ⟨Nat.zero_le 1, ⟨.nil, by simp [behind, owed]⟩, rfl⟩
  | append_singleton events event ih =>
    rw [occurrences_concat, orderly_concat] at orderly
    obtain ⟨hpast, hfails, hovertakes⟩ := orderly
    rw [behind_concat]
    have hwent := (behind next {} events).went event
    rw [hfails] at hwent
    exact (ih hpast).step hwent (owed_of_not_overtakes hovertakes)

/-! ## Runs that are not orderly -/

/-- Every switch to on is matched by one to off, but for the one that is still on, and a switch to
off that fails is not told. -/
def Balanced (past : List (Occurrence SharedSession Event)) (s : SharedSession) : Prop :=
  s.told.count true + s.owed.count true =
    s.told.count false + s.owed.count false + past.countP fails + s.session.isEnabled.toNat

theorem Balanced.step (h : Balanced past s) (event : Event) :
    Balanced (past ++ [⟨s, event⟩]) (s.next event) := by
  have hwent := s.went event
  have htrue : ∀ l : List Bool, (true :: l).count true = l.count true + 1 ∧
      (true :: l).count false = l.count false := fun l => by simp
  have hfalse : ∀ l : List Bool, (false :: l).count true = l.count true ∧
      (false :: l).count false = l.count false + 1 := fun l => by simp
  unfold Balanced at h ⊢
  rw [List.countP_append, List.countP_singleton]
  generalize s.next event = t at hwent
  generalize fails ⟨s, event⟩ = failed at hwent
  cases hwent with
  | aside hon htold howed | stopped hon htold howed =>
    rw [hon, htold, howed.count_eq, howed.count_eq, if_neg Bool.false_ne_true]
    exact h
  | on hoff hon htold howed =>
    rw [hoff, Bool.toNat_false] at h
    rw [hon, htold, howed.count_eq, howed.count_eq, (htrue _).1, (htrue _).2,
      if_neg Bool.false_ne_true, Bool.toNat_true]
    omega
  | off hon hoff htold howed =>
    rw [hon, Bool.toNat_true] at h
    rw [hoff, htold, howed.count_eq, howed.count_eq, (hfalse _).1, (hfalse _).2,
      if_neg Bool.false_ne_true, Bool.toNat_false]
    omega
  | failed hon htold howed =>
    rw [howed.count_eq, howed.count_eq, (hfalse _).1, (hfalse _).2] at h
    rw [hon, htold, if_pos rfl]
    omega
  | told on hon htold howed =>
    rw [howed.count_eq, howed.count_eq, List.count_cons, List.count_cons] at h
    rw [hon, htold, List.count_append, List.count_append, List.count_singleton,
      List.count_singleton, if_neg Bool.false_ne_true]
    omega

theorem true_mem_tellings (h : true ∈ s.owed) : true ∈ s.tellings := by
  obtain ⟨c, hc, howes⟩ := List.mem_filterMap.mp h
  cases c with
  | telling on => exact List.mem_filterMap.mpr ⟨_, hc, howes⟩
  | stopping | toggling => cases howes

/-- What is told, and what is just about to be told, is only added to by a run without delay. -/
theorem spoken_prefix {failed : Bool} (went : Went s t failed) (few : s.tellings.length ≤ 1)
    (prompt : s.tellings ≠ [] → t.told ≠ s.told) :
    t.tellings.length ≤ 1 ∧ s.told ++ s.tellings <+: t.told ++ t.tellings := by
  have quiet : t.told = s.told → t.tellings.length ≤ s.tellings.length + 1 →
      t.tellings.length ≤ 1 ∧ s.told ++ s.tellings <+: t.told ++ t.tellings := by
    intro htold hlength
    have hnone : s.tellings = [] := by
      by_contra hne
      exact prompt hne htold
    rw [hnone, List.append_nil, htold]
    exact ⟨by simpa [hnone] using hlength, List.prefix_append _ _⟩
  cases went with
  | aside _ htold _ htellings | off _ _ htold _ htellings | failed _ htold _ htellings =>
    exact quiet htold (by rw [htellings.length_eq]; omega)
  | on _ _ htold _ htellings | stopped _ htold _ htellings =>
    exact quiet htold (by rw [htellings.length_eq, List.length_cons])
  | told on _ htold _ htellings =>
    obtain ⟨hone, hnone⟩ := of_perm_cons htellings few
    rw [hone, hnone, htold, List.append_nil]
    exact ⟨Nat.zero_le 1, List.prefix_rfl⟩

/-- A switch that overtakes another one makes the front end hear the same twice. -/
theorem InTurn.not_takeTurns {failed : Bool} (h : InTurn s) (went : Went s t failed)
    (howed : s.owed ≠ []) (hswitch : t.session.isEnabled ≠ s.session.isEnabled)
    (prompt : s.tellings ≠ [] → t.told ≠ s.told) : ¬ TakeTurns (t.told ++ t.tellings) := by
  obtain ⟨last, hone⟩ := List.length_eq_one_iff.mp
    (Nat.le_antisymm h.one (List.length_pos_of_ne_nil howed))
  have hturns := h.turns
  have hlast := h.last
  rw [hone] at hturns hlast
  rw [List.getLast?_concat, Option.getD_some] at hlast
  have hbefore := (TakeTurns.concat_iff.mp hturns).2
  cases went with
  | aside hon | stopped hon | failed hon | told _ hon => exact absurd hon hswitch
  | on hoff _ htold _ htellings =>
    -- the switch to off is not told, so the front end has heard of one to on
    have hnone : s.tellings = [] := by
      by_contra hne
      exact prompt hne htold
    rw [hnone] at htellings
    intro hagain
    rw [htold, htellings.eq_singleton, TakeTurns.concat_iff, hbefore, hlast, hoff] at hagain
    cases hagain.2
  | off hon _ htold =>
    -- a switch to on is not told only as long as it is just about to be
    have hmem : true ∈ s.tellings := true_mem_tellings (by simp [hone, hlast, hon])
    exact absurd htold (prompt (List.ne_nil_of_mem hmem))

/-- Along a run without delay, whatever is not orderly shows: an engine has failed to shut down, or
the front end has heard the same twice. -/
def Shows (past : List (Occurrence SharedSession Event)) (s : SharedSession) : Prop :=
  Orderly past ∨ 0 < past.countP fails ∨ ¬ TakeTurns (s.told ++ s.tellings)

theorem shows (events : List Event) (prompt : ∀ m ∈ occurrences next {} events, Prompt m) :
    (behind next {} events).tellings.length ≤ 1 ∧
      Shows (occurrences next {} events) (behind next {} events) := by
  induction events using List.reverseRecOn with
  | nil => exact ⟨Nat.zero_le 1, .inl fun m hm => by cases hm⟩
  | append_singleton events event ih =>
    rw [occurrences_concat] at prompt
    obtain ⟨few, hshows⟩ := ih fun m hm => prompt m (by simp [hm])
    have hprompt : Prompt ⟨behind next {} events, event⟩ := prompt _ (by simp)
    have hturn := inTurn events
    rw [occurrences_concat, behind_concat]
    generalize occurrences next {} events = past at *
    generalize behind next {} events = s at *
    have hwent := s.went event
    obtain ⟨few', hprefix⟩ := spoken_prefix hwent few hprompt
    refine ⟨few', ?_⟩
    rcases hshows with horderly | hfailed | hturns
    · cases hfails : fails ⟨s, event⟩ with
      | true => exact .inr (.inl (by simp [hfails]))
      | false =>
        cases hovertakes : overtakes ⟨s, event⟩ with
        | false => exact .inl (orderly_concat.mpr ⟨horderly, hfails, hovertakes⟩)
        | true =>
          obtain ⟨hswitch, howed⟩ : (s.next event).session.isEnabled ≠ s.session.isEnabled ∧
              s.owed ≠ [] := by simpa [overtakes, switches] using hovertakes
          exact .inr (.inr ((hturn horderly).not_takeTurns hwent howed hswitch hprompt))
    · exact .inr (.inl (by rw [List.countP_append]; omega))
    · obtain ⟨more, hmore⟩ := hprefix
      exact .inr (.inr fun h => hturns (TakeTurns.left_of_append (hmore ▸ h)))

/-- How the front end and the session agree behind a run. -/
structure Agrees (past : List (Occurrence SharedSession Event)) (s : SharedSession) : Prop where
  turns : Orderly past → TakeTurns s.told
  last : Orderly past → s.calls = [] → s.told.getLast?.getD false = s.session.isEnabled
  orderly : (∀ m ∈ past, Prompt m) → s.calls = [] → TakeTurns s.told →
    s.told.getLast?.getD false = s.session.isEnabled → Orderly past

theorem agrees_of_balanced (balanced : Balanced past s) (hturn : Orderly past → InTurn s)
    (hshows : (∀ m ∈ past, Prompt m) → Shows past s) : Agrees past s := by
  refine ⟨fun h => (hturn h).turns.left_of_append, fun h hrest => ?_, ?_⟩
  · have hlast := (hturn h).last
    simpa [owed, hrest] using hlast
  · intro prompt hrest hturns hlast
    have hcount := hturns.count_true
    unfold Balanced at balanced
    have howed : s.owed = [] := by simp [owed, hrest]
    have htellings : s.tellings = [] := by simp [tellings, hrest]
    rw [howed, ← hlast] at balanced
    rcases hshows prompt with horderly | hfailed | hagain
    · exact horderly
    · simp only [List.count_nil] at balanced
      omega
    · rw [htellings, List.append_nil] at hagain
      exact absurd hturns hagain

/-- **When the front end knows whether the session is on.** Along every run, whatever the factory
builds and however the calls overlap: as long as every engine shuts down as it should and no switch
comes between another one and its telling, the front end is told of on and off in turn, and of what
the session is when all calls have returned. In a run that tells without delay these are the only
ways for it to be told so. -/
theorem front_end_agrees (events : List Event) :
    Agrees (occurrences next {} events) (behind next {} events) := by
  have hbalanced : Balanced (occurrences next {} events) (behind next {} events) :=
    occurrences_induction rfl (fun _ _ event h => h.step event) events
  exact agrees_of_balanced hbalanced (inTurn events) fun prompt => (shows events prompt).2

/-- The session is switched on and off, and all that is to be told is told in between. -/
def switchedOff : List Event :=
  [.enable (.ok Engine.desk), .resume 0 (.ok Engine.desk), .disable,
    .wakeStopping 0 0 (.ofSecond 100), .resume 0 (.ok Engine.desk), .resume 0 (.ok Engine.desk)]

theorem front_end_agrees_switchedOff :
    Orderly (occurrences next {} switchedOff) ∧ (behind next {} switchedOff).told = [true, false] ∧
    (behind next {} switchedOff).told.getLast?.getD false =
      (behind next {} switchedOff).session.isEnabled := by
  have orderly : Orderly (occurrences next {} switchedOff) := by
    unfold Orderly
    decide
  exact ⟨orderly, by decide, (front_end_agrees switchedOff).last orderly (by decide)⟩

/-- A poll breaks off its actor, for the deadline of an alarm is not a time, and then the session is
switched off. -/
def panicked : List Event :=
  [.enable (.ok Engine.desk), .resume 0 (.ok Engine.desk),
    .ingest ⟨"PV1", "MAJOR", "HIHI", .ofSecond 8210266876799, false, false⟩,
    .wake 0 (.ofSecond 100), .disable, .resume 0 (.ok Engine.desk)]

/-- The session is off, and the front end has heard of no switch but the one to on. -/
theorem front_end_disagrees_of_panicked :
    (behind next {} panicked).calls = [] ∧
    (behind next {} panicked).session.isEnabled = false ∧
    (behind next {} panicked).told = [true] :=
  ⟨by decide, by decide, by decide⟩

/-- The session is switched on again while an engine is shutting down. -/
def overtaken : List Event :=
  [.enable (.ok Engine.desk), .resume 0 (.ok Engine.desk), .disable,
    .enable (.ok Engine.desk), .resume 1 (.ok Engine.desk),
    .wakeStopping 0 0 (.ofSecond 100), .resume 0 (.ok Engine.desk), .resume 0 (.ok Engine.desk)]

example : (behind next {} overtaken).calls = [] ∧
    (behind next {} overtaken).session.isEnabled = true ∧
    (behind next {} overtaken).told = [true, true, false] := by decide

end AlarmEscalation.SharedSession
