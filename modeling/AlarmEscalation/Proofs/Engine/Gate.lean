import AlarmEscalation.Proofs.Engine.Actors
import AlarmEscalation.Proofs.Engine.Relay

/-! # Gates stay open

A channel may speak once the episode has lasted for its timeout. A deadline is the beginning of the
episode and some whole seconds, and such a sum grows with the seconds even if the episode began in a
leap second, which the sum then leaves. So a gate that is open stays open as long as the clock does
not go back and alarms are active, and by then the gates of shorter timeouts are open, too. -/
namespace AlarmEscalation

/-! ## Whole seconds behind a moment -/

namespace Span

@[simp] theorem whole_ofSeconds (n : Nat) : (ofSeconds n).whole = n :=
  Int.mul_tdiv_cancel (n : Int) (by decide)

@[simp] theorem part_ofSeconds (n : Nat) : (ofSeconds n).part = 0 :=
  Int.mul_tmod_left (n : Int) 1000000000

end Span

namespace Instant

variable {t near far now later : Instant} {shorter longer : Nat}

/-- Seconds are added to seconds, and what leaves a leap second leaves its excess behind. -/
theorem shiftParts_ofSeconds (t : Instant) (n : Nat) :
    t.shiftParts (.ofSeconds n) =
      (t.seconds + n, if n = 0 then (t.nanos : Int) else (t.nanos % 1000000000 : Nat)) := by
  have hlt : t.nanos < 2000000000 := t.nanos_lt
  by_cases hleap : t.nanos < 1000000000
  · have hmod : t.nanos % 1000000000 = t.nanos := Nat.mod_eq_of_lt hleap
    have hhigh : ¬ (1000000000 : Int) ≤ t.nanos := by omega
    simp [shiftParts, StaysInLeap, shiftBase, nanosPerSecond, Nat.not_le.mpr hleap, hleap, hmod,
      hhigh]
  · have hmod : ((t.nanos % 1000000000 : Nat) : Int) = (t.nanos : Int) - 1000000000 := by omega
    cases n with
    | zero =>
      have hstays : t.StaysInLeap (.ofSeconds 0) := by
        simp only [StaysInLeap, Span.whole_ofSeconds, Span.part_ofSeconds, nanosPerSecond]
        omega
      simp [shiftParts, hstays]
    | succ n =>
      have hleaves : ¬ t.StaysInLeap (.ofSeconds (n + 1)) := by
        simp only [StaysInLeap, Span.whole_ofSeconds]
        omega
      have hwhole : (0 : Int) < (n + 1 : Nat) := by omega
      have hlow : ¬ (t.nanos : Int) - 1000000000 < 0 := by omega
      have hhigh : ¬ (1000000000 : Int) ≤ (t.nanos : Int) - 1000000000 := by omega
      simp only [shiftParts, if_neg hleaves, shiftBase, if_neg hleap, Span.whole_ofSeconds,
        Span.part_ofSeconds, if_pos (Or.inl hwhole), Int.add_zero, if_neg hlow, if_neg hhigh,
        if_neg n.succ_ne_zero, hmod]

theorem ofParts?_eq_some {seconds : Int} {nanos : Nat} :
    ofParts? seconds nanos = some t ↔ t.seconds = seconds ∧ t.nanos = nanos := by
  unfold ofParts?
  split
  · rename_i hvalid
    constructor
    · intro h
      cases h
      exact ⟨rfl, rfl⟩
    · rintro ⟨rfl, rfl⟩
      rfl
  · rename_i hinvalid
    constructor
    · intro h
      cases h
    · rintro ⟨rfl, rfl⟩
      exact absurd ⟨t.seconds_ge, t.seconds_le, t.nanos_lt⟩ hinvalid

theorem shift?_ofSeconds {n : Nat} :
    t.shift? (.ofSeconds n) = some far ↔
      far.seconds = t.seconds + n ∧
        far.nanos = if n = 0 then t.nanos else t.nanos % 1000000000 := by
  have hnanos : (if n = 0 then (t.nanos : Int) else (t.nanos % 1000000000 : Nat)).toNat =
      if n = 0 then t.nanos else t.nanos % 1000000000 := by
    split <;> rfl
  rw [shift?, shiftParts_ofSeconds, ← hnanos]
  exact ofParts?_eq_some

/-- The moment after fewer seconds exists if the one after more does, and is not behind it. -/
theorem shift?_ofSeconds_mono (hle : shorter ≤ longer)
    (h : t.shift? (.ofSeconds longer) = some far) :
    ∃ near, t.shift? (.ofSeconds shorter) = some near ∧ near ≤ far := by
  obtain ⟨hseconds, hnanos⟩ := shift?_ofSeconds.mp h
  rcases Nat.eq_or_lt_of_le hle with rfl | hlt
  · exact ⟨far, h, .inr ⟨rfl, Nat.le_refl _⟩⟩
  · have hlow := t.seconds_ge
    have hhigh := far.seconds_le
    have hvalid : Valid (t.seconds + shorter)
        (if shorter = 0 then t.nanos else t.nanos % 1000000000) := by
      refine ⟨by omega, by omega, ?_⟩
      split
      · exact t.nanos_lt
      · exact (Nat.mod_lt _ (by decide)).trans (by decide)
    refine ⟨⟨_, _, hvalid.1, hvalid.2.1, hvalid.2.2⟩, shift?_ofSeconds.mpr ⟨rfl, rfl⟩, .inl ?_⟩
    change t.seconds + shorter < far.seconds
    omega

theorem isDue_ofSeconds_mono (hnow : now ≤ later) (hle : shorter ≤ longer)
    (h : t.isDue (.ofSeconds longer) now = true) : t.isDue (.ofSeconds shorter) later = true := by
  obtain ⟨far, hfar, hdue⟩ := (Option.any_eq_true _ _).mp h
  obtain ⟨near, hnear, hbefore⟩ := shift?_ofSeconds_mono hle hfar
  have hreached : near ≤ now := le_trans hbefore (of_decide_eq_true hdue)
  exact isDue_mono hnow (by simp [isDue, hnear, hreached])

end Instant

/-! ## Stores -/

namespace AlarmStore

variable {s : AlarmStore} {now later : Instant} {shorter longer : Nat}

theorem episodeElapsed_iff {timeout : Span} :
    s.episodeElapsed now timeout = .ok true ↔
      s.isEmpty = false ∧ ∃ t, s.oldest = some t ∧ t.isDue timeout now = true := by
  constructor
  · intro h
    obtain ⟨t, deadline, ht, hdeadline, hle⟩ := due_of_episodeElapsed h
    refine ⟨isEmpty_of_episodeElapsed h, t, ht, ?_⟩
    simp [Instant.isDue, hdeadline, hle]
  · rintro ⟨hactive, t, ht, hdue⟩
    obtain ⟨deadline, hdeadline, -⟩ := (Option.any_eq_true _ _).mp hdue
    have hexists : (t.shift? timeout).isSome := Option.isSome_of_eq_some hdeadline
    simp [episodeElapsed, ht, hactive, Instant.due?_of_inRange hexists, hdue]

theorem episodeElapsed_mono (hnow : now ≤ later) (hle : shorter ≤ longer)
    (h : s.episodeElapsed now (.ofSeconds longer) = .ok true) :
    s.episodeElapsed later (.ofSeconds shorter) = .ok true := by
  obtain ⟨hactive, t, ht, hdue⟩ := episodeElapsed_iff.mp h
  exact episodeElapsed_iff.mpr ⟨hactive, t, ht, Instant.isDue_ofSeconds_mono hnow hle hdue⟩

/-- The beginning of an episode is kept by events that leave alarms. -/
theorem oldest_ingest_of_active {t : Instant} (ht : s.oldest = some t) (event : AlarmRecord)
    (hactive : (s.ingest event).2.isEmpty = false) : (s.ingest event).2.oldest = some t := by
  have h := s.ingested event
  generalize s.ingest event = result at h hactive
  cases h with
  | ignored => exact ht
  | removed =>
    have hleft : (s.roster.erase event.id).isEmpty = false := hactive
    simp [hleft, ht]
  | inserted | updated | stale => simp [ht]

end AlarmStore

/-! ## Engines -/

namespace Engine

variable {e : Engine} {now later : Instant} {shorter longer : UInt32}

/-- Alarms are active behind every turn. -/
def Undrained (e : Engine) (turns : List Turn) : Prop :=
  ∀ first, first <+: turns → (e.afterTurns first).store.isEmpty = false

theorem oldest_take {t : Instant} (ht : e.store.oldest = some t) (turn : Turn)
    (hactive : (e.take turn).engine.store.isEmpty = false) :
    (e.take turn).engine.store.oldest = some t := by
  by_cases hevent : ∃ event, turn = .action (.ingest event)
  · obtain ⟨event, rfl⟩ := hevent
    change (e.ingest event).2.store.isEmpty = false at hactive
    change (e.ingest event).2.store.oldest = some t
    rw [store_ingest] at hactive ⊢
    exact AlarmStore.oldest_ingest_of_active ht event hactive
  · have hsame := take_sameAlarms (e := e) fun event heq => hevent ⟨event, heq⟩
    have holdest : (e.take turn).engine.store.unmarked.oldest = e.store.unmarked.oldest :=
      congrArg AlarmStore.oldest hsame.alarms
    exact holdest.trans ht

/-- While alarms are active, the episode goes on from where it began. -/
theorem Undrained.oldest {turns : List Turn} (h : e.Undrained turns) {t : Instant}
    (ht : e.store.oldest = some t) : (e.afterTurns turns).store.oldest = some t := by
  induction turns using List.reverseRecOn with
  | nil => exact ht
  | append_singleton turns turn ih =>
    have hbefore := ih fun first hfirst => h first (hfirst.trans (List.prefix_append _ _))
    have hactive := h _ (List.prefix_refl _)
    rw [afterTurns_concat] at hactive ⊢
    exact oldest_take hbefore turn hactive

/-- A timeout of 0 has no gate that could open. -/
theorem gate_found_iff {timeout : UInt32} :
    (e.gate timeout now).found = .ok true ↔
      timeout ≠ 0 ∧ e.store.episodeElapsed now (timeoutSpan timeout) = .ok true := by
  unfold gate
  split
  · rename_i hzero
    simp [hzero, Step.done]
  · rename_i hpositive
    cases helapsed : e.store.episodeElapsed now (timeoutSpan timeout) <;>
      simp [hpositive, Step.done, Step.broken]

/-- **A gate that is open stays open.** If an episode has lasted for a number of seconds, then it has
lasted for every smaller number, at every later time. So if a gate of an engine is open, then as long
as alarms are active, whatever turns are taken and at whatever times, the gates of the same timeout
and of all shorter ones are open, unless 0 turns them off, whenever the clock has not gone back. -/
theorem gate_stays_open :
    (∀ (s : AlarmStore) (now later : Instant) (shorter longer : Nat), now ≤ later →
      shorter ≤ longer → s.episodeElapsed now (.ofSeconds longer) = .ok true →
      s.episodeElapsed later (.ofSeconds shorter) = .ok true) ∧
    ∀ (e : Engine) (turns : List Turn) (now later : Instant) (shorter longer : UInt32),
      e.Undrained turns → now ≤ later → shorter ≤ longer →
      (e.gate longer now).found = .ok true →
      ((e.afterTurns turns).gate shorter later).found = .ok (decide (shorter ≠ 0)) := by
  refine ⟨fun s now later shorter longer hnow hle => AlarmStore.episodeElapsed_mono hnow hle, ?_⟩
  intro e turns now later shorter longer hturns hnow hle hopen
  by_cases hoff : shorter = 0
  · simp [gate, hoff, Step.done]
  · rw [decide_eq_true hoff, gate_found_iff]
    refine ⟨hoff, ?_⟩
    obtain ⟨-, helapsed⟩ := gate_found_iff.mp hopen
    obtain ⟨-, t, ht, hdue⟩ := AlarmStore.episodeElapsed_iff.mp helapsed
    have hactive := hturns turns (List.prefix_refl _)
    refine AlarmStore.episodeElapsed_iff.mpr ⟨hactive, t, hturns.oldest ht, ?_⟩
    exact Instant.isDue_ofSeconds_mono hnow (UInt32.le_iff_toNat_le.mp hle) hdue

/-- Half a second into a leap second right before the epoch. -/
def leapSecond : Instant := ⟨-1, 1500000000, by decide, by decide, by decide⟩

/-- Alarms come and go, and the clock is read at odd times, but an alarm is always there. -/
def unrest : List Turn :=
  [.action (.ingest ⟨"PV2", "MINOR", "LOW", .ofSecond 1, false, false⟩),
    .action (.pollNotifications .epoch fun _ => .done),
    .action (.ingest ⟨"PV1", "OK", "NO_ALARM", .ofSecond 2, false, false⟩)]

/-- The third second behind the leap second ends its half: the gate for three seconds is open there,
and later on those for three and for one. -/
theorem gate_stays_open_leapSecond :
    let e := (desk.ingest ⟨"PV1", "MAJOR", "HIHI", leapSecond, false, false⟩).2
    let now : Instant := ⟨2, 500000000, by decide, by decide, by decide⟩
    let later : Instant := ⟨59, 1200000000, by decide, by decide, by decide⟩
    (e.gate 3 now).found = .ok true ∧ (e.gate 3 (.ofSecond 2)).found = .ok false ∧
    e.store.episodeElapsed later (.ofSeconds 0) = .ok true ∧
    ((e.afterTurns unrest).gate 1 later).found = .ok true := by
  intro e now later
  have hopen : (e.gate 3 now).found = .ok true := by decide
  have hundrained : e.Undrained unrest := by
    intro first hfirst
    rw [← List.mem_inits] at hfirst
    revert first
    decide
  exact ⟨hopen, by decide,
    gate_stays_open.1 e.store now later 0 3 (by decide) (by decide) (by decide),
    gate_stays_open.2 e unrest now later 1 3 hundrained (by decide) (by decide) hopen⟩

end Engine

end AlarmEscalation
