import AlarmEscalation.Proofs.Session.Alarms

/-! # What an observer tells

An observer samples a session at moments that have nothing to do with its calls: engines are dropped
and built between two samples, and alarms come and go unseen. It tells the front end what a sample
finds, unless it told the same last and has found the session on ever since. -/
namespace AlarmEscalation

/-- What a notice tells about the alarms. -/
def Notice.changed? : Notice → Option IndicatorStatus
  | .changed status => some status
  | .toggled _ => none

/-- A session and an observer of it. -/
structure Watch where
  session : Session := {}
  observer : Observer := {}

namespace Watch

inductive Event where
  | call (event : Session.Event)
  | sample

def next (w : Watch) : Event → Watch
  | .call event => { w with session := w.session.next event }
  | .sample => { w with observer := (w.observer.sample w.session.status).1 }

/-- What the front end is told by the session, or by its observer. -/
def notices (w : Watch) : Event → List Notice
  | .call event => w.session.notices event
  | .sample => (w.observer.sample w.session.status).2

/-- What the front end is told about the alarms. -/
def changes (m : Occurrence Watch Event) : List IndicatorStatus :=
  (m.before.notices m.event).filterMap Notice.changed?

def told (past : List (Occurrence Watch Event)) : List IndicatorStatus := past.flatMap changes

/-- A sample finds the session off. -/
def FindsOff (m : Occurrence Watch Event) : Prop :=
  m.event = .sample ∧ m.before.session.isEnabled = false

theorem told_concat (past : List (Occurrence Watch Event)) (m : Occurrence Watch Event) :
    told (past ++ [m]) = told past ++ changes m := by
  rw [told, List.flatMap_append, List.flatMap_singleton, ← told]

theorem status_eq_disabled_iff (s : Session) : s.status = .disabled ↔ s.isEnabled = false := by
  obtain ⟨engine⟩ := s
  cases engine with
  | none => exact ⟨fun _ => rfl, fun _ => rfl⟩
  | some e =>
    have hstatus : (⟨some e⟩ : Session).status ≠ .disabled := by
      simp only [Session.status]
      split <;> simp
    exact ⟨fun h => absurd h hstatus, fun h => by cases h⟩

/-! ## One event -/

section One
variable (w : Watch)

/-- The calls tell of the switch only. -/
theorem changes_call (event : Session.Event) : changes ⟨w, .call event⟩ = [] := by
  have htoggled (s : Session) (built : Except AlarmError Engine) :
      (s.enable built).notices.filterMap Notice.changed? = [] := by
    rcases s.enable_cases built with ⟨-, hnotices⟩ | ⟨-, -, hnotices⟩ <;>
      simp [hnotices, Notice.changed?]
  have hdisabled (s : Session) (now : Instant) :
      (s.disable now).notices.filterMap Notice.changed? = [] := by
    unfold Session.disable Session.takeEngine
    cases s.engine with
    | none => rfl
    | some e =>
      simp only [(Session.afterShutdown_eq _ _).2]
      split <;> simp [Notice.changed?]
  cases event with
  | enable built => exact htoggled w.session built
  | disable now => exact hdisabled w.session now
  | toggle built now =>
    simp only [changes, notices, Session.notices, Session.toggle]
    split
    · exact hdisabled w.session now
    · exact htoggled w.session built
  | ingest | wake => rfl

/-- The ways in which a sample goes: it finds the session off, or what was told last, or it tells
what it finds. -/
inductive Sampled : Prop
  | off : w.session.isEnabled = false → changes ⟨w, .sample⟩ = [] →
      (w.next .sample).observer.last = none → Sampled
  | same : w.session.isEnabled = true → w.observer.last = some w.session.status →
      changes ⟨w, .sample⟩ = [] → w.next .sample = w → Sampled
  | changed : w.session.isEnabled = true → w.observer.last ≠ some w.session.status →
      changes ⟨w, .sample⟩ = [w.session.status] →
      (w.next .sample).observer.last = some w.session.status → Sampled

theorem sampled : w.Sampled := by
  have hstatus := status_eq_disabled_iff w.session
  by_cases hoff : w.session.status = .disabled
  · have hsample : w.observer.sample w.session.status = ({ last := none }, []) := if_pos hoff
    exact .off (hstatus.mp hoff) (by simp [changes, notices, hsample]) (by simp [next, hsample])
  · have hon : w.session.isEnabled = true := by simpa [hoff] using hstatus
    by_cases hlast : w.observer.last = some w.session.status
    · have hsample : w.observer.sample w.session.status = (w.observer, []) := by
        rw [Observer.sample, if_neg hoff, if_pos hlast]
      exact .same hon hlast (by simp [changes, notices, hsample]) (by simp [next, hsample])
    · have hsample : w.observer.sample w.session.status =
          ({ last := some w.session.status }, [.changed w.session.status]) := by
        rw [Observer.sample, if_neg hoff, if_neg hlast]
      exact .changed hon hlast (by simp [changes, notices, hsample, Notice.changed?])
        (by simp [next, hsample])

end One

section Memory
variable {w : Watch}

/-- What is told about the alarms, a sample tells: the status that it finds. -/
theorem sampled_of_mem_changes {event : Event} {status : IndicatorStatus}
    (h : status ∈ changes ⟨w, event⟩) :
    event = .sample ∧ w.session.isEnabled = true ∧ status = w.session.status ∧
      w.observer.last ≠ some status ∧ (w.next event).observer.last = some status := by
  cases event with
  | call event => simp [changes_call] at h
  | sample =>
    cases w.sampled with
    | off _ hnone | same _ _ hnone => simp [hnone] at h
    | changed hon hother htold hlast =>
      obtain rfl : status = w.session.status := by simpa [htold] using h
      exact ⟨rfl, hon, rfl, hother, hlast⟩

/-- The observer forgets only when it finds the session off. -/
theorem last_next {event : Event} (silent : changes ⟨w, event⟩ = [])
    (on : ¬ FindsOff ⟨w, event⟩) : (w.next event).observer.last = w.observer.last := by
  cases event with
  | call event => rfl
  | sample =>
    cases w.sampled with
    | off hoff => exact absurd ⟨rfl, hoff⟩ on
    | same _ _ _ hsame => rw [hsame]
    | changed _ _ htold => simp [htold] at silent

theorem last_behind {events : List Event} (silent : told (occurrences next w events) = [])
    (on : ∀ m ∈ occurrences next w events, ¬ FindsOff m) :
    (behind next w events).observer.last = w.observer.last := by
  induction events using List.reverseRecOn with
  | nil => rfl
  | append_singleton events event ih =>
    rw [occurrences_concat] at silent on
    rw [told_concat] at silent
    obtain ⟨hbefore, hsilent⟩ := List.append_eq_nil_iff.mp silent
    rw [behind_concat, last_next hsilent (on _ (by simp))]
    exact ih hbefore fun m hm => on m (by simp [hm])

end Memory

/-! ## A whole run -/

/-- What the observer remembers was told last. -/
def Remembers (past : List (Occurrence Watch Event)) (w : Watch) : Prop :=
  ∀ status, w.observer.last = some status → (told past).getLast? = some status

theorem Remembers.step {past : List (Occurrence Watch Event)} {w : Watch} (h : Remembers past w)
    (event : Event) : Remembers (past ++ [⟨w, event⟩]) (w.next event) := by
  intro status hlast
  rw [told_concat]
  cases event with
  | call event =>
    rw [changes_call, List.append_nil]
    exact h status hlast
  | sample =>
    cases w.sampled with
    | off _ _ hnone => simp [hnone] at hlast
    | same _ _ hsilent hsame =>
      rw [hsilent, List.append_nil]
      exact h status (by rwa [hsame] at hlast)
    | changed _ _ htold hafter =>
      rw [hafter] at hlast
      simpa [htold] using hlast

/-- What an observer tells behind `past`. -/
structure Reports (past : List (Occurrence Watch Event)) (w : Watch) : Prop where
  current : w.session.isEnabled = true →
    (told (past ++ [⟨w, .sample⟩])).getLast? = some w.session.status
  sampled : ∀ event, ∀ status ∈ changes ⟨w, event⟩,
    event = .sample ∧ w.session.isEnabled = true ∧ status ≠ .disabled
  single : ∀ event, (changes ⟨w, event⟩).length ≤ 1
  repeated : ∀ first between second status, status ∈ changes ⟨w, first⟩ →
    told (occurrences next (w.next first) between) = [] →
    status ∈ changes ⟨behind next (w.next first) between, second⟩ →
    ∃ m ∈ occurrences next (w.next first) between, FindsOff m

theorem Remembers.reports {past : List (Occurrence Watch Event)} {w : Watch}
    (h : Remembers past w) : Reports past w where
  current hon := by
    rw [told_concat]
    cases w.sampled with
    | off hoff => simp [hoff] at hon
    | same _ hlast hsilent =>
      rw [hsilent, List.append_nil]
      exact h _ hlast
    | changed _ _ htold => simp [htold]
  sampled event status hstatus := by
    obtain ⟨hsample, hon, rfl, -⟩ := sampled_of_mem_changes hstatus
    refine ⟨hsample, hon, fun hoff => ?_⟩
    rw [status_eq_disabled_iff, hon] at hoff
    cases hoff
  single event := by
    cases event with
    | call event => simp [changes_call]
    | sample => cases w.sampled <;> simp [*]
  repeated first between second status hfirst silent hsecond := by
    by_contra hon
    have hlast := last_behind silent fun m hm hoff => hon ⟨m, hm, hoff⟩
    obtain ⟨-, -, -, -, htold⟩ := sampled_of_mem_changes hfirst
    obtain ⟨-, -, -, hother, -⟩ := sampled_of_mem_changes hsecond
    exact hother (hlast.trans htold)

/-- **An observer tells exactly the changes.** However its samples lie between calls of the session:
behind a sample that finds the session on, the front end was told the status of the session last.
Only such samples tell anything, one status each and never that the session is off, and the same is
told twice in a row only if a sample between has found the session off. -/
theorem changes_reported (s : Session) (events : List Event) :
    Reports (occurrences next { session := s } events) (behind next { session := s } events) := by
  have hremembers : Remembers (occurrences next { session := s } events)
      (behind next { session := s } events) :=
    occurrences_induction (fun _ hlast => by cases hlast) (fun _ _ event h => h.step event) events
  exact hremembers.reports

def switchOn : Event := .call (.enable (.ok Engine.desk))

def raised (id : String) : Event :=
  .call (.ingest ⟨id, "MAJOR", "HIHI", .ofSecond 0, false, false⟩)

/-- An alarm that the next sample finds. -/
def sighting : List Event := [.sample, switchOn, .sample, raised "PV1"]

/-- The session is switched off and on again between two samples while there are alarms, and then
once more, with a sample in between. -/
def meanwhile : List Event :=
  [.call (.disable (.ofSecond 1)), switchOn, raised "PV2", .sample, .call (.disable (.ofSecond 2)),
    .sample, switchOn, raised "PV3"]

theorem changes_reported_again :
    told (occurrences next {} (sighting ++ .sample :: meanwhile ++ [.sample])) =
      [.activeOk, .activeAlarm, .activeAlarm] ∧
    (behind next {} (sighting ++ .sample :: meanwhile)).session.isEnabled = true ∧
    (told (occurrences next {} (sighting ++ .sample :: meanwhile) ++
      [⟨behind next {} (sighting ++ .sample :: meanwhile), .sample⟩])).getLast? =
        some .activeAlarm ∧
    ∃ m ∈ occurrences next ((behind next {} sighting).next .sample) meanwhile, FindsOff m := by
  have hon : (behind next {} (sighting ++ .sample :: meanwhile)).session.isEnabled = true := by
    decide
  have hlast := (changes_reported {} (sighting ++ .sample :: meanwhile)).current hon
  have hoff := (changes_reported {} sighting).repeated .sample meanwhile .sample .activeAlarm
    (by decide) (by decide) (by decide)
  exact ⟨by decide, hon, hlast.trans (by decide), hoff⟩

end Watch

end AlarmEscalation
