import AlarmEscalation.Proofs.Engine.Dispatch
import AlarmEscalation.Proofs.Engine.Light
import AlarmEscalation.Proofs.Occurrence
import AlarmEscalation.Proofs.Store.Oldest

/-! # Events that come in while an engine is polled

A poll looks at the store several times, and locks it for each look alone. `PollInProgress` is a
poll between two looks, when any events may come in; a poll that none comes into is the poll of the
engine, `behind_uninterrupted`.

Whether the episode is old enough for a mail and which alarms the mail tells of are two looks. What
lies between them is the subject of `mailed_episode`: the mail may be of another episode than the
one that was asked about, and this one may have just begun. -/
namespace AlarmEscalation

/-! ## The episode behind some events -/

namespace AlarmStore

/-- Takes in an event. -/
def taking (s : AlarmStore) (event : AlarmRecord) : AlarmStore := (s.ingest event).2

/-- The last of the events that came into an empty store and brought in an alarm. -/
def reopening? (s : AlarmStore) : List AlarmRecord → Option AlarmRecord
  | [] => none
  | event :: rest =>
    ((s.taking event).reopening? rest).or
      (if s.isEmpty && !(s.taking event).isEmpty then some event else none)

theorem Coherent.takes {s : AlarmStore} (hs : s.Coherent) (events : List AlarmRecord) :
    (behind taking s events).Coherent :=
  occurrences_induction (J := fun _ s => Coherent s) hs (fun _ _ event h => h.ingest event) events

/-- The episode began with the last reopening, or with what was there before. -/
theorem Coherent.oldest_behind {s : AlarmStore} (hs : s.Coherent) (events : List AlarmRecord)
    (hactive : (behind taking s events).isEmpty = false) :
    (behind taking s events).oldest =
      ((s.reopening? events).map AlarmRecord.triggerTime).or s.oldest := by
  induction events generalizing s with
  | nil => rfl
  | cons event rest ih =>
    have hnext : (s.taking event).Coherent := hs.ingest event
    have holdest : (s.taking event).oldest = _ := hs.oldest_ingest event
    have hlater := ih hnext hactive
    change (behind taking (s.taking event) rest).oldest = _
    rw [hlater, reopening?]
    cases hlast : (s.taking event).reopening? rest with
    | some last => rfl
    | none =>
      -- without a reopening behind it, this event left alarms in the store
      have hleft : (s.taking event).isEmpty = false := by
        cases hempty : (s.taking event).isEmpty with
        | false => rfl
        | true =>
          have hnone : (behind taking (s.taking event) rest).oldest = none := by
            rw [hlater, hlast, hnext.oldest_eq_none_iff.mpr hempty]
            rfl
          have hdrained := (hnext.takes rest).oldest_eq_none_iff.mp hnone
          exact hdrained.symm.trans hactive
      rw [Option.map_none, Option.none_or, holdest]
      change (if (s.taking event).isEmpty then _ else _) = _
      rw [hleft]
      cases hempty : s.isEmpty with
      | true => rfl
      | false => rfl

theorem isEmpty_of_emailBatch {s : AlarmStore} (h : s.emailBatch.1 ≠ []) : s.isEmpty = false := by
  cases hempty : s.isEmpty with
  | false => rfl
  | true =>
    have hnone : s.roster.records = [] := List.isEmpty_iff.mp hempty
    exact absurd (by simp [emailBatch, hnone]) h

end AlarmStore

namespace Engine

/-! ## A poll in progress -/

namespace Step

variable {α β γ : Type}

theorem andThen_assoc (s : Step α) (f : Engine → α → Step β) (g : Engine → β → Step γ) :
    (s.andThen f).andThen g = s.andThen fun e a => (f e a).andThen g := by
  unfold andThen
  cases s.found with
  | error fault => rfl
  | ok a =>
    dsimp only
    cases (f s.engine a).found with
    | error fault => rfl
    | ok b => simp only [List.append_assoc]

theorem andThen_done_self (s : Step α) : (s.andThen fun e a => .done e a) = s := by
  unfold andThen
  cases hfound : s.found with
  | error fault =>
    cases s
    cases hfound
    rfl
  | ok a =>
    cases s
    cases hfound
    simp [done]

end Step

/-- Shows what is due on the desktop, and starts the alert. -/
def popUp (e : Engine) (now : Instant) (order : ScanOrder) : Step (List AlarmRecord) :=
  (e.handOutDesktop now order).andThen fun e batch => e.raiseAlert.andThen fun e _ => .done e batch

theorem popUp_within {before e : Engine} (h : Polled before e) (now : Instant)
    (order : ScanOrder) : (e.popUp now order).Within (Polled before) Notifies :=
  (handOutDesktop_within h now order).andThen fun _ _ h =>
    (raiseAlert_within h).andThen fun _ _ h => Step.within_done h _

/-- A gate that is found open was asked about an episode that has lasted. -/
theorem gate_open {e : Engine} {timeout : UInt32} {now : Instant}
    (h : (e.gate timeout now).found = .ok true) :
    e.store.isEmpty = false ∧ e.lasted timeout now = true := by
  have hactive : e.store.isEmpty = false := by
    unfold gate at h
    split at h
    · cases h
    · split at h
      · cases h
      · rename_i elapsed helapsed
        have htrue : elapsed = true := Except.ok.inj h
        rw [htrue] at helapsed
        exact AlarmStore.isEmpty_of_episodeElapsed helapsed
  refine ⟨hactive, ?_⟩
  rcases gate_cases hactive timeout now with hgate | ⟨-, fault, hgate⟩
  · rw [hgate] at h
    exact Except.ok.inj h
  · rw [hgate] at h
    cases h

/-- The rest of a poll that has shown its batch on the desktop. -/
def thenMail (e : Engine) (now : Instant) (shown : List AlarmRecord) : Step NotificationTick :=
  (e.pollEmail now).andThen fun e mails => .done e { desktop := shown, email := mails }

end Engine

/-- What a poll does next. -/
inductive PollStage where
  | looking
  | askingDesktop
  | showing
  | askingMail (shown : List AlarmRecord)
  | mailing (shown : List AlarmRecord)
  | ended (found : Except Fault Engine.NotificationTick)

/-- How many looks at the store are left to a poll. -/
def PollStage.left : PollStage → Nat
  | .looking => 5
  | .askingDesktop => 4
  | .showing => 3
  | .askingMail _ => 2
  | .mailing _ => 1
  | .ended _ => 0

theorem PollStage.ended_of_left {stage : PollStage} (h : stage.left ≤ 0) :
    ∃ found, stage = .ended found := by
  cases stage with
  | ended found => exact ⟨found, rfl⟩
  | looking | askingDesktop | showing | askingMail | mailing => simp [left] at h

/-- An engine, how far a poll of it has come, and what the poll has called and logged so far. -/
structure PollInProgress where
  engine : Engine
  stage : PollStage := .looking
  calls : List Call := []
  logs : List LogLine := []

namespace PollInProgress

variable {p : PollInProgress} {now : Instant} {order : ScanOrder}

/-- Makes a step of the engine; a fault ends the poll. -/
def goOn {α : Type} (p : PollInProgress) (s : Engine.Step α) (next : α → PollStage) :
    PollInProgress where
  engine := s.engine
  stage :=
    match s.found with
    | .error fault => .ended (.error fault)
    | .ok a => next a
  calls := p.calls ++ s.calls
  logs := p.logs ++ s.logs

/-- The next look at the store, and what is done about it. -/
def proceed (p : PollInProgress) (now : Instant) (order : ScanOrder) : PollInProgress :=
  let e := p.engine
  match p.stage with
  | .looking =>
    if e.store.isEmpty then p.goOn e.pollEmpty fun tick => .ended (.ok tick)
    else { p with engine := { e with alarmSeen := true }, stage := .askingDesktop }
  | .askingDesktop =>
    p.goOn (e.gate e.settings.desktop now) fun elapsed =>
      if elapsed then .showing else .askingMail []
  | .showing => p.goOn (e.popUp now order) .askingMail
  | .askingMail shown =>
    if e.settings.role = .server then
      p.goOn (e.gate e.settings.email now) fun elapsed =>
        if elapsed then .mailing shown else .ended (.ok { desktop := shown })
    else { p with stage := .ended (.ok { desktop := shown }) }
  | .mailing shown =>
    p.goOn e.handOutEmail fun mails => .ended (.ok { desktop := shown, email := mails })
  | .ended _ => p

/-- What happens while a poll is in progress. -/
inductive Move where
  | event (event : AlarmRecord)
  | proceed

def next (now : Instant) (order : ScanOrder) (p : PollInProgress) : Move → PollInProgress
  | .event event => { p with engine := (p.engine.apply event).2 }
  | .proceed => p.proceed now order

/-! ## A poll that no event comes into -/

/-- What a poll has still to do. -/
def remaining (e : Engine) (now : Instant) (order : ScanOrder) :
    PollStage → Engine.Step Engine.NotificationTick
  | .looking => e.pollNotifications now order
  | .askingDesktop => (e.pollDesktop now order).andThen fun e shown => e.thenMail now shown
  | .showing => (e.popUp now order).andThen fun e shown => e.thenMail now shown
  | .askingMail shown => e.thenMail now shown
  | .mailing shown =>
    e.handOutEmail.andThen fun e mails => .done e { desktop := shown, email := mails }
  | .ended found => { engine := e, found }

/-- The poll if no event comes in any more. -/
def completion (p : PollInProgress) (now : Instant) (order : ScanOrder) :
    Engine.Step Engine.NotificationTick :=
  let s := remaining p.engine now order p.stage
  { s with calls := p.calls ++ s.calls, logs := p.logs ++ s.logs }

theorem completion_goOn {α : Type} {s : Engine.Step α} {next : α → PollStage}
    (hstep : remaining p.engine now order p.stage =
      s.andThen fun e a => remaining e now order (next a)) :
    (p.goOn s next).completion now order = p.completion now order := by
  unfold completion goOn
  rw [hstep]
  unfold Engine.Step.andThen
  cases s.found with
  | error fault => simp [remaining]
  | ok a => simp [List.append_assoc]

/-- Going on changes nothing of what a poll comes to. -/
theorem completion_proceed (p : PollInProgress) (now : Instant) (order : ScanOrder) :
    (p.proceed now order).completion now order = p.completion now order := by
  obtain ⟨e, stage, calls, logs⟩ := p
  cases stage with
  | looking =>
    unfold proceed
    dsimp only
    cases hempty : e.store.isEmpty with
    | true =>
      rw [if_pos rfl]
      refine completion_goOn ?_
      change e.pollNotifications now order = e.pollEmpty.andThen fun e tick => .done e tick
      rw [Engine.Step.andThen_done_self, Engine.pollNotifications, if_pos hempty]
    | false =>
      rw [if_neg Bool.false_ne_true]
      have hactive : e.pollNotifications now order = e.pollActive now order := by
        rw [Engine.pollNotifications, hempty, if_neg Bool.false_ne_true]
      change completion ⟨_, .askingDesktop, calls, logs⟩ now order = _
      unfold completion remaining
      rw [hactive]
      rfl
  | askingDesktop =>
    refine completion_goOn ?_
    change (e.pollDesktop now order).andThen (fun e shown => e.thenMail now shown) = _
    rw [Engine.pollDesktop, Engine.Step.andThen_assoc]
    congr 1
    funext e elapsed
    cases elapsed with
    | false => exact Engine.Step.done_andThen e [] _
    | true => rfl
  | showing => exact completion_goOn rfl
  | askingMail shown =>
    unfold proceed
    dsimp only
    by_cases hrole : e.settings.role = .server
    · rw [if_pos hrole]
      refine completion_goOn ?_
      change e.thenMail now shown = _
      rw [Engine.thenMail, Engine.pollEmail, if_pos hrole, Engine.Step.andThen_assoc]
      congr 1
      funext e elapsed
      cases elapsed with
      | false => exact Engine.Step.done_andThen e [] _
      | true => rfl
    · rw [if_neg hrole]
      have hidle : e.thenMail now shown = .done e { desktop := shown } := by
        rw [Engine.thenMail, Engine.pollEmail, if_neg hrole, Engine.Step.done_andThen]
      unfold completion remaining
      dsimp only
      rw [hidle]
      rfl
  | mailing shown => exact completion_goOn rfl
  | ended found => rfl

theorem completion_uninterrupted (p : PollInProgress) (now : Instant) (order : ScanOrder)
    (n : Nat) :
    (behind (next now order) p (List.replicate n .proceed)).completion now order =
      p.completion now order := by
  induction n generalizing p with
  | zero => rfl
  | succ n ih => exact (ih (p.proceed now order)).trans (completion_proceed p now order)

theorem left_goOn {α : Type} {s : Engine.Step α} {next : α → PollStage} {n : Nat}
    (h : ∀ a, (next a).left ≤ n) : (p.goOn s next).stage.left ≤ n := by
  unfold goOn
  cases s.found with
  | error fault => exact Nat.zero_le n
  | ok a => exact h a

theorem left_proceed (p : PollInProgress) (now : Instant) (order : ScanOrder) :
    (p.proceed now order).stage.left ≤ p.stage.left - 1 := by
  obtain ⟨e, stage, calls, logs⟩ := p
  cases stage with
  | looking =>
    unfold proceed
    dsimp only
    split
    · exact left_goOn fun _ => Nat.zero_le _
    · exact Nat.le_refl _
  | askingDesktop =>
    refine left_goOn fun elapsed => ?_
    cases elapsed with
    | false => exact (by decide : 2 ≤ 3)
    | true => exact Nat.le_refl 3
  | showing => exact left_goOn fun _ => Nat.le_refl 2
  | askingMail shown =>
    unfold proceed
    dsimp only
    split
    · refine left_goOn fun elapsed => ?_
      cases elapsed with
      | false => exact Nat.zero_le 1
      | true => exact Nat.le_refl 1
    · exact Nat.zero_le 1
  | mailing shown => exact left_goOn fun _ => Nat.le_refl 0
  | ended found => exact Nat.le_refl 0

theorem left_uninterrupted (p : PollInProgress) (now : Instant) (order : ScanOrder) (n : Nat) :
    (behind (next now order) p (List.replicate n .proceed)).stage.left ≤ p.stage.left - n := by
  induction n generalizing p with
  | zero => exact Nat.le_refl _
  | succ n ih =>
    have hrest := ih (p.proceed now order)
    have hfirst := left_proceed p now order
    change
      (behind (next now order) (p.proceed now order) (List.replicate n .proceed)).stage.left ≤ _
    omega

/-- A poll that no event comes into is the poll of the engine. -/
theorem behind_uninterrupted (e : Engine) (now : Instant) (order : ScanOrder) :
    behind (next now order) { engine := e } (List.replicate 5 .proceed) =
      { engine := (e.pollNotifications now order).engine
        stage := .ended (e.pollNotifications now order).found
        calls := (e.pollNotifications now order).calls
        logs := (e.pollNotifications now order).logs } := by
  have hcompletion := completion_uninterrupted { engine := e } now order 5
  have hleft := left_uninterrupted { engine := e } now order 5
  generalize behind (next now order) { engine := e } (List.replicate 5 .proceed) = q at *
  have hwhole : completion { engine := e } now order = e.pollNotifications now order := by
    unfold completion remaining
    rfl
  rw [hwhole] at hcompletion
  obtain ⟨engine, stage, calls, logs⟩ := q
  obtain ⟨found, rfl⟩ := PollStage.ended_of_left hleft
  rw [← hcompletion]
  simp [completion, remaining]

/-! ## Between the two looks for the mail -/

theorem polled_proceed (p : PollInProgress) (now : Instant) (order : ScanOrder) :
    Engine.Polled p.engine (p.proceed now order).engine := by
  obtain ⟨e, stage, calls, logs⟩ := p
  have hsame : Engine.Polled e e := .refl e
  cases stage with
  | looking =>
    unfold proceed
    dsimp only
    split
    · exact (Engine.pollEmpty_within hsame).engine
    · exact .of_store_eq rfl
  | askingDesktop => exact (Engine.gate_within (Q := Engine.Notifies) hsame _ now).engine
  | showing => exact (Engine.popUp_within hsame now order).engine
  | askingMail shown =>
    unfold proceed
    dsimp only
    split
    · exact (Engine.gate_within (Q := Engine.Notifies) hsame _ now).engine
    · exact hsame
  | mailing shown => exact (Engine.handOutEmail_within hsame).engine
  | ended found => exact hsame

theorem settings_behind (p : PollInProgress) (now : Instant) (order : ScanOrder)
    (moves : List Move) :
    (behind (next now order) p moves).engine.settings = p.engine.settings := by
  induction moves using List.reverseRecOn with
  | nil => rfl
  | append_singleton moves m ih =>
    rw [behind_concat]
    cases m with
    | event event => exact ih
    | proceed => exact (polled_proceed _ now order).settings.trans ih

theorem goOn_mailing {α : Type} {s : Engine.Step α} {next : α → PollStage}
    {shown : List AlarmRecord} (h : (p.goOn s next).stage = .mailing shown) :
    ∃ a, s.found = .ok a ∧ next a = .mailing shown := by
  unfold goOn at h
  cases hfound : s.found with
  | error fault => simp [hfound] at h
  | ok a => exact ⟨a, rfl, by simpa [hfound] using h⟩

/-- The only way to the mail is through its gate. -/
theorem proceed_mailing {shown : List AlarmRecord}
    (h : (p.proceed now order).stage = .mailing shown) :
    p.stage = .askingMail shown ∧ (p.proceed now order).engine = p.engine ∧
      p.engine.store.isEmpty = false ∧
      p.engine.lasted p.engine.settings.email now = true := by
  obtain ⟨e, stage, calls, logs⟩ := p
  cases stage with
  | looking =>
    unfold proceed at h
    dsimp only at h
    split at h
    · obtain ⟨tick, -, hnext⟩ := goOn_mailing h
      cases hnext
    · cases h
  | askingDesktop =>
    obtain ⟨elapsed, -, hnext⟩ := goOn_mailing h
    cases elapsed <;> cases hnext
  | showing =>
    obtain ⟨batch, -, hnext⟩ := goOn_mailing h
    cases hnext
  | askingMail shown' =>
    unfold proceed at h ⊢
    dsimp only at h ⊢
    split at h
    · rename_i hrole
      obtain ⟨elapsed, hfound, hnext⟩ := goOn_mailing h
      cases elapsed with
      | false => cases hnext
      | true =>
        cases hnext
        have hengine : (e.gate e.settings.email now).engine = e :=
          (Engine.gate_within (P := (· = e)) (Q := fun _ => True) rfl _ now).engine
        rw [if_pos hrole]
        exact ⟨rfl, hengine, Engine.gate_open hfound⟩
    · cases h
  | mailing shown' =>
    obtain ⟨mails, -, hnext⟩ := goOn_mailing h
    cases hnext
  | ended found => cases h

/-- What the gate of the mail has found, and the events that have come in since. -/
structure AskedIn (asked : PollInProgress) (events : List AlarmRecord) (now : Instant)
    (p : PollInProgress) (shown : List AlarmRecord) : Prop where
  stage : asked.stage = .askingMail shown
  active : asked.engine.store.isEmpty = false
  lasted : asked.engine.lasted asked.engine.settings.email now = true
  engine : p.engine =
    { asked.engine with store := behind AlarmStore.taking asked.engine.store events }

/-- Before the mail nothing but events has come in since its gate. -/
theorem exists_asked {e : Engine} {moves : List Move} {shown : List AlarmRecord}
    (h : (behind (next now order) { engine := e } moves).stage = .mailing shown) :
    ∃ before events, moves = before ++ .proceed :: events.map .event ∧
      AskedIn (behind (next now order) { engine := e } before) events now
        (behind (next now order) { engine := e } moves) shown := by
  induction moves using List.reverseRecOn with
  | nil => cases h
  | append_singleton moves m ih =>
    rw [behind_concat] at h ⊢
    cases m with
    | proceed =>
      obtain ⟨hstage, hengine, hactive, hlasted⟩ := proceed_mailing h
      exact ⟨moves, [], rfl, hstage, hactive, hlasted, hengine⟩
    | event event =>
      obtain ⟨before, events, rfl, hasked⟩ := ih h
      refine ⟨before, events ++ [event], by simp, hasked.stage, hasked.active, hasked.lasted, ?_⟩
      change ((behind (next now order) { engine := e } _).engine.apply event).2 = _
      rw [hasked.engine, behind_concat]
      rfl

theorem AskedIn.oldest {asked : PollInProgress} {events : List AlarmRecord}
    {shown : List AlarmRecord} (h : AskedIn asked events now p shown)
    (hactive : p.engine.store.isEmpty = false) :
    p.engine.store.oldest =
      ((asked.engine.store.reopening? events).map AlarmRecord.triggerTime).or
        asked.engine.store.oldest := by
  have hcoherent : asked.engine.store.Coherent := by
    obtain ⟨-, hdue⟩ := Bool.and_eq_true_iff.mp h.lasted
    obtain ⟨t, ht, -⟩ := (Option.any_eq_true ..).mp hdue
    rw [AlarmStore.Coherent, ht, h.active]
    rfl
  have hstore : p.engine.store = behind AlarmStore.taking asked.engine.store events :=
    congrArg Engine.store h.engine
  rw [hstore] at hactive ⊢
  exact hcoherent.oldest_behind events hactive

theorem AskedIn.lasted_iff {asked : PollInProgress} {events : List AlarmRecord}
    {shown : List AlarmRecord} (h : AskedIn asked events now p shown)
    (hactive : p.engine.store.isEmpty = false) :
    p.engine.lasted asked.engine.settings.email now = true ↔
      ∀ event, asked.engine.store.reopening? events = some event →
        event.triggerTime.isDue (timeoutSpan asked.engine.settings.email) now = true := by
  have hlasted := h.lasted
  unfold Engine.lasted at hlasted ⊢
  rw [h.oldest hactive]
  cases asked.engine.store.reopening? events with
  | none => simpa using hlasted
  | some event =>
    obtain ⟨hon, -⟩ := Bool.and_eq_true_iff.mp hlasted
    rw [hon]
    simp

/-- **A mail is sent for the episode that its gate was asked about, or for one that has begun
since.** Let any events come in while an engine is polled, between any two of its looks at the
store, and let the poll be about to send a batch that is not empty. Then it has asked before whether
the episode has lasted for the timeout of the mail, and it had; since then nothing but events has
come in. The episode of the batch began with the last of them that found no alarm in the store, or
else it is the one that was asked about; so it has lasted for the timeout just if there is no such
event or its trigger time lies that far back. -/
theorem mailed_episode {e : Engine} {moves : List Move} {shown : List AlarmRecord}
    (mailing : (behind (next now order) { engine := e } moves).stage = .mailing shown)
    (batch : (behind (next now order) { engine := e } moves).engine.store.emailBatch.1 ≠ []) :
    let mailed := behind (next now order) { engine := e } moves
    ∃ before events, moves = before ++ .proceed :: events.map .event ∧
      let asked := behind (next now order) { engine := e } before
      asked.stage = .askingMail shown ∧
      asked.engine.lasted e.settings.email now = true ∧
      mailed.engine.store.oldest =
        ((asked.engine.store.reopening? events).map AlarmRecord.triggerTime).or
          asked.engine.store.oldest ∧
      (mailed.engine.lasted e.settings.email now = true ↔
        ∀ event, asked.engine.store.reopening? events = some event →
          event.triggerTime.isDue (timeoutSpan e.settings.email) now = true) := by
  obtain ⟨before, events, hmoves, hasked⟩ := exists_asked mailing
  have hactive := AlarmStore.isEmpty_of_emailBatch batch
  have hsettings := settings_behind { engine := e } now order before
  have hlasted := hasked.lasted
  have hiff := hasked.lasted_iff hactive
  rw [hsettings] at hlasted hiff
  exact ⟨before, events, hmoves, hasked.stage, hlasted, hasked.oldest hactive, hiff⟩

/-- A server with mails behind ten seconds, and an alarm of the beginning. -/
def posting : Engine :=
  (Engine.ingest
    { settings := { role := .server, email := 10 }, attached := { mail := true } }
    ⟨"PV1", "MAJOR", "HIHI", .ofSecond 0, false, false⟩).2

/-- A poll of it when the ten seconds are over. -/
def polling (moves : List Move) : PollInProgress :=
  behind (next (.ofSecond 10) .ascending) { engine := posting } moves

def latecomer : AlarmRecord := ⟨"PV2", "MAJOR", "HIHI", .ofSecond 10, false, false⟩

def clearing : AlarmRecord := ⟨"PV1", "OK", "NO_ALARM", .ofSecond 10, false, false⟩

/-- Behind the gate of the mail another alarm takes the place of the first one. -/
def relieved : List Move :=
  [.proceed, .proceed, .proceed, .event latecomer, .event clearing]

theorem mailed_episode_relieved :
    (polling relieved).stage = .mailing [] ∧
    (polling relieved).engine.store.emailBatch.1 = [latecomer.markEmail] ∧
    ∃ before events, relieved = before ++ .proceed :: List.map .event events ∧
      (polling before).engine.lasted 10 (.ofSecond 10) = true ∧
      (polling relieved).engine.store.oldest =
        (((polling before).engine.store.reopening? events).map AlarmRecord.triggerTime).or
          (polling before).engine.store.oldest := by
  have mailing : (polling relieved).stage = .mailing [] := rfl
  have batch : (polling relieved).engine.store.emailBatch.1 = [latecomer.markEmail] := by decide
  obtain ⟨before, events, hmoves, -, hlasted, holdest, -⟩ :=
    mailed_episode mailing (batch ▸ List.cons_ne_nil _ _)
  exact ⟨mailing, batch, before, events, hmoves, hlasted, holdest⟩

/-- Behind the gate of the mail the episode ends, and another one begins. -/
def reopened : List Move :=
  [.proceed, .proceed, .proceed, .event clearing, .event latecomer]

/-- The gate and the batch may be of different episodes: a mail goes out at once for an episode that
has only just begun, although ten seconds are to pass before that. -/
theorem new_episode_mailed_at_once :
    Engine.build posting.settings posting.attached =
      .ok { settings := posting.settings, attached := posting.attached } ∧
    (polling reopened).stage = .mailing [] ∧
    (polling reopened).engine.store.emailBatch.1 = [latecomer.markEmail] ∧
    (polling reopened).engine.store.oldest = some (.ofSecond 10) ∧
    (polling reopened).engine.lasted posting.settings.email (.ofSecond 10) = false ∧
    ((polling reopened).proceed (.ofSecond 10) .ascending).stage =
      .ended (.ok { email := [latecomer.markEmail] }) ∧
    ((polling reopened).proceed (.ofSecond 10) .ascending).calls = [.send [latecomer.markEmail]] :=
  ⟨by decide, rfl, by decide, by decide, by decide, by rfl, by decide⟩

end PollInProgress

end AlarmEscalation
