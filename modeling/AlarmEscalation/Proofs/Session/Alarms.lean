import AlarmEscalation.Proofs.Engine.Publication
import AlarmEscalation.Proofs.Session.Calls
import AlarmEscalation.Proofs.Store.Episode

/-! # The alarms that a session shows

The calls of a session come one after the other here, and the actors of its engine wake up between
them. `Session.expected` says what there is to be seen without an engine: nothing while the session
is off, and otherwise the alarms of a store that has taken in the events since the last call that
switched the session on. -/
namespace AlarmEscalation.Session

inductive Event where
  /-- The call comes with what the factory builds, if it builds anything. -/
  | enable (built : Except AlarmError Engine)
  | disable (now : Instant)
  | toggle (built : Except AlarmError Engine) (now : Instant)
  | ingest (event : AlarmRecord)
  /-- An actor of the session's engine wakes up. -/
  | wake (n : Nat) (now : Instant) (order : ScanOrder := .ascending)

def next (s : Session) : Event → Session
  | .enable built => (s.enable built).session
  | .disable now => (s.disable now).session
  | .toggle built now => (s.toggle built now).session
  | .ingest event => s.ingest event
  | .wake n now order => { engine := s.engine.map fun e => (e.wake n now order).engine }

/-- What the front end is told by a call. -/
def notices (s : Session) : Event → List Notice
  | .enable built => (s.enable built).notices
  | .disable now => (s.disable now).notices
  | .toggle built now => (s.toggle built now).notices
  | .ingest _ | .wake _ _ _ => []

/-! ## What there is to be seen -/

/-- The factory has built an engine, which can be started. -/
def starts : Except AlarmError Engine → Bool
  | .ok e => !e.running
  | .error _ => false

namespace Event

/-- Whether the session is on behind an event. -/
def switched (on : Bool) : Event → Bool
  | .enable built => on || starts built
  | .disable _ => false
  | .toggle built _ => !on && starts built
  | .ingest _ | .wake _ _ _ => on

/-- The calls that change nothing: for an event without a session to take it in, for a switch to
where the session is already, and for one to on that fails. -/
def idle (on : Bool) : Event → Bool
  | .enable built => on || !starts built
  | .disable _ | .ingest _ | .wake _ _ _ => !on
  | .toggle built _ => !on && !starts built

def event? : Event → Option AlarmRecord
  | .ingest event => some event
  | .enable _ | .disable _ | .toggle _ _ | .wake _ _ _ => none

def isWake : Event → Bool
  | .wake _ _ _ => true
  | .enable _ | .disable _ | .toggle _ _ | .ingest _ => false

/-- The engine that the factory has built for a call. -/
def built? : Event → Option Engine
  | .enable (.ok e) | .toggle (.ok e) _ => some e
  | .enable (.error _) | .toggle (.error _) _ | .disable _ | .ingest _ | .wake _ _ _ => none

/-- The factory builds engines that nothing has been done with, but perhaps to start them. -/
def Unused (event : Event) : Prop := ∀ e ∈ event.built?, e.store = .empty ∧ e.published = 0

end Event

/-- The session was off, and is on now. -/
def enables (m : Occurrence Bool Event) : Bool := !m.before && m.event.switched m.before

/-- The events since the session was last switched on. -/
def heard (past : List (Occurrence Bool Event)) : List AlarmRecord :=
  (past.rtakeWhile fun m => !enables m).filterMap fun m => m.event.event?

/-- The alarms that a session should show. -/
def expected (events : List Event) : Option AlarmStore :=
  if behind Event.switched false events then
    some (AlarmStore.empty.after
      ((heard (occurrences Event.switched false events)).map .ingest))
  else none

/-- What becomes of these alarms with one event. -/
def advance : Option AlarmStore → Event → Option AlarmStore
  | none, event => if event.switched false then some .empty else none
  | some store, .ingest event => some (store.ingest event).2
  | some store, event => if event.switched true then some store else none

theorem heard_concat (past : List (Occurrence Bool Event)) (m : Occurrence Bool Event) :
    heard (past ++ [m]) = if enables m then [] else heard past ++ m.event.event?.toList := by
  unfold heard
  rw [List.rtakeWhile_concat]
  cases enables m with
  | true => rfl
  | false => cases h : m.event.event? <;> simp [h]

theorem expected_concat (events : List Event) (event : Event) :
    expected (events ++ [event]) = advance (expected events) event := by
  have hstep : ∀ on, behind Event.switched false events = on →
      expected (events ++ [event]) =
        if event.switched on then
          some (AlarmStore.empty.after
            ((if !on && event.switched on then []
              else heard (occurrences Event.switched false events) ++
                event.event?.toList).map .ingest))
        else none := by
    intro on hon
    rw [expected, behind_concat, occurrences_concat, heard_concat, hon]
    rfl
  cases hon : behind Event.switched false events with
  | false =>
    rw [hstep false hon, expected, hon]
    cases hswitched : event.switched false <;> simp [advance, hswitched]
  | true =>
    rw [hstep true hon, expected, hon]
    cases event with
    | ingest event =>
      simp [advance, Event.switched, Event.event?, AlarmStore.after_concat, AlarmStore.apply]
    | enable | disable | toggle | wake => simp [advance, Event.switched, Event.event?]

/-! ## One event -/

/-- What an event does to a session, and what the front end is told of it. -/
inductive Went (s : Session) : Event → Session → List Notice → Prop
  | idle {event : Event} : event.idle s.isEnabled = true → Went s event s []
  | on {event : Event} {e : Engine} (running : Bool) (actors : List Actor) (held : List Nat) :
      s.isEnabled = false → event.built? = some e → event.switched false = true →
      Went s event { engine := some { e with running, actors, held } } [.toggled true]
  | off {event : Event} (told : List Notice) : s.isEnabled = true →
      event.switched true = false → Went s event {} told
  | ingested {e : Engine} (event : AlarmRecord) : s.engine = some e →
      Went s (.ingest event) { engine := some (e.ingest event).2 } []
  | woken {e : Engine} (n : Nat) (now : Instant) (order : ScanOrder) : s.engine = some e →
      Went s (.wake n now order) { engine := some (e.wake n now order).engine } []

theorem enable_of_on {s : Session} (hon : s.isEnabled = true) (built : Except AlarmError Engine) :
    s.enable built = { result := .ok (), session := s } := by
  unfold enable
  rw [if_pos hon]

/-- Switching on fails, or it starts the engine that the factory has built. -/
inductive SwitchedOn (s : Session) : Except AlarmError Engine → Effect Unit → Prop
  | failed {built : Except AlarmError Engine} (fault : AlarmError) : starts built = false →
      SwitchedOn s built { result := .error fault, session := s }
  | started {e : Engine} (running : Bool) (actors : List Actor) (held : List Nat)
      (logs : List LogLine) : starts (.ok e) = true →
      SwitchedOn s (.ok e)
        { result := .ok ()
          session := { engine := some { e with running, actors, held } }
          notices := [.toggled true]
          logs }

theorem switchedOn {s : Session} (hoff : s.isEnabled = false) (built : Except AlarmError Engine) :
    SwitchedOn s built (s.enable built) := by
  unfold enable
  rw [if_neg (by simp [hoff])]
  split
  · exact .failed _ rfl
  · rename_i e
    split
    · rename_i refusal hstart
      refine .failed _ ?_
      cases hrunning : e.running with
      | true => simp [starts, hrunning]
      | false => simp [Engine.start, hrunning] at hstart
    · rename_i e' logs hstart
      have hstarts : starts (.ok e) = true := by
        cases hrunning : e.running with
        | true => simp [Engine.start, hrunning] at hstart
        | false => simp [starts, hrunning]
      obtain ⟨running, actors, held, rfl⟩ := Engine.start_engine hstart
      exact .started running actors held _ hstarts

theorem eq_empty_of_off {s : Session} (hoff : s.isEnabled = false) : s = {} := by
  obtain ⟨engine⟩ := s
  cases engine with
  | none => rfl
  | some e => cases hoff

theorem session_disable (s : Session) (now : Instant) : (s.disable now).session = {} := by
  unfold disable takeEngine
  cases s.engine with
  | none => rfl
  | some e => exact (({} : Session).afterShutdown_eq _).1

theorem Went.of_same {s : Session} {event : Event} (hidle : event.idle s.isEnabled = true)
    (hnext : s.next event = s) (hnotices : s.notices event = []) :
    Went s event (s.next event) (s.notices event) := by
  rw [hnext, hnotices]
  exact .idle hidle

theorem went_of_enable {s : Session} (hoff : s.isEnabled = false) (event : Event)
    (built : Except AlarmError Engine) (hbuilt : event.built? = built.toOption)
    (hswitched : event.switched false = starts built) (hidle : event.idle false = !starts built)
    (hnext : s.next event = (s.enable built).session)
    (hnotices : s.notices event = (s.enable built).notices) :
    Went s event (s.next event) (s.notices event) := by
  have hon := switchedOn hoff built
  rw [hnext, hnotices]
  generalize s.enable built = effect at hon
  cases hon with
  | failed fault hfails => exact .idle (by rw [hoff, hidle, hfails]; rfl)
  | started running actors held logs hstarts =>
    exact .on running actors held hoff hbuilt (hswitched.trans hstarts)

theorem enable_went (s : Session) (built : Except AlarmError Engine) :
    Went s (.enable built) (s.next (.enable built)) (s.notices (.enable built)) := by
  cases hon : s.isEnabled with
  | true =>
    have henable := enable_of_on hon built
    exact .of_same (by simp [Event.idle, hon]) (by rw [next, henable]) (by rw [notices, henable])
  | false =>
    exact went_of_enable hon (.enable built) built (by cases built <;> rfl)
      (by simp [Event.switched]) (by simp [Event.idle]) rfl rfl

theorem disable_went (s : Session) (now : Instant) :
    Went s (.disable now) (s.next (.disable now)) (s.notices (.disable now)) := by
  cases hon : s.isEnabled with
  | true =>
    rw [next, session_disable]
    exact .off _ hon rfl
  | false =>
    obtain rfl := eq_empty_of_off hon
    exact .of_same rfl rfl rfl

theorem toggle_went (s : Session) (built : Except AlarmError Engine) (now : Instant) :
    Went s (.toggle built now) (s.next (.toggle built now)) (s.notices (.toggle built now)) := by
  cases hon : s.isEnabled with
  | true =>
    have hnext : s.next (.toggle built now) = {} := by
      rw [next, toggle, if_pos hon]
      exact s.session_disable now
    rw [hnext]
    exact .off _ hon rfl
  | false =>
    have htoggle : (if s.isEnabled then s.disable now else s.enable built) = s.enable built :=
      if_neg (by simp [hon])
    exact went_of_enable hon (.toggle built now) built (by cases built <;> rfl)
      (by simp [Event.switched]) (by simp [Event.idle]) (by rw [next, toggle, htoggle])
      (by rw [notices, toggle, htoggle])

theorem went (s : Session) (event : Event) : Went s event (s.next event) (s.notices event) := by
  cases event with
  | enable built => exact s.enable_went built
  | disable now => exact s.disable_went now
  | toggle built now => exact s.toggle_went built now
  | ingest event =>
    cases hengine : s.engine with
    | none =>
      obtain rfl : s = {} := eq_empty_of_off (by simp [isEnabled, hengine])
      exact .of_same rfl rfl rfl
    | some e =>
      rw [next, ingest, hengine]
      exact .ingested event hengine
  | wake n now order =>
    cases hengine : s.engine with
    | none =>
      obtain rfl : s = {} := eq_empty_of_off (by simp [isEnabled, hengine])
      exact .of_same rfl rfl rfl
    | some e =>
      rw [next, hengine]
      exact .woken n now order hengine

/-- What changes nothing leaves the session as it is, and the front end hears nothing of it. -/
theorem same_of_idle {s : Session} {event : Event} (hidle : event.idle s.isEnabled = true) :
    s.next event = s ∧ s.notices event = [] := by
  have hwent := s.went event
  generalize s.next event = t at hwent
  generalize s.notices event = told at hwent
  cases hwent with
  | idle => exact ⟨rfl, rfl⟩
  | on running actors held hoff _ hswitched =>
    rw [hoff] at hidle
    cases event <;> simp_all [Event.idle, Event.switched]
  | off told hon hswitched =>
    rw [hon] at hidle
    cases event <;> simp_all [Event.idle, Event.switched]
  | ingested event hengine => simp [Event.idle, isEnabled, hengine] at hidle
  | woken n now order hengine => simp [Event.idle, isEnabled, hengine] at hidle

theorem advance_of_idle {ref : Option AlarmStore} {event : Event}
    (hidle : event.idle ref.isSome = true) : advance ref event = ref := by
  cases ref <;> cases event <;> simp_all [advance, Event.idle, Event.switched]

/-! ## A whole run -/

/-- The alarms of a session's engine, as `view` shows them. -/
def seen (view : AlarmStore → AlarmStore) (s : Session) : Option AlarmStore :=
  s.engine.map fun e => view e.store

/-- What is shown of a store behind an event depends on what was shown of it before. -/
def Follows (view : AlarmStore → AlarmStore) : Prop :=
  ∀ s t event, view t = view s → view (t.ingest event).2 = view (s.ingest event).2

theorem seen_next {view : AlarmStore → AlarmStore} (follows : Follows view) {s : Session}
    {ref : Option AlarmStore} {event : Event} (unused : event.Unused)
    (awake : ∀ (e : Engine) n now order, event = .wake n now order →
      view (e.wake n now order).engine.store = view e.store)
    (h : s.seen view = ref.map view) : (s.next event).seen view = (advance ref event).map view := by
  have hsome : s.isEnabled = ref.isSome := by
    have hisSome := congrArg Option.isSome h
    simpa [seen, isEnabled] using hisSome
  have hactive : ∀ e, s.engine = some e →
      ∃ store, ref = some store ∧ view e.store = view store := by
    intro e hengine
    rw [seen, hengine, Option.map_some] at h
    obtain ⟨store, hstore, heq⟩ := Option.map_eq_some_iff.mp h.symm
    exact ⟨store, hstore, heq.symm⟩
  have hwent := s.went event
  generalize s.next event = t at hwent
  generalize s.notices event = told at hwent
  cases hwent with
  | idle hidle =>
    rw [hsome] at hidle
    rw [advance_of_idle hidle, h]
  | @on event e running actors held hoff hbuilt hswitched =>
    have hnone : ref = none := by simpa [hoff] using hsome
    subst hnone
    simp [seen, advance, hswitched, (unused e hbuilt).1]
  | off told hon hswitched =>
    obtain ⟨store, rfl⟩ := Option.isSome_iff_exists.mp (hsome.symm.trans hon)
    cases event <;> simp_all [seen, advance, Event.switched]
  | @ingested e event hengine =>
    obtain ⟨store, rfl, heq⟩ := hactive e hengine
    simp [seen, advance, e.store_ingest event, follows _ _ event heq]
  | @woken e n now order hengine =>
    obtain ⟨store, rfl, heq⟩ := hactive e hengine
    simp [seen, advance, Event.switched, awake e n now order rfl, heq]

theorem seen_behind {view : AlarmStore → AlarmStore} (follows : Follows view) {events : List Event}
    (unused : ∀ event ∈ events, event.Unused)
    (awake : ∀ (e : Engine) n now order, .wake n now order ∈ events →
      view (e.wake n now order).engine.store = view e.store) :
    (behind next {} events).seen view = (expected events).map view := by
  induction events using List.reverseRecOn with
  | nil => rfl
  | append_singleton events event ih =>
    rw [behind_concat, expected_concat]
    have hbefore := ih (fun event' h => unused event' (by simp [h]))
      (fun e n now order h => awake e n now order (by simp [h]))
    refine seen_next follows (unused event (by simp)) ?_ hbefore
    intro e n now order hevent
    exact awake e n now order (by simp [hevent])

theorem published_next {s : Session} {event : Event} (unused : event.Unused)
    (h : ∀ e, s.engine = some e → e.published = e.count) :
    ∀ e, (s.next event).engine = some e → e.published = e.count := by
  intro e he
  have hwent := s.went event
  generalize s.next event = t at hwent he
  generalize s.notices event = told at hwent
  cases hwent with
  | idle => exact h e he
  | @on event e0 running actors held _ hbuilt =>
    obtain ⟨hstore, hpublished⟩ := unused e0 hbuilt
    cases he
    rw [Engine.count, hstore, hpublished]
    rfl
  | off => cases he
  | @ingested e0 event hengine =>
    cases he
    exact (Intake.told_ingest e0 event).count
  | @woken e0 n now order hengine =>
    cases he
    have hsame := e0.wake_sameAlarms n now order
    rw [hsame.published, h e0 hengine]
    exact (AlarmStore.count_of_unmarked hsame.alarms).symm

theorem published_behind {events : List Event} (unused : ∀ event ∈ events, event.Unused) :
    ∀ e, (behind next {} events).engine = some e → e.published = e.count := by
  induction events using List.reverseRecOn with
  | nil =>
    intro e he
    cases he
  | append_singleton events event ih =>
    rw [behind_concat]
    exact published_next (unused event (by simp)) (ih fun event' h => unused event' (by simp [h]))

/-! ## What a session tells of itself -/

/-- The status when so many alarms are to be seen. -/
def statusOf : Option Nat → IndicatorStatus
  | none => .disabled
  | some 0 => .activeOk
  | some (_ + 1) => .activeAlarm

def levelOf : IndicatorStatus → MessageLevel
  | .disabled => .warning
  | .activeOk => .info
  | .activeAlarm => .critical

/-- What the message has to say of so many alarms. -/
def subject : Option Nat → String
  | none => "currently disabled"
  | some 0 => "No alarms are known"
  | some (n + 1) => "There are " ++ toString (n + 1) ++ " alarm(s) active"

/-- What a session tells of itself when so many alarms are to be seen. -/
structure Tells (s : Session) (alarms : Option Nat) : Prop where
  enabled : s.isEnabled = alarms.isSome
  status : s.status = statusOf alarms
  level : s.statusMessage.level = levelOf s.status
  text : ∃ before behind, s.statusMessage.text = before ++ subject alarms ++ behind

theorem tells_count (s : Session) : s.Tells (s.engine.map Engine.count) := by
  obtain ⟨engine⟩ := s
  cases engine with
  | none =>
    exact ⟨rfl, rfl, rfl, "The alarm notifications desktop widget is ",
      ", so information about alarms is not received from the alarm server!", by decide +kernel⟩
  | some e =>
    have hmap : (some e).map Engine.count = some e.count := rfl
    rw [hmap]
    cases hcount : e.count with
    | zero =>
      refine ⟨rfl, ?_, ?_, "", " to the alarm notifications desktop widget.\n\nPlease note that " ++
        "alarms triggered before the start or re-activation of this widget have not been " ++
        "received, so if you want to be sure that nothing is wrong, look at the alarm display.", ?_⟩
      · simp [status, statusOf, hcount]
      · simp [status, statusMessage, levelOf, hcount]
      · rw [statusMessage, hmap, hcount]
        decide +kernel
    | succ n =>
      have hbegin : "ATTENTION!\n\nThere are " = "ATTENTION!\n\n" ++ "There are " := by decide
      have hend : " alarm(s) active in the Detector Control System! For detailed information look at the alarm display!" =
          " alarm(s) active" ++ (" in the Detector Control System! For detailed information " ++
            "look at the alarm display!") := by decide
      refine ⟨rfl, ?_, ?_, "ATTENTION!\n\n", " in the Detector Control System! For detailed " ++
        "information look at the alarm display!", ?_⟩
      · simp [status, statusOf, hcount]
      · simp [status, statusMessage, levelOf, hcount]
      · rw [statusMessage, hmap, hcount, subject, hbegin, hend]
        simp only [String.append_assoc]
        rfl

/-- A session tells what there is to be seen. -/
structure Shows (s : Session) (ref : Option AlarmStore) : Prop where
  alarms : s.seen .unmarked = ref.map .unmarked
  tells : s.Tells (ref.map AlarmStore.count)
  published : ∀ e, s.engine = some e → e.published = e.count

theorem shows_of_seen {s : Session} {ref : Option AlarmStore}
    (alarms : s.seen .unmarked = ref.map .unmarked)
    (published : ∀ e, s.engine = some e → e.published = e.count) : Shows s ref := by
  refine ⟨alarms, ?_, published⟩
  have hcount : s.engine.map Engine.count = ref.map AlarmStore.count := by
    have hseen := congrArg (Option.map AlarmStore.count) alarms
    rw [seen, Option.map_map, Option.map_map] at hseen
    have hunmarked : ∀ store : AlarmStore, store.unmarked.count = store.count :=
      AlarmStore.count_seenBy .relay
    simp only [Function.comp_def, hunmarked] at hseen
    exact hseen
  rw [← hcount]
  exact s.tells_count

/-- What comes of calls that change nothing, and which calls to switch on do. -/
structure Steady (s : Session) (on : Bool) : Prop where
  same : ∀ event : Event, event.idle on = true → s.next event = s ∧ s.notices event = []
  enabled : ∀ built, (s.enable built).result.isOk = (on || starts built)
  toggled : ∀ built now, on = false → (s.toggle built now).result.isOk = starts built

theorem isOk_enable (s : Session) (built : Except AlarmError Engine) :
    (s.enable built).result.isOk = (s.isEnabled || starts built) := by
  cases hon : s.isEnabled with
  | true =>
    rw [enable_of_on hon]
    rfl
  | false =>
    have hswitched := switchedOn hon built
    generalize s.enable built = effect at hswitched
    cases hswitched with
    | failed fault hfails => rw [hfails]; rfl
    | started running actors held logs hstarts => rw [hstarts]; rfl

theorem steady (s : Session) : Steady s s.isEnabled where
  same _ hidle := same_of_idle hidle
  enabled := s.isOk_enable
  toggled built now hoff := by
    have hresult : (s.toggle built now).result = (s.enable built).result.map fun _ => true := by
      rw [toggle, if_neg (by simp [hoff]), hoff]
      rfl
    have hok := s.isOk_enable built
    rw [hoff, Bool.false_or] at hok
    rw [hresult, ← hok]
    cases (s.enable built).result <;> rfl

/-- **A session shows exactly the alarms since it was last switched on.** Whatever is called and
whatever the factory builds, a session that is on has the alarms that an empty store makes of the
events since the last call that really switched it on, and tells them: its status, the level of its
message and the number in it are those of these alarms. The polls of its engine only mark them.
Events while it is off, switches to where it is already and switches to on that fail change nothing,
and the front end hears nothing of them. -/
theorem alarms_since_enabled (events : List Event) (unused : ∀ event ∈ events, event.Unused) :
    Shows (behind next {} events) (expected events) ∧
    ((∀ event ∈ events, event.isWake = false) →
      (behind next {} events).engine.map Engine.store = expected events) ∧
    Steady (behind next {} events) (expected events).isSome := by
  have hshows : Shows (behind next {} events) (expected events) := by
    refine shows_of_seen ?_ ?_
    · refine seen_behind (fun s t event h => AlarmStore.unmarked_ingest h event) unused ?_
      intro e n now order _
      exact (e.wake_sameAlarms n now order).alarms
    · exact published_behind unused
  refine ⟨hshows, ?_, ?_⟩
  · intro asleep
    have hseen : (behind next {} events).seen id = (expected events).map id := by
      refine seen_behind (fun s t event h => by rw [id, id] at h; rw [h]) unused ?_
      intro e n now order hmem
      cases asleep _ hmem
    rw [Option.map_id] at hseen
    exact hseen
  · have hsteady := (behind next {} events).steady
    have henabled := hshows.tells.enabled
    rw [Option.isSome_map] at henabled
    rwa [henabled] at hsteady

/-- A session that is switched off and, in vain at first, on again. -/
def switchedAgain : List Event :=
  let raised (id : String) : Event := .ingest ⟨id, "MAJOR", "HIHI", .ofSecond 0, false, false⟩
  [.enable (.ok Engine.desk), raised "PV1", .wake 0 (.ofSecond 3), .disable (.ofSecond 4),
    raised "PV2", .toggle (.error ⟨.config, "No settings"⟩) (.ofSecond 5),
    .toggle (.ok Engine.desk) (.ofSecond 6), .enable (.ok Engine.desk), raised "PV3", raised "PV4"]

theorem alarms_since_enabled_switchedAgain :
    (expected switchedAgain).map AlarmStore.count = some 2 ∧
    (behind next {} switchedAgain).status = .activeAlarm ∧
    ((expected switchedAgain).map fun store => store.snapshot.map AlarmRecord.id) =
      some ["PV3", "PV4"] := by
  have unused : ∀ event ∈ switchedAgain, event.Unused := by
    unfold Event.Unused
    decide
  have hcount : (expected switchedAgain).map AlarmStore.count = some 2 := by decide
  have hstatus := (alarms_since_enabled switchedAgain unused).1.tells.status
  rw [hcount] at hstatus
  exact ⟨hcount, hstatus, by decide⟩

end AlarmEscalation.Session
