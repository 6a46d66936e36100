import AlarmEscalation.Proofs.Alert.Player
import AlarmEscalation.Proofs.Engine.Actors
import AlarmEscalation.Proofs.Engine.Alert
import AlarmEscalation.Proofs.Occurrence
import AlarmEscalation.Proofs.OpenCalls

/-! # Calls to the alert that overtake each other

An engine does not carry out its calls to the alert: it spawns a task for each and goes on, and
nothing tells in which order the tasks come to it. What the engine remembers of the alert is what it
spawned last; what the alert does is what was carried out last. Once nothing is in flight the two
agree, unless a call was overtaken by the one behind it. -/
namespace AlarmEscalation

namespace Engine

/-! ## One turn -/

/-- A step asks the alert for what the engine remembers of it from now on, and only if that is
something else than before. -/
def Step.Signals {α : Type} (e : Engine) (s : Step α) : Prop :=
  s.calls.filterMap Call.rung? =
    if s.engine.alertActive = e.alertActive then [] else [s.engine.alertActive]

/-- An alert that was started is there, and alarms were seen when it was. -/
def Heedful (e : Engine) : Prop :=
  e.alertActive = true → e.alarmSeen = true ∧ e.attached.alert = true

variable {e : Engine} {now : Instant} {order : ScanOrder}

theorem DesktopPoll.signals {s : Step (List AlarmRecord)} (h : e.DesktopPoll now order s) :
    s.Signals e := by
  cases h with
  | early | outOfRange | scanBroken => simp [Step.Signals, Step.done, Step.broken]
  | @handedOut batch =>
    rw [Step.Signals, List.filterMap_append, (rings_of_announce batch).1, rings_of_alertCalls]
    cases e.attached.alert <;> cases e.alertActive <;> rfl

theorem NotificationPoll.signals_of_alarms {s : Step NotificationTick}
    (h : e.NotificationPoll now order s) (hne : e.store.isEmpty = false) : s.Signals e := by
  cases h with
  | quiet hempty | allClear hempty =>
    rw [hne] at hempty
    cases hempty
  | desktopBroken _ hdesktop => exact hdesktop.signals
  | @active desktop email _ _ hdesktop _ hemail =>
    have hsignals := hdesktop.signals
    have hkept : email.engine.alertActive = desktop.engine.alertActive := by
      obtain ⟨hmails, hnostart⟩ := hemail.rings
      simp [hmails.alertActive, hnostart]
    rw [Step.Signals, List.filterMap_append, hemail.rings_eq_nil, List.append_nil, hkept]
    exact hsignals

theorem pollNotifications_signals (h : e.Heedful) (now : Instant) (order : ScanOrder) :
    (e.pollNotifications now order).Signals e ∧ (e.pollNotifications now order).engine.Heedful := by
  have hpoll := e.notificationPoll now order
  have hattached := (e.pollNotifications_within now order).engine.attached
  cases hempty : e.store.isEmpty with
  | true =>
    have hfound := hpoll.foundEmpty hempty
    have hquiet : (e.pollNotifications now order).engine.alertActive = false := by
      rw [hfound.alertActive]
      cases hactive : e.alertActive with
      | false => rfl
      | true =>
        rw [(h hactive).1]
        rfl
    constructor
    · rw [Step.Signals, (rings_of_empty hempty now order).1, hquiet]
      cases hactive : e.alertActive with
      | false => simp
      | true => simp [h hactive]
    · intro hactive
      rw [hquiet] at hactive
      cases hactive
  | false =>
    have hfound := hpoll.foundAlarms hempty
    refine ⟨hpoll.signals_of_alarms hempty, fun hactive => ⟨hfound.alarmSeen, ?_⟩⟩
    rw [hattached]
    rw [hfound.alertActive, Bool.or_eq_true] at hactive
    rcases hactive with hbefore | hstarts
    · exact (h hbefore).2
    · exact (hfound.started (of_decide_eq_true hstarts)).1

theorem act_signals (h : e.Heedful) (a : Action) :
    (e.act a).Signals e ∧ (e.act a).engine.Heedful := by
  cases hpoll : a.isPoll with
  | true =>
    obtain ⟨now, fate, order, rfl⟩ := Action.eq_of_isPoll hpoll
    exact pollNotifications_signals h now order
  | false =>
    obtain ⟨hseen, hactive⟩ := e.flags_of_not_poll hpoll
    constructor
    · rw [Step.Signals, if_pos hactive]
      refine List.filterMap_eq_nil_iff.mpr fun call hcall => ?_
      have hrelay : call.channel = .relay := relay_of_not_poll hpoll hcall
      cases call with
      | startAlert | stopAlert => cases hrelay
      | _ => rfl
    · intro hafter
      rw [hseen, (e.moved a).built.2]
      exact h (hactive ▸ hafter)

theorem take_signals (h : e.Heedful) (t : Turn) :
    (e.take t).Signals e ∧ (e.take t).engine.Heedful := by
  cases t with
  | action a => exact act_signals h a
  | wake n now fate order =>
    change (e.wake n now order).calls.filterMap Call.rung? =
      (if (e.wake n now order).engine.alertActive = e.alertActive then []
        else [(e.wake n now order).engine.alertActive]) ∧ (e.wake n now order).engine.Heedful
    rcases e.wake_cases n now fate order with
      ⟨actors, hengine, hcalls⟩ | ⟨kind, actors, hengine, hcalls⟩
    · rw [hengine, hcalls]
      exact ⟨(if_pos rfl).symm, h⟩
    · rw [hengine, hcalls]
      exact act_signals h (.poll now fate order kind)

end Engine

/-- An engine, its alert, and what the tasks that were spawned will ask of the alert. -/
structure DetachedAlert where
  engine : Engine
  alert : CommandAlert
  inFlight : List Bool := []

namespace DetachedAlert

inductive Event where
  /-- A turn of the engine, which may spawn tasks. -/
  | turn (t : Engine.Turn)
  /-- A task in flight is carried out. -/
  | carryOut (task : Nat)
  /-- A loop has run the player, or cannot. -/
  | play (loop : Nat) (run : Except OsError Unit)

def spawn (s : DetachedAlert) (t : Engine.Turn) : List Bool :=
  (s.engine.take t).calls.filterMap Call.rung?

def carryOut (s : DetachedAlert) (task : Nat) : DetachedAlert :=
  match s.inFlight[task]? with
  | none => s
  | some on =>
    { s with
      alert := if on then s.alert.start.1 else s.alert.stop.1
      inFlight := s.inFlight.eraseIdx task }

def next (s : DetachedAlert) : Event → DetachedAlert
  | .turn t => { s with engine := (s.engine.take t).engine, inFlight := s.inFlight ++ s.spawn t }
  | .carryOut task => s.carryOut task
  | .play loop run => { s with alert := (s.alert.play loop run).1 }

/-! ## What a run tells -/

/-- What is asked of the alert by the tasks that are spawned. -/
def spawnedIn (m : Occurrence DetachedAlert Event) : List Bool :=
  match m.event with
  | .turn t => m.before.spawn t
  | .carryOut _ | .play _ _ => []

/-- What is asked of the alert by the task that is carried out. -/
def carriedIn (m : Occurrence DetachedAlert Event) : Option Bool :=
  match m.event with
  | .carryOut task => m.before.inFlight[task]?
  | .turn _ | .play _ _ => none

def spawned (past : List (Occurrence DetachedAlert Event)) : List Bool := past.flatMap spawnedIn

def carried (past : List (Occurrence DetachedAlert Event)) : List Bool := past.filterMap carriedIn

/-- A loop comes to its end because the player cannot be run. -/
def fails (m : Occurrence DetachedAlert Event) : Bool :=
  match m.event with
  | .play loop run => m.before.alert.dies loop run
  | .turn _ | .carryOut _ => false

/-- Since the alert was started last, the player could not be run. -/
def stalled (past : List (Occurrence DetachedAlert Event)) : Bool :=
  Engine.since (fun m => carriedIn m == some true) fails past

/-- The task that was carried out last asked for something else than the one that was spawned last. -/
def Overtaken (past : List (Occurrence DetachedAlert Event)) : Prop :=
  (carried past).getLast? ≠ (spawned past).getLast?

/-- The alert is silent if the engine remembers it so, and sounds if the engine remembers that and
the player can be run. -/
structure Agrees (past : List (Occurrence DetachedAlert Event)) (s : DetachedAlert) : Prop where
  silent : s.engine.alertActive = false → s.alert.isRunning = false ∧ .playing ∉ s.alert.loops
  sounds : s.engine.alertActive = true → stalled past = false → s.alert.isRunning = true

section Runs
variable {past : List (Occurrence DetachedAlert Event)} {s : DetachedAlert}

theorem spawned_concat (past : List (Occurrence DetachedAlert Event))
    (m : Occurrence DetachedAlert Event) : spawned (past ++ [m]) = spawned past ++ spawnedIn m := by
  simp [spawned]

theorem carried_concat (past : List (Occurrence DetachedAlert Event))
    (m : Occurrence DetachedAlert Event) :
    carried (past ++ [m]) = carried past ++ (carriedIn m).toList := by
  cases h : carriedIn m <;> simp [carried, h]

theorem stalled_concat (past : List (Occurrence DetachedAlert Event))
    (m : Occurrence DetachedAlert Event) :
    stalled (past ++ [m]) = (!(carriedIn m == some true) && (stalled past || fails m)) :=
  Engine.since_concat _ _ past m

/-! ## One event -/

/-- The engine remembers what was spawned last, and the alert does what was carried out last. -/
structure Tracked (past : List (Occurrence DetachedAlert Event)) (s : DetachedAlert) : Prop where
  heedful : s.engine.Heedful
  sole : s.alert.Sole
  remembers : s.engine.alertActive = (spawned past).getLast?.getD false
  inFlight : (spawned past).Perm (carried past ++ s.inFlight)
  running : s.alert.isRunning = ((carried past).getLast?.getD false && !stalled past)

theorem Tracked.turn (h : Tracked past s) (t : Engine.Turn) :
    Tracked (past ++ [⟨s, .turn t⟩]) (s.next (.turn t)) := by
  obtain ⟨hsignals, hheedful⟩ := Engine.take_signals h.heedful t
  have hspawn : s.spawn t = if (s.engine.take t).engine.alertActive = s.engine.alertActive then []
      else [(s.engine.take t).engine.alertActive] := hsignals
  have hspawned : spawned (past ++ [⟨s, .turn t⟩]) = spawned past ++ s.spawn t :=
    spawned_concat past _
  have hcarried : carried (past ++ [⟨s, .turn t⟩]) = carried past :=
    (carried_concat past _).trans (List.append_nil _)
  have hstalled : stalled (past ++ [⟨s, .turn t⟩]) = stalled past := by
    rw [stalled_concat]
    exact Bool.or_false _
  refine ⟨hheedful, h.sole, ?_, ?_, ?_⟩
  · rw [hspawned, hspawn]
    split
    · rename_i hsame
      rw [List.append_nil, ← h.remembers]
      exact hsame
    · rw [List.getLast?_concat]
      rfl
  · rw [hspawned, hcarried]
    change (spawned past ++ s.spawn t).Perm (carried past ++ (s.inFlight ++ s.spawn t))
    rw [← List.append_assoc]
    exact h.inFlight.append_right _
  · rw [hcarried, hstalled]
    exact h.running

theorem Tracked.carryOut (h : Tracked past s) (task : Nat) :
    Tracked (past ++ [⟨s, .carryOut task⟩]) (s.carryOut task) := by
  have hspawned : spawned (past ++ [⟨s, .carryOut task⟩]) = spawned past :=
    (spawned_concat past _).trans (List.append_nil _)
  have hcarried : carried (past ++ [⟨s, .carryOut task⟩]) =
      carried past ++ s.inFlight[task]?.toList := carried_concat past _
  have hstalled : stalled (past ++ [⟨s, .carryOut task⟩]) =
      (!(s.inFlight[task]? == some true) && stalled past) := by
    rw [stalled_concat]
    exact congrArg _ (Bool.or_false _)
  unfold DetachedAlert.carryOut
  cases htask : s.inFlight[task]? with
  | none =>
    rw [htask] at hcarried hstalled
    refine ⟨h.heedful, h.sole, by rw [hspawned]; exact h.remembers, ?_, ?_⟩
    · rw [hspawned, hcarried, Option.toList_none, List.append_nil]
      exact h.inFlight
    · rw [hcarried, hstalled, Option.toList_none, List.append_nil]
      exact h.running
  | some on =>
    rw [htask] at hcarried hstalled
    have hperm : (spawned past).Perm ((carried past ++ [on]) ++ s.inFlight.eraseIdx task) := by
      rw [List.append_assoc]
      exact h.inFlight.trans ((OpenCalls.perm_eraseIdx htask).append_left _)
    refine ⟨h.heedful, ?_, by rw [hspawned]; exact h.remembers, ?_, ?_⟩
    · cases on with
      | true => exact h.sole.start
      | false => exact h.sole.stop
    · rw [hspawned, hcarried]
      exact hperm
    · rw [hcarried, hstalled, Option.toList_some, List.getLast?_concat]
      cases on with
      | true => exact s.alert.isRunning_start
      | false => exact s.alert.isRunning_stop

theorem Tracked.play (h : Tracked past s) (loop : Nat) (run : Except OsError Unit) :
    Tracked (past ++ [⟨s, .play loop run⟩]) (s.next (.play loop run)) := by
  have hspawned : spawned (past ++ [⟨s, .play loop run⟩]) = spawned past :=
    (spawned_concat past _).trans (List.append_nil _)
  have hcarried : carried (past ++ [⟨s, .play loop run⟩]) = carried past :=
    (carried_concat past _).trans (List.append_nil _)
  have hstalled : stalled (past ++ [⟨s, .play loop run⟩]) =
      (stalled past || s.alert.dies loop run) := stalled_concat past _
  refine ⟨h.heedful, h.sole.play loop run, ?_, ?_, ?_⟩
  · rw [hspawned]
    exact h.remembers
  · rw [hspawned, hcarried]
    exact h.inFlight
  · rw [hcarried, hstalled]
    change (s.alert.play loop run).1.isRunning = _
    rw [h.sole.isRunning_play, h.running, Bool.not_or, Bool.and_assoc]

theorem Tracked.next (h : Tracked past s) (event : Event) :
    Tracked (past ++ [⟨s, event⟩]) (s.next event) := by
  cases event with
  | turn t => exact h.turn t
  | carryOut task => exact h.carryOut task
  | play loop run => exact h.play loop run

/-! ## Nothing in flight -/

theorem Tracked.agrees (h : Tracked past s) (horder : ¬ Overtaken past) : Agrees past s := by
  have hlast : (carried past).getLast? = (spawned past).getLast? := not_not.mp horder
  have hrunning := h.running
  rw [hlast, ← h.remembers] at hrunning
  constructor
  · intro hquiet
    have hsilent : s.alert.isRunning = false := by rw [hrunning, hquiet, Bool.false_and]
    exact ⟨hsilent, h.sole.isRunning_eq_false_iff.mp hsilent⟩
  · intro hactive hplays
    rw [hrunning, hactive, hplays]
    rfl

theorem Tracked.disagrees (h : Tracked past s) (hnone : s.inFlight = []) (horder : Overtaken past)
    (hplays : stalled past = false) : ¬ Agrees past s := by
  intro hagrees
  have hperm := h.inFlight
  rw [hnone, List.append_nil] at hperm
  have hrunning := h.running
  rw [hplays, Bool.not_false, Bool.and_true] at hrunning
  have hremembers := h.remembers
  apply horder
  -- both lists have a last element or neither does, and these tell what sounds and what should
  cases hcarried : (carried past).getLast? with
  | none =>
    rw [List.getLast?_eq_none_iff] at hcarried
    rw [hcarried] at hperm
    rw [hperm.eq_nil]
    rfl
  | some on =>
    cases hspawned : (spawned past).getLast? with
    | none =>
      rw [List.getLast?_eq_none_iff] at hspawned
      rw [hspawned] at hperm
      rw [hperm.symm.eq_nil] at hcarried
      cases hcarried
    | some last =>
      rw [hcarried] at hrunning
      rw [hspawned] at hremembers
      cases last with
      | false =>
        have hsilent := (hagrees.silent hremembers).1
        rw [hrunning] at hsilent
        exact congrArg some hsilent
      | true =>
        have hsounds := hagrees.sounds hremembers hplays
        rw [hrunning] at hsounds
        exact congrArg some hsounds

/-- Tasks that are carried out in the order in which they were spawned do not overtake each other. -/
theorem spawned_of_inOrder {initial : DetachedAlert} (hnew : initial.inFlight = [])
    {events : List Event} (inOrder : ∀ task, .carryOut task ∈ events → task = 0) :
    spawned (occurrences next initial events) =
      carried (occurrences next initial events) ++ (behind next initial events).inFlight := by
  induction events using List.reverseRecOn with
  | nil => exact hnew.symm
  | append_singleton events event ih =>
    have hih := ih fun task htask => inOrder task (by simp [htask])
    rw [occurrences_concat, behind_concat, spawned_concat, carried_concat, hih]
    generalize behind next initial events = s
    cases event with
    | turn t => simp [spawnedIn, carriedIn, next]
    | play loop run => simp [spawnedIn, carriedIn, next]
    | carryOut task =>
      obtain rfl : task = 0 := inOrder task (by simp)
      cases hflight : s.inFlight <;> simp [spawnedIn, carriedIn, next, carryOut, hflight]

end Runs

/-- **The alert does what the engine remembers, unless calls have overtaken each other.** Take a
built engine with a new alert, and any order of its turns, of its tasks being carried out and of the
loops of the player. When nothing is in flight: if the task that was carried out last asked for the
same as the one that was spawned last, and so in particular if the tasks are carried out in the order
in which they were spawned, then the alert is silent if it is not active, and sounds if it is and
the player can be run. Otherwise, as long as the player can be run, it does not. -/
theorem agrees_unless_overtaken {settings : EngineSettings} {attached : Attached} {e : Engine}
    {argv : List String} {alert : CommandAlert} (built : Engine.build settings attached = .ok e)
    (made : CommandAlert.ofArguments argv = .ok alert) (events : List Event) :
    let past := occurrences next { engine := e, alert } events
    let s := behind next { engine := e, alert } events
    s.inFlight = [] →
      (¬ Overtaken past → Agrees past s) ∧
      ((∀ task, .carryOut task ∈ events → task = 0) → ¬ Overtaken past) ∧
      (Overtaken past → stalled past = false → ¬ Agrees past s) := by
  intro past s hnone
  have base : Tracked [] { engine := e, alert } := by
    obtain ⟨hsole, hsilent⟩ := CommandAlert.sole_of_ofArguments made
    rw [Engine.eq_of_build built]
    exact ⟨Bool.noConfusion, hsole, rfl, .nil, hsilent⟩
  have h : Tracked past s := occurrences_induction base (fun _ _ event h => h.next event) events
  refine ⟨h.agrees, ?_, h.disagrees hnone⟩
  intro inOrder hovertaken
  have hnew : ({ engine := e, alert } : DetachedAlert).inFlight = [] := rfl
  have hspawned := spawned_of_inOrder hnew inOrder
  apply hovertaken
  change spawned past = carried past ++ s.inFlight at hspawned
  rw [hspawned, hnone, List.append_nil]

/-- An alarm comes of age and is resolved: the alert is to start at the third second, and to stop at
the fifth. -/
def startAndStop : List Event :=
  [.turn (.action (.ingest ⟨"PV1", "MAJOR", "HIHI", .ofSecond 0, false, false⟩)),
    .turn (.action (.pollNotifications (.ofSecond 3) fun _ => .done)),
    .turn (.action (.ingest ⟨"PV1", "OK", "NO_ALARM", .ofSecond 5, false, false⟩)),
    .turn (.action (.pollNotifications (.ofSecond 5) fun _ => .done))]

/-- A player that is new. -/
def sleeper : CommandAlert := { program := "sleep", arguments := ["30"] }

theorem agrees_unless_overtaken_startAndStop :
    Engine.build Engine.desk.settings Engine.desk.attached = .ok Engine.desk ∧
    CommandAlert.ofArguments ["sleep", "30"] = .ok sleeper ∧
    Agrees
      (occurrences next { engine := Engine.desk, alert := sleeper }
        (startAndStop ++ [.carryOut 0, .play 0 (.ok ()), .carryOut 0]))
      (behind next { engine := Engine.desk, alert := sleeper }
        (startAndStop ++ [.carryOut 0, .play 0 (.ok ()), .carryOut 0])) := by
  have built : Engine.build Engine.desk.settings Engine.desk.attached = .ok Engine.desk := by decide
  have made : CommandAlert.ofArguments ["sleep", "30"] = .ok sleeper := rfl
  obtain ⟨hagrees, hinOrder, -⟩ := agrees_unless_overtaken built made
    (startAndStop ++ [.carryOut 0, .play 0 (.ok ()), .carryOut 0]) (by decide)
  refine ⟨built, made, hagrees (hinOrder ?_)⟩
  intro task htask
  simpa [startAndStop] using htask

/-- The stop is carried out before the start. Nothing is in flight, the engine remembers a silent
alert, and the player plays. -/
theorem sounds_on_of_overtaken :
    let s := behind next { engine := Engine.desk, alert := sleeper }
      (startAndStop ++ [.carryOut 1, .carryOut 0])
    s.inFlight = [] ∧ s.engine.alertActive = false ∧ s.alert.isRunning = true := by
  decide

end DetachedAlert

end AlarmEscalation
