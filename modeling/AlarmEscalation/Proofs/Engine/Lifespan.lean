import AlarmEscalation.Proofs.Engine.Crew
import AlarmEscalation.Proofs.Occurrence

/-! # From start to shutdown, and beyond

An engine that is built once may be started and shut down many times. A span lasts from a start that
succeeds to the next shutdown. Whether the engine runs, who is alive, who is held and who has panicked
is compared here with what the run tells of it, turn by turn; all else that the engine remembers
outlives the span. -/
namespace AlarmEscalation.Engine

/-! ## What a run tells -/

/-- The turns of a run, each with the engine that it finds. -/
def chronicle (e : Engine) (turns : List Turn) : List (Occurrence Engine Turn) :=
  occurrences (fun e t => (e.take t).engine) e turns

/-- A span begins: a start succeeds. -/
def begins (m : Occurrence Engine Turn) : Bool :=
  match m.event with
  | .action (.start inRuntime) => (m.before.start inRuntime).isOk
  | _ => false

/-- A span ends, if there is one. -/
def ends (m : Occurrence Engine Turn) : Bool :=
  match m.event with
  | .action (.shutdown _) => true
  | _ => false

/-- A start has succeeded, and nothing was shut down since. -/
def inSpan (past : List (Occurrence Engine Turn)) : Bool := since ends begins past

/-- An actor that wakes up panics: it is alive and to poll, and its poll is broken off. -/
def breaks (e : Engine) (n : Nat) (now : Instant) (order : ScanOrder) : Bool :=
  e.running && e.actors[n]?.any fun actor =>
    actor.isAlive && !(e.pollAs actor.kind now order).found.isOk

/-- The actor of this number panics. -/
def panicsIn (n : Nat) (m : Occurrence Engine Turn) : Bool :=
  match m.event with
  | .wake k now _ order => k == n && m.before.breaks k now order
  | _ => false

/-- All that an engine remembers but its crew: the store with its marks, what subscribers see, and
what it knows of the alarms, the alert and the light. -/
def memory (e : Engine) : Engine := { e with running := false, actors := [], held := [] }

/-- Between spans nobody polls from outside, and nothing is started. -/
def Turn.isQuiet : Turn → Bool
  | .action (.pollNotifications _ _ _) | .action (.pollFlashlight _ _) => false
  | .action (.start inRuntime) => !inRuntime
  | .action (.ingest _) | .action (.shutdown _) | .wake _ _ _ _ => true

/-! ## Panics -/

theorem isSome_panicOf?_endActor {e : Engine} {n : Nat} {actor : Actor}
    (h : e.actors[n]? = some actor) (text : String) (m : Nat) :
    ((e.endActor n (.panicked text)).panicOf? m).isSome = ((e.panicOf? m).isSome || n == m) := by
  by_cases hm : n = m
  · subst hm
    simp [panicOf?, endActor, h]
  · simp [panicOf?, endActor, hm]

theorem isSome_panicOf?_wake (e : Engine) (n : Nat) (now : Instant) (order : ScanOrder)
    (m : Nat) :
    ((e.wake n now order).engine.panicOf? m).isSome =
      ((e.panicOf? m).isSome || (n == m && e.breaks n now order)) := by
  cases hrun : e.running with
  | false =>
    rw [panicOf?_wake_of_stopped hrun]
    simp [breaks, hrun]
  | true =>
    unfold wake
    cases hactor : e.actors[n]? with
    | none => simp [breaks, hactor, Step.done]
    | some actor =>
      cases halive : actor.isAlive with
      | false => simp [breaks, hactor, halive, Step.done]
      | true =>
        have hsame := e.pollAs_sameCrew actor.kind now order
        have hpolled : (e.pollAs actor.kind now order).engine.actors[n]? = some actor :=
          hsame.actors ▸ hactor
        cases hfound : (e.pollAs actor.kind now order).found with
        | ok =>
          have hkeeps : e.breaks n now order = false := by
            simp [breaks, hactor, hfound, Except.isOk, Except.toBool]
          simp [halive, hrun, hfound, hkeeps, hsame.panicOf?]
        | error fault =>
          have hbreaks : e.breaks n now order = true := by
            simp [breaks, hactor, halive, hrun, hfound, Except.isOk, Except.toBool]
          simp [halive, hrun, hfound, hbreaks, isSome_panicOf?_endActor hpolled, hsame.panicOf?]

/-- A shutdown fails if an actor that it waits for has panicked, and only then. -/
theorem finishShutdown_fails_iff (e : Engine) (taken : List Nat) :
    (e.finishShutdown taken).1.isOk = false ↔ ∃ n ∈ taken, (e.panicOf? n).isSome = true := by
  have hresult : (e.finishShutdown taken).1.isOk = (e.panics taken).getLast?.isNone := by
    simp only [finishShutdown]
    cases (e.panics taken).getLast? <;> rfl
  have hpanics : (e.panics taken).getLast? = none ↔ ∀ n ∈ taken, e.panicOf? n = none := by
    rw [List.getLast?_eq_none_iff, panics, List.filterMap_eq_nil_iff]
  rw [hresult, ← Bool.not_eq_true, Option.isNone_iff_eq_none, hpanics]
  simp [Option.isSome_iff_ne_none]

/-- Only an actor that wakes up can panic. -/
theorem any_panicsIn_action (past : List (Occurrence Engine Turn)) (e : Engine) (a : Action)
    (n : Nat) : List.any (past ++ [⟨e, .action a⟩]) (panicsIn n) = past.any (panicsIn n) := by
  simp [panicsIn]

/-! ## Memory -/

theorem memory_ingest (e : Engine) (event : AlarmRecord) :
    (e.ingest event).2.memory = (e.memory.ingest event).2 := by
  change (publish { e with store := (e.store.ingest event).2 }).memory =
    publish { e.memory with store := (e.store.ingest event).2 }
  unfold publish
  split
  · rename_i hseen
    exact (if_pos hseen).symm
  · rename_i hseen
    exact (if_neg hseen).symm

theorem memory_start {e e' : Engine} {inRuntime : Bool} {logs : List LogLine}
    (h : e.start inRuntime = .ok (e', logs)) : e'.memory = e.memory := by
  obtain ⟨-, -, rfl⟩ := start_eq h
  rfl

theorem memory_shutdown (e : Engine) (now : Instant) :
    (e.shutdown now).2.1.memory = e.memory := by
  obtain ⟨actors, hshutdown⟩ := e.shutdown_engine now
  rw [hshutdown]
  rfl

/-! ## One turn -/

section One
variable {past : List (Occurrence Engine Turn)} {e : Engine}

theorem inSpan_concat (past : List (Occurrence Engine Turn)) (m : Occurrence Engine Turn) :
    inSpan (past ++ [m]) = (!ends m && (inSpan past || begins m)) := since_concat ends begins past m

/-- The engine is as its run tells. -/
structure Living (past : List (Occurrence Engine Turn)) (e : Engine) : Prop where
  accounted : e.Accounted []
  running : e.running = inSpan past
  panicked : ∀ n, (e.panicOf? n).isSome = past.any (panicsIn n)

theorem Living.start (h : Living past e) (inRuntime : Bool) :
    Living (past ++ [⟨e, .action (.start inRuntime)⟩]) (e.act (.start inRuntime)).engine := by
  have hspan : inSpan (past ++ [⟨e, .action (.start inRuntime)⟩]) =
      (inSpan past || (e.start inRuntime).isOk) := by
    simp [inSpan_concat, ends, begins]
  rcases e.start_cases inRuntime with ⟨hfail, hsame⟩ | ⟨hok, logs, hstart⟩
  · rw [hsame]
    refine ⟨h.accounted, ?_, ?_⟩
    · rw [hspan, hfail, h.running, Bool.or_false]
    · intro n
      rw [any_panicsIn_action]
      exact h.panicked n
  · refine ⟨h.accounted.start hstart, ?_, ?_⟩
    · rw [hspan, hok, Bool.or_true, (start_eq hstart).2.2]
    · intro n
      rw [panicOf?_start hstart, any_panicsIn_action]
      exact h.panicked n

theorem Living.shutdown (h : Living past e) (now : Instant) :
    Living (past ++ [⟨e, .action (.shutdown now)⟩]) (e.shutdown now).2.1 := by
  obtain ⟨actors, hshutdown⟩ := e.shutdown_engine now
  refine ⟨⟨fun _ => ?_, ?_⟩, ?_, ?_⟩
  · rw [hshutdown]
  · intro n halive
    rw [h.accounted.shutdown now n] at halive
    cases halive
  · rw [hshutdown, inSpan_concat]
    rfl
  · intro n
    change ((e.beginShutdown.2.wakeAll now e.held).engine.panicOf? n).isSome = _
    rw [panicOf?_wakeAll rfl, any_panicsIn_action]
    exact h.panicked n

/-- Events and polls from outside are no matter of the crew. -/
theorem Living.aside (h : Living past e) {a : Action} (ha : a.mans = false) :
    Living (past ++ [⟨e, .action a⟩]) (e.act a).engine := by
  have hsame : e.SameCrew (e.act a).engine := act_sameCrew ha
  have hspan : ends ⟨e, .action a⟩ = false ∧ begins ⟨e, .action a⟩ = false := by
    cases a with
    | ingest | pollNotifications | pollFlashlight => exact ⟨rfl, rfl⟩
    | start | shutdown => cases ha
  refine ⟨h.accounted.sameCrew hsame, ?_, ?_⟩
  · rw [hsame.running, inSpan_concat, hspan.1, hspan.2, h.running, Bool.or_false]
    rfl
  · intro n
    rw [hsame.panicOf?, any_panicsIn_action]
    exact h.panicked n

theorem Living.wake (h : Living past e) (n : Nat) (now : Instant) (fate : Call → CallOutcome)
    (order : ScanOrder) :
    Living (past ++ [⟨e, .wake n now fate order⟩]) (e.wake n now order).engine := by
  refine ⟨h.accounted.wake n now order, ?_, ?_⟩
  · rw [wake_running, h.running, inSpan_concat]
    simp [ends, begins]
  · intro m
    rw [isSome_panicOf?_wake, h.panicked, List.any_append]
    simp [panicsIn]

theorem Living.take (h : Living past e) (t : Turn) :
    Living (past ++ [⟨e, t⟩]) (e.take t).engine := by
  cases t with
  | wake n now fate order => exact h.wake n now fate order
  | action a =>
    cases a with
    | start inRuntime => exact h.start inRuntime
    | shutdown now => exact h.shutdown now
    | ingest | pollNotifications | pollFlashlight => exact h.aside rfl

/-! ## Outside a span -/

/-- Nobody is left who could wake up. -/
theorem Accounted.wake_idle (h : e.Accounted []) (hstop : e.running = false) (n : Nat)
    (now : Instant) (order : ScanOrder) : e.wake n now order = .done e () := by
  have hended : e.hasEnded n = true := by
    by_contra halive
    have hmanned : e.isManned = true :=
      e.isManned_iff_exists.mpr ⟨n, by simpa using halive⟩
    rw [h.unmanned hstop] at hmanned
    cases hmanned
  rw [wake_of_stopped hstop, if_pos hended]

theorem Accounted.wakeAll_idle (h : e.Accounted []) (hstop : e.running = false) (now : Instant)
    (ns : List Nat) : e.wakeAll now ns = .done e () := by
  induction ns with
  | nil => rfl
  | cons n rest ih => rw [wakeAll, h.wake_idle hstop, Step.done_andThen, ih]

theorem Accounted.intervals_idle (h : e.Accounted []) (hstop : e.running = false) (now : Instant)
    (k : Nat) : e.intervals now k = .done e () := by
  induction k with
  | zero => rfl
  | succ k ih => rw [intervals, interval, h.wakeAll_idle hstop, Step.done_andThen, ih]

/-- A quiet turn leaves a stopped engine stopped, and only an event is remembered. -/
theorem Accounted.quiet (h : e.Accounted []) (hstop : e.running = false) {t : Turn}
    (hquiet : t.isQuiet = true) :
    (e.take t).engine.Accounted [] ∧ (e.take t).engine.running = false ∧
      (e.take t).engine.memory =
        t.event?.toList.foldl (fun e event => (e.ingest event).2) e.memory := by
  cases t with
  | wake n now fate order =>
    have hidle : (e.take (.wake n now fate order)).engine = e :=
      congrArg Step.engine (h.wake_idle hstop n now order)
    rw [hidle]
    exact ⟨h, hstop, rfl⟩
  | action a =>
    cases a with
    | ingest event =>
      have hsame : e.SameCrew (e.act (.ingest event)).engine := act_sameCrew rfl
      exact ⟨h.sameCrew hsame, hsame.running.trans hstop, e.memory_ingest event⟩
    | start inRuntime =>
      have hoff : inRuntime = false := by simpa [Turn.isQuiet] using hquiet
      rcases e.start_cases inRuntime with ⟨-, hsame⟩ | ⟨hok, -⟩
      · rw [show (e.take (.action (.start inRuntime))).engine = e from hsame]
        exact ⟨h, hstop, rfl⟩
      · rw [start_isOk, hoff] at hok
        cases hok
    | shutdown now =>
      obtain ⟨actors, hshutdown⟩ := e.shutdown_engine now
      have hengine : (e.take (.action (.shutdown now))).engine = (e.shutdown now).2.1 := rfl
      refine ⟨⟨fun _ => ?_, ?_⟩, ?_, e.memory_shutdown now⟩
      · rw [hengine, hshutdown]
      · intro n halive
        rw [hengine, h.shutdown now n] at halive
        cases halive
      · rw [hengine, hshutdown]
    | pollNotifications | pollFlashlight => cases hquiet

theorem Accounted.gap (h : e.Accounted []) (hstop : e.running = false) {gap : List Turn}
    (hquiet : ∀ t ∈ gap, t.isQuiet = true) :
    (e.afterTurns gap).running = false ∧
      (e.afterTurns gap).memory =
        (gap.filterMap Turn.event?).foldl (fun e event => (e.ingest event).2) e.memory := by
  induction gap generalizing e with
  | nil => exact ⟨hstop, rfl⟩
  | cons t rest ih =>
    obtain ⟨haccounted, hstopped, hmemory⟩ := h.quiet hstop (hquiet t (by simp))
    obtain ⟨hrunning, hrest⟩ := ih haccounted hstopped fun u hu => hquiet u (by simp [hu])
    refine ⟨hrunning, ?_⟩
    change ((e.take t).engine.afterTurns rest).memory = _
    rw [hrest, hmemory, ← List.foldl_append]
    congr 1
    cases hevent : t.event? with
    | none => simp [hevent]
    | some event => simp [hevent]

end One

/-! ## The law -/

/-- What a start comes to. -/
structure Starts (e : Engine) (inRuntime : Bool) : Prop where
  fails_iff : (e.start inRuntime).isOk = false ↔ inRuntime = false ∨ e.running = true
  refused : ∀ refusal, e.start inRuntime = .error refusal →
    refusal.report.kind = .runtime ∧ (e.act (.start inRuntime)).engine = e
  started : ∀ e' logs, e.start inRuntime = .ok (e', logs) →
    e'.running = true ∧ (∀ n, e'.hasEnded n = false ↔ n ∈ e'.held) ∧
      e'.aliveOf .notification = 1 ∧
      e'.aliveOf .flashlight = (if e.settings.role = .server then 1 else 0)

/-- What a shutdown comes to. -/
structure Stops (past : List (Occurrence Engine Turn)) (e : Engine) (now : Instant) : Prop where
  stopped : (e.shutdown now).2.1.running = false ∧ (e.shutdown now).2.1.held = []
  ended : ∀ n, (e.shutdown now).2.1.hasEnded n = true
  silent : (e.beginShutdown.2.wakeAll now e.held).calls = []
  fails_iff : (e.shutdown now).1.isOk = false ↔ ∃ n ∈ e.held, past.any (panicsIn n) = true

/-- What outlives the spans: behind a shutdown and until the next start has succeeded, the engine
remembers what it did before and the events that came in meanwhile. -/
structure Outlives (e : Engine) : Prop where
  shutdown : ∀ now, (e.shutdown now).2.1.memory = e.memory
  start : ∀ inRuntime e' logs, e.start inRuntime = .ok (e', logs) → e'.memory = e.memory
  gap : ∀ now gap, (∀ t ∈ gap, t.isQuiet = true) →
    (e.afterTurns (.action (.shutdown now) :: gap ++ [.action (.start true)])).running = true ∧
      (e.afterTurns (.action (.shutdown now) :: gap ++ [.action (.start true)])).memory =
        (gap.filterMap Turn.event?).foldl (fun e event => (e.ingest event).2) e.memory

section Law
variable {past : List (Occurrence Engine Turn)} {e : Engine}

theorem Living.starts (h : Living past e) (inRuntime : Bool) : e.Starts inRuntime := by
  refine ⟨?_, ?_, ?_⟩
  · rw [start_isOk]
    cases inRuntime <;> cases e.running <;> simp
  · intro refusal hrefused
    rcases e.start_cases inRuntime with ⟨-, hsame⟩ | ⟨hok, -⟩
    · exact ⟨rfl, hsame⟩
    · rw [hrefused] at hok
      cases hok
  · intro e' logs hstart
    have halive := fun n => alive_of_start hstart (n := n)
    have hcount := aliveOf_start hstart
    have haccounted := h.accounted.start hstart
    obtain ⟨-, hstop, heq⟩ := start_eq hstart
    have hunmanned : e.isManned = false := h.accounted.unmanned hstop
    refine ⟨by rw [heq], ?_, ?_, ?_⟩
    · intro n
      constructor
      · intro hn
        exact (haccounted.alive n hn).resolve_right List.not_mem_nil
      · intro hn
        rw [heq, h.accounted.stopped hstop, List.nil_append] at hn
        exact alive_of_new hstart hn
    · rw [hcount, aliveOf_of_unmanned hunmanned]
      cases e.settings.role <;> rfl
    · rw [hcount, aliveOf_of_unmanned hunmanned]
      cases e.settings.role <;> rfl

theorem Living.stops (h : Living past e) (now : Instant) : Stops past e now := by
  obtain ⟨actors, hshutdown⟩ := e.shutdown_engine now
  refine ⟨by rw [hshutdown]; exact ⟨rfl, rfl⟩, h.accounted.shutdown now, ?_, ?_⟩
  · have hwithin : (e.beginShutdown.2.wakeAll now e.held).Within (Ended e.beginShutdown.2)
        fun _ => False :=
      wakeAll_within_of_stopped rfl now e.held ⟨e.beginShutdown.2.actors, rfl⟩
    exact List.eq_nil_iff_forall_not_mem.mpr hwithin.calls
  · change ((e.beginShutdown.2.wakeAll now e.held).engine.finishShutdown e.held).1.isOk = false ↔ _
    rw [finishShutdown_fails_iff]
    simp only [← h.panicked, panicOf?_wakeAll (e := e.beginShutdown.2) rfl]
    rfl

theorem Living.outlives (h : Living past e) : e.Outlives := by
  refine ⟨e.memory_shutdown, fun _ _ _ => memory_start, ?_⟩
  intro now gap hquiet
  have hstopped := h.shutdown now
  have hstop : (e.shutdown now).2.1.running = false := (h.stops now).stopped.1
  obtain ⟨hgap, hmemory⟩ := hstopped.accounted.gap hstop hquiet
  rw [afterTurns_concat]
  change (((e.shutdown now).2.1.afterTurns gap).act (.start true)).engine.running = true ∧
    (((e.shutdown now).2.1.afterTurns gap).act (.start true)).engine.memory = _
  rw [← e.memory_shutdown now, ← hmemory]
  generalize (e.shutdown now).2.1.afterTurns gap = e' at hgap
  rcases e'.start_cases true with ⟨hfail, -⟩ | ⟨-, logs, hstart⟩
  · rw [start_isOk, hgap] at hfail
    cases hfail
  · exact ⟨by rw [(start_eq hstart).2.2], memory_start hstart⟩

end Law

theorem living {settings : EngineSettings} {attached : Attached} {e : Engine}
    (built : build settings attached = .ok e) (turns : List Turn) :
    Living (e.chronicle turns) (e.afterTurns turns) := by
  have base : Living [] e := by
    rw [eq_of_build built]
    exact ⟨.new settings attached, rfl, fun _ => rfl⟩
  exact occurrences_induction base (fun _ _ t h => h.take t) turns

/-- **An engine runs from a start that succeeds to the next shutdown.** Along every run of a built
engine, whichever of its actors panic: the engine runs if and only if it is in a span. A start fails,
and then leaves all as it is, if and only if there is no runtime or the engine runs; otherwise those
alive and held are one actor for notifications and, at the server, one for the flashlight. A shutdown
leaves nobody alive or held, and fails if and only if an actor that it waits for has panicked.
Outside a span no actor polls. And what the engine remembers outlives the spans. -/
theorem runs_from_start_to_shutdown {settings : EngineSettings} {attached : Attached} {e : Engine}
    (built : build settings attached = .ok e) (turns : List Turn) :
    (e.afterTurns turns).running = inSpan (e.chronicle turns) ∧
    (∀ inRuntime, (e.afterTurns turns).Starts inRuntime) ∧
    (∀ now, Stops (e.chronicle turns) (e.afterTurns turns) now) ∧
    (inSpan (e.chronicle turns) = false →
      (∀ n now order,
        (e.afterTurns turns).wake n now order = .done (e.afterTurns turns) ()) ∧
      ∀ now k, (e.afterTurns turns).intervals now k = .done (e.afterTurns turns) ()) ∧
    (e.afterTurns turns).Outlives := by
  have h := living built turns
  refine ⟨h.running, h.starts, h.stops, ?_, h.outlives⟩
  intro hspan
  have hstop : (e.afterTurns turns).running = false := h.running.trans hspan
  exact ⟨h.accounted.wake_idle hstop, h.accounted.intervals_idle hstop⟩

/-- The deadline of an alarm lies behind the end of all times, and the poll panics that comes to
it. -/
def brokenDown : List Turn :=
  [.action (.start true),
    .action (.ingest ⟨"PV1", "MAJOR", "HIHI", .ofSecond maxSeconds, false, false⟩),
    .wake 0 (.ofSecond maxSeconds) fun _ => .done]

theorem runs_from_start_to_shutdown_brokenDown :
    build desk.settings desk.attached = .ok desk ∧
    (desk.afterTurns brokenDown).running = true ∧
    (desk.afterTurns brokenDown).aliveOf .notification = 0 ∧
    ((desk.afterTurns brokenDown).shutdown (.ofSecond maxSeconds)).1.isOk = false := by
  have built : build desk.settings desk.attached = .ok desk := by decide
  obtain ⟨hrunning, -, hstops, -, -⟩ := runs_from_start_to_shutdown built brokenDown
  refine ⟨built, by rw [hrunning]; decide, by decide, (hstops _).fails_iff.mpr ⟨0, ?_, ?_⟩⟩
  · decide
  · decide

end AlarmEscalation.Engine
