import AlarmEscalation.Daemon
import AlarmEscalation.Proofs.Engine.Dispatch
import AlarmEscalation.Proofs.Engine.Lifespan
import AlarmEscalation.Proofs.Engine.Light

/-! # A run, to its heartbeats and its end

The run of a daemon takes turns with all that goes on beside it: actors wake up, events come in, and
somebody asks for a stop. Each of these is one move here, and they come in any order. A request for
a stop clears the flag and then leaves word, so the run may move in between; so may it between what
the listener says and what it does. -/
namespace AlarmEscalation

namespace Phase

/-- The actors that are waited for. -/
def taken : Phase → List Nat
  | .stopping taken => taken
  | .idle | .looking | .waiting | .returned _ | .panicked _ => []

/-- The run is past the start of the engine, and has not come to stop it. -/
def isUp : Phase → Bool
  | .looking | .waiting | .panicked _ => true
  | .idle | .stopping _ | .returned _ => false

/-- The run has come to stop the engine. -/
def isDown : Phase → Bool
  | .stopping _ | .returned _ => true
  | .idle | .looking | .waiting | .panicked _ => false

/-- The run has returned an error. -/
def hasFailed : Phase → Bool
  | .returned (.error _) => true
  | .returned (.ok _) | .idle | .looking | .waiting | .stopping _ | .panicked _ => false

theorem hasFailed_iff (p : Phase) :
    p.hasFailed = true ↔ ∃ failure, p = .returned (.error failure) := by
  cases p with
  | returned result => cases result <;> simp [hasFailed]
  | idle | looking | waiting | stopping _ | panicked _ => simp [hasFailed]

/-- The run has begun and is yet to return. -/
def isUnderWay : Phase → Bool
  | .looking | .waiting | .stopping _ => true
  | .idle | .returned _ | .panicked _ => false

end Phase

namespace Daemon

/-! ## Moves -/

inductive Event where
  /-- The run is called, which goes for nothing while an earlier run waits for its actors. -/
  | begin (inRuntime : Bool)
  /-- The run moves. -/
  | look | tick | obey | settle
  /-- An actor wakes up. -/
  | wake (n : Nat) (now : Instant) (order : ScanOrder := .ascending)
  | elapse (nanos : Nat)
  | ingest (event : AlarmRecord)
  /-- The two halves of a request for a stop. -/
  | clearFlag | notify
  /-- What the listener says, before it asks for a stop. -/
  | announce (heard : Except AlarmError Signal)

/-- A move, and what is logged in it by the run, its listener and the actors. -/
def step (d : Daemon) : Event → Daemon × List LogLine
  | .begin inRuntime =>
    match d.phase, d.begin inRuntime with
    | .stopping _, _ | _, .error _ => (d, [])
    | _, .ok begun => begun
  | .look => d.look
  | .tick => d.tick
  | .obey => d.obey
  | .settle => d.settle
  | .wake n now order =>
    let woken := d.engine.wake n now order
    ({ d with engine := woken.engine }, woken.logs)
  | .elapse nanos => ({ d with age := d.age + nanos }, [])
  | .ingest event => ((d.ingest event).2, [])
  | .clearFlag => (d.clearFlag, [])
  | .notify => (d.notify, [])
  | .announce heard => d.announce heard

def next (d : Daemon) (event : Event) : Daemon := (d.step event).1

def after (d : Daemon) (events : List Event) : Daemon := behind next d events

def chronicle (d : Daemon) (events : List Event) : List (Occurrence Daemon Event) :=
  occurrences next d events

/-- All that is logged. -/
def logged (d : Daemon) (events : List Event) : List LogLine :=
  (d.chronicle events).flatMap fun m => (m.before.step m.event).2

/-- A heartbeat is logged. -/
def beats (m : Occurrence Daemon Event) : Bool :=
  match m.event with
  | .tick => m.before.phase.isWaiting
  | _ => false

def Event.ingested? : Event → Option AlarmRecord
  | .ingest event => some event
  | _ => none

/-- The ways in which a move goes. -/
inductive Moved (d : Daemon) : Event → Daemon × List LogLine → Prop
  /-- Nothing happens, and it is neither an event that comes in nor a heartbeat. -/
  | still {event : Event} : event.ingested? = none → beats ⟨d, event⟩ = false →
      Moved d event (d, [])
  | begun {inRuntime : Bool} {engine : Engine} {logs : List LogLine} {phase : Phase} :
      d.phase.taken = [] → d.engine.start inRuntime = .ok (engine, logs) →
      phase = (if d.heartbeat = .zero then .panicked .zeroPeriod else .looking) →
      Moved d (.begin inRuntime) ({ d with engine, age := 0, listening := true, phase }, logs)
  | proceeded : d.phase = .looking → d.flag = true →
      Moved d .look ({ d with phase := .waiting }, [])
  | ticked : d.phase = .waiting →
      Moved d .tick ({ d with phase := .looking }, [.info (heartbeatText d.engine.count)])
  | left {event : Event} {stopRequested : Bool} :
      event = .look ∨ event = .obey → d.phase = .looking ∨ d.phase = .waiting →
      Moved d event ({ d with stopRequested }.beginStop)
  | settled {taken : List Nat} : d.phase = .stopping taken → taken.all d.engine.hasEnded = true →
      Moved d .settle
        ({ d with phase := .returned (d.engine.finishShutdown taken).1 },
          (d.engine.finishShutdown taken).2 ++ [.info "Escalation engine stopped"])
  | woken {n : Nat} {now : Instant} {order : ScanOrder} :
      Moved d (.wake n now order)
        ({ d with engine := (d.engine.wake n now order).engine }, (d.engine.wake n now order).logs)
  | elapsed {nanos : Nat} : Moved d (.elapse nanos) ({ d with age := d.age + nanos }, [])
  | ingested {event : AlarmRecord} :
      Moved d (.ingest event) ({ d with engine := (d.engine.ingest event).2 }, [])
  | cleared : Moved d .clearFlag ({ d with flag := false }, [])
  | notified : Moved d .notify ({ d with stopRequested := true }, [])
  | announced {heard : Except AlarmError Signal} {line : LogLine} :
      (line.level = .error ∨ ∃ s, line = shutdownLine s) →
      Moved d (.announce heard) ({ d with listening := false }, [line])

section Moves
variable (d : Daemon)

theorem begin_eq (inRuntime : Bool) :
    d.begin inRuntime = (d.engine.start inRuntime).map fun (engine, logs) =>
      ({ d with
          engine, age := 0, listening := true,
          phase := if d.heartbeat = .zero then .panicked .zeroPeriod else .looking }, logs) := by
  unfold begin startEngine
  cases d.engine.start inRuntime <;> rfl

theorem moved_begin (inRuntime : Bool) :
    d.Moved (.begin inRuntime) (d.step (.begin inRuntime)) := by
  have hbegin := d.begin_eq inRuntime
  cases hstart : d.engine.start inRuntime with
  | error refusal =>
    rw [hstart] at hbegin
    simp only [step, hbegin, Except.map]
    cases d.phase <;> exact .still rfl rfl
  | ok started =>
    rw [hstart] at hbegin
    simp only [step, hbegin, Except.map]
    cases hphase : d.phase with
    | stopping taken => exact .still rfl rfl
    | idle | looking | waiting | returned result | panicked fault =>
      exact .begun (by rw [hphase]; rfl) hstart rfl

theorem moved (event : Event) : d.Moved event (d.step event) := by
  cases event with
  | begin inRuntime => exact d.moved_begin inRuntime
  | look =>
    simp only [step, look]
    split
    · rename_i hphase
      unfold proceed
      split
      · exact .proceeded hphase ‹_›
      · exact .left (.inl rfl) (.inl hphase)
    · exact .still rfl rfl
  | tick =>
    simp only [step, tick]
    split
    · exact .ticked ‹_›
    · refine .still rfl ?_
      cases hphase : d.phase with
      | waiting => exact absurd hphase ‹_›
      | idle | looking | stopping _ | returned _ | panicked _ =>
        simp [beats, hphase, Phase.isWaiting]
  | obey =>
    simp only [step, obey]
    split
    · exact .left (.inr rfl) (.inr ‹_›)
    · exact .still rfl rfl
  | settle =>
    simp only [step, settle]
    split
    · split
      · exact .settled ‹_› ‹_›
      · exact .still rfl rfl
    · exact .still rfl rfl
  | wake n now order => exact .woken
  | elapse nanos => exact .elapsed
  | ingest event => exact .ingested
  | clearFlag => exact .cleared
  | notify => exact .notified
  | announce heard =>
    simp only [step, announce]
    split
    · cases heard with
      | ok s => exact .announced (.inr ⟨s, rfl⟩)
      | error e => exact .announced (.inl rfl)
    · exact .still rfl rfl

end Moves

variable {d : Daemon} {event : Event}

theorem after_append (d : Daemon) (first second : List Event) :
    d.after (first ++ second) = (d.after first).after second :=
  behind_append next d first second

/-! ## The crew -/

/-- Nobody is alive that the run will not wait for, and the engine runs from its start until the run
has come to stop it, which is when the flag is cleared at the latest. -/
structure Sound (d : Daemon) : Prop where
  accounted : d.engine.Accounted d.phase.taken
  up : d.phase.isUp = true → d.engine.running = true
  down : d.phase.isDown = true → d.flag = false ∧ d.engine.running = false

theorem Sound.accountedFor (h : d.Sound) {taken : List Nat} (htaken : d.phase.taken = taken) :
    d.engine.Accounted taken := htaken ▸ h.accounted

/-- A move that leaves the run where it is, and the crew and the flag alone. -/
theorem Sound.aside {after : Daemon} (h : d.Sound) (hphase : after.phase = d.phase)
    (accounted : after.engine.Accounted d.phase.taken)
    (running : after.engine.running = d.engine.running)
    (flag : d.flag = false → after.flag = false) : after.Sound := by
  refine ⟨hphase ▸ accounted, ?_, ?_⟩
  · rw [hphase, running]
    exact h.up
  · rw [hphase, running]
    intro hdown
    obtain ⟨hflag, hstop⟩ := h.down hdown
    exact ⟨flag hflag, hstop⟩

theorem Sound.next (h : d.Sound) (event : Event) : (d.next event).Sound := by
  have hmoved := d.moved event
  unfold Daemon.next
  generalize d.step event = moved at hmoved
  cases hmoved with
  | still => exact h
  | begun htaken hstart hphase =>
    have hstarted := (h.accountedFor htaken).start hstart
    obtain ⟨-, -, rfl⟩ := Engine.start_eq hstart
    subst hphase
    split
    · exact ⟨hstarted, fun _ => rfl, nofun⟩
    · exact ⟨hstarted, fun _ => rfl, nofun⟩
  | proceeded hphase | ticked hphase =>
    have htaken : d.phase.taken = [] := by rw [hphase]; rfl
    have hup : d.engine.running = true := h.up (by rw [hphase]; rfl)
    exact ⟨h.accountedFor htaken, fun _ => hup, nofun⟩
  | left _ hphase =>
    have htaken : d.phase.taken = [] := by
      rcases hphase with hphase | hphase <;> rw [hphase] <;> rfl
    exact ⟨(h.accountedFor htaken).beginShutdown, nofun, fun _ => ⟨rfl, rfl⟩⟩
  | @settled taken hphase hended =>
    have htaken : d.phase.taken = taken := by rw [hphase]; rfl
    have hdown := h.down (by rw [hphase]; rfl)
    -- Those who are waited for have ended, so nobody is left for anyone to wait for.
    refine ⟨(h.accountedFor htaken).weaken fun n hn halive => ?_, nofun, fun _ => hdown⟩
    have hgone := List.all_eq_true.mp hended n hn
    rw [halive] at hgone
    cases hgone
  | woken =>
    exact h.aside rfl (h.accounted.wake _ _ _) (d.engine.wake_running _ _ _) id
  | @ingested event =>
    have hsame : d.engine.SameCrew (d.engine.act (.ingest event)).engine := Engine.act_sameCrew rfl
    exact h.aside rfl (h.accounted.sameCrew hsame) hsame.running id
  | elapsed | notified | announced => exact h.aside rfl h.accounted rfl id
  | cleared => exact h.aside rfl h.accounted rfl fun _ => rfl

theorem Sound.after (h : d.Sound) (events : List Event) : (d.after events).Sound := by
  induction events generalizing d with
  | nil => exact h
  | cons event rest ih => exact ih (h.next event)

/-- Nobody is alive once the run has returned, whatever its result. -/
theorem Sound.returned (h : d.Sound) {result : Except AlarmError Unit}
    (hphase : d.phase = .returned result) :
    d.flag = false ∧ d.engine.running = false ∧ d.engine.isManned = false := by
  obtain ⟨hflag, hstop⟩ := h.down (by rw [hphase]; rfl)
  have htaken : d.phase.taken = [] := by rw [hphase]; rfl
  exact ⟨hflag, hstop, (h.accountedFor htaken).unmanned hstop⟩

/-! ## The alarms -/

/-- A store behind the events that came in. -/
def stock (store : AlarmStore) (events : List Event) : AlarmStore :=
  (events.filterMap Event.ingested?).foldl (fun s event => (s.ingest event).2) store

theorem stock_concat (store : AlarmStore) (events : List Event) (event : Event) :
    stock store (events ++ [event]) =
      event.ingested?.toList.foldl (fun s event => (s.ingest event).2) (stock store events) := by
  rw [stock, List.filterMap_append, List.foldl_append]
  cases event <;> rfl

/-- Only an event that comes in changes the alarms. -/
theorem unmarked_next (d : Daemon) (event : Event) {store : AlarmStore}
    (h : d.engine.store.unmarked = store.unmarked) :
    (d.next event).engine.store.unmarked =
      (event.ingested?.toList.foldl (fun s event => (s.ingest event).2) store).unmarked := by
  have hmoved := d.moved event
  unfold Daemon.next
  generalize d.step event = moved at hmoved
  cases hmoved with
  | still hnone =>
    rw [hnone]
    exact h
  | begun _ hstart =>
    obtain ⟨-, -, rfl⟩ := Engine.start_eq hstart
    exact h
  | left hevent =>
    rcases hevent with rfl | rfl <;> exact h
  | woken => exact (d.engine.wake_sameAlarms _ _ _).alarms.trans h
  | ingested =>
    rw [Engine.store_ingest]
    exact AlarmStore.unmarked_ingest h _
  | proceeded | ticked | settled | elapsed | cleared | notified | announced => exact h

theorem unmarked_after (d : Daemon) (events : List Event) :
    (d.after events).engine.store.unmarked = (stock d.engine.store events).unmarked := by
  induction events using List.reverseRecOn with
  | nil => rfl
  | append_singleton events event ih =>
    rw [stock_concat, after_append]
    exact (d.after events).unmarked_next event ih

/-! ## Heartbeats -/

/-- Heartbeats with alarms are known by their second letter. -/
theorem numbered_ne {text : String} (h : text.toList[1]? ≠ some 'u') (count : Nat) :
    "Number of active alarms: " ++ toString count ≠ text := by
  rintro rfl
  simp at h

/-- A heartbeat tells how many alarms there are. -/
theorem heartbeatText_injective {m n : Nat} (h : heartbeatText m = heartbeatText n) : m = n := by
  unfold heartbeatText at h
  split at h <;> split at h
  · rename_i hm hn
    exact hm.trans hn.symm
  · exact absurd h.symm (numbered_ne (by decide) n)
  · exact absurd h (numbered_ne (by decide) m)
  · have hdigits : Nat.toDigits 10 m = Nat.toDigits 10 n := by
      have hcount := (String.append_right_inj _).mp h
      rw [Nat.toString_eq_ofList_toDigits, Nat.toString_eq_ofList_toDigits] at hcount
      exact String.ofList_injective hcount
    calc m = Nat.ofDigitChars 10 (Nat.toDigits 10 m) 0 := Nat.ofDigitChars_ten_toDigits.symm
      _ = Nat.ofDigitChars 10 (Nat.toDigits 10 n) 0 := by rw [hdigits]
      _ = n := Nat.ofDigitChars_ten_toDigits

theorem heartbeatText_ne_anymore (count : Nat) :
    heartbeatText count ≠ "No alarms active anymore" := by
  unfold heartbeatText
  split
  · decide
  · exact numbered_ne (by decide) count

theorem head?_heartbeatText (count : Nat) : (heartbeatText count).toList.head? = some 'N' := by
  unfold heartbeatText
  split
  · rfl
  · simp

/-- How a line differs from every heartbeat: by its level, by its first letter, or as the one line
that begins like the heartbeat without alarms. -/
def IsOther (line : LogLine) : Prop :=
  line.level = .error ∨ line.text.toList.head? ≠ some 'N' ∨ line.text = "No alarms active anymore"

theorem IsOther.ne_heartbeat {line : LogLine} (h : IsOther line) (count : Nat) :
    line ≠ .info (heartbeatText count) := by
  rintro rfl
  rcases h with hlevel | hhead | htext
  · cases hlevel
  · exact hhead (head?_heartbeatText count)
  · exact heartbeatText_ne_anymore count htext

theorem isOther_pollNotifications (e : Engine) (now : Instant) (order : ScanOrder) :
    ∀ line ∈ (e.pollNotifications now order).logs, IsOther line := by
  intro line hline
  have hpoll := e.notificationPoll now order
  generalize e.pollNotifications now order = s at hpoll hline
  cases hpoll with
  | quiet => cases hline
  | allClear =>
    rw [List.mem_singleton.mp hline]
    exact .inr (.inr rfl)
  | desktopBroken _ hdesktop => cases hdesktop <;> cases hline
  | active _ hdesktop _ hemail => cases hdesktop <;> cases hemail <;> cases hline

theorem isOther_pollFlashlight (e : Engine) (now : Instant) :
    ∀ line ∈ (e.pollFlashlight now).logs, IsOther line := by
  intro line hline
  by_cases hgiven : e.attached.relay = true ∧ e.settings.laboratory ≠ 0
  · have hlighting := Engine.lighting hgiven.1 hgiven.2 now
    generalize e.pollFlashlight now = s at hlighting hline
    cases hlighting with
    | drained | due =>
      rw [List.mem_singleton.mp hline]
      exact .inr (.inl (by decide))
    | lit | early | broken => cases hline
  · have hoff : (!e.attached.relay || decide (e.settings.laboratory = 0)) = true := by
      cases hrelay : e.attached.relay <;> simp_all
    unfold Engine.pollFlashlight at hline
    rw [if_pos hoff] at hline
    cases hline

/-- No actor logs what reads as a heartbeat. -/
theorem isOther_wake (e : Engine) (n : Nat) (now : Instant) (order : ScanOrder) :
    ∀ line ∈ (e.wake n now order).logs, IsOther line := by
  have hpoll : ∀ kind, ∀ line ∈ (e.pollAs kind now order).logs, IsOther line := by
    intro kind
    cases kind with
    | notification =>
      simp only [Engine.pollAs, Engine.Step.andThen_done]
      exact isOther_pollNotifications e now order
    | flashlight =>
      simp only [Engine.pollAs, Engine.Step.andThen_done]
      exact isOther_pollFlashlight e now
  intro line hline
  have hwoken := e.woken n now order
  generalize e.wake n now order = s at hwoken hline
  cases hwoken with
  | idle | exited => cases hline
  | polled | panicked => exact hpoll _ line hline

/-- A heartbeat is logged by a run that waits and by nobody else, and tells how many alarms are
active. -/
theorem heartbeat_mem_iff {n : Nat} :
    .info (heartbeatText n) ∈ (d.step event).2 ↔
      event = .tick ∧ d.phase = .waiting ∧ n = d.engine.count := by
  constructor
  · intro h
    have hmoved := d.moved event
    generalize d.step event = moved at hmoved h
    have hnot : ¬ IsOther (.info (heartbeatText n)) := fun hother => hother.ne_heartbeat n rfl
    cases hmoved with
    | still | proceeded | elapsed | ingested | cleared | notified => cases h
    | woken => exact absurd (isOther_wake _ _ _ _ _ h) hnot
    | ticked hphase =>
      have htext : heartbeatText n = heartbeatText d.engine.count :=
        congrArg LogLine.text (List.mem_singleton.mp h)
      exact ⟨rfl, hphase, heartbeatText_injective htext⟩
    | begun _ hstart =>
      rw [Engine.logs_start hstart, List.mem_singleton] at h
      refine absurd ?_ hnot
      rw [h]
      exact .inr (.inl (by simp [Engine.startLine, LogLine.info]))
    | left =>
      rw [List.mem_singleton.mp h] at hnot
      exact absurd (.inr (.inl (by decide))) hnot
    | settled =>
      rcases List.mem_append.mp h with hpanic | hstopped
      · obtain ⟨text, -, hline⟩ := List.mem_map.mp hpanic
        exact absurd (.inl (congrArg LogLine.level hline).symm) hnot
      · rw [List.mem_singleton.mp hstopped] at hnot
        exact absurd (.inr (.inl (by decide))) hnot
    | announced hsays =>
      rw [List.mem_singleton] at h
      subst h
      rcases hsays with hlevel | ⟨s, hline⟩
      · exact absurd (.inl hlevel) hnot
      · refine absurd (.inr (.inl ?_)) hnot
        rw [hline]
        simp [shutdownLine, LogLine.info]
  · rintro ⟨rfl, hphase, rfl⟩
    simp [step, tick, hphase]

theorem flag_next (h : d.flag = false) (event : Event) : (d.next event).flag = false := by
  have hmoved := d.moved event
  unfold Daemon.next
  generalize d.step event = moved at hmoved
  cases hmoved with
  | left | cleared => rfl
  | still | begun | proceeded | ticked | settled | woken | elapsed | ingested | notified
  | announced => exact h

/-- Once the flag is cleared the run does not wait again, and a heartbeat needs a run that waits. -/
theorem beats_next_le (h : d.flag = false) (event : Event) :
    (d.next event).phase.isWaiting.toNat + (beats ⟨d, event⟩).toNat ≤ d.phase.isWaiting.toNat := by
  have hmoved := d.moved event
  unfold Daemon.next
  generalize d.step event = moved at hmoved
  cases hmoved with
  | still _ hbeat =>
    rw [hbeat]
    exact Nat.le_refl _
  | begun _ _ hphase =>
    rw [hphase]
    split <;> exact Nat.zero_le _
  | left hevent => rcases hevent with rfl | rfl <;> exact Nat.zero_le _
  | ticked hphase =>
    simp [beats, hphase, Phase.isWaiting]
  | proceeded _ hflag =>
    rw [h] at hflag
    cases hflag
  | settled => exact Nat.zero_le _
  | woken | elapsed | ingested | notified | cleared | announced => exact Nat.le_refl _

/-- However the run goes on once the flag is cleared. -/
theorem countP_beats_le (h : d.flag = false) (events : List Event) :
    (d.chronicle events).countP beats ≤ d.phase.isWaiting.toNat := by
  -- The bound of what is to come shrinks with the heartbeat that uses it up.
  induction events generalizing d with
  | nil => exact Nat.zero_le _
  | cons event rest ih =>
    have hrest := ih (flag_next h event)
    have hnext := beats_next_le h event
    have hhead : (d.chronicle (event :: rest)).countP beats =
        ((d.next event).chronicle rest).countP beats + (beats ⟨d, event⟩).toNat := by
      rw [show d.chronicle (event :: rest) = ⟨d, event⟩ :: (d.next event).chronicle rest from rfl,
        List.countP_cons]
      cases beats ⟨d, event⟩ <;> rfl
    omega

/-! ## The end of a run -/

def wakes (now : Instant) (ns : List Nat) : List Event := ns.map fun n => .wake n now

theorem after_wakes (d : Daemon) (now : Instant) (ns : List Nat) :
    d.after (wakes now ns) = { d with engine := (d.engine.wakeAll now ns).engine } := by
  induction ns generalizing d with
  | nil => rfl
  | cons n rest ih =>
    rw [Engine.wakeAll_cons_engine]
    exact ih (d.next (.wake n now))

/-- The moves that bring a run to its return that has been told to stop. -/
def windDown (d : Daemon) (now : Instant) : List Event :=
  [.tick, .look] ++ wakes now (d.after [.tick, .look]).phase.taken ++ [.settle]

/-- A run that is told to stop leaves its loop with the next heartbeat at the latest. -/
theorem stopping_of_flag (h : d.flag = false) (hphase : d.phase.isUnderWay = true) :
    ∃ taken, (d.after [.tick, .look]).phase = .stopping taken := by
  change ∃ taken, (d.tick.1.look).1.phase = .stopping taken
  cases hwhere : d.phase with
  | looking => simp [tick, look, proceed, beginStop, hwhere, h, Engine.beginShutdown]
  | waiting => simp [tick, look, proceed, beginStop, hwhere, h, Engine.beginShutdown]
  | stopping taken => simp [tick, look, hwhere]
  | idle | returned _ | panicked _ => simp [hwhere, Phase.isUnderWay] at hphase

theorem settle_of_ended {taken : List Nat} (hphase : d.phase = .stopping taken)
    (hended : taken.all d.engine.hasEnded = true) :
    d.settle.1.phase = .returned (d.engine.finishShutdown taken).1 := by
  simp [settle, hphase, hended]

theorem Sound.returns (h : d.Sound) (hflag : d.flag = false)
    (hphase : d.phase.isUnderWay = true) (now : Instant) :
    ∃ result, (d.after (d.windDown now)).phase = .returned result := by
  obtain ⟨taken, hstopping⟩ := stopping_of_flag hflag hphase
  have hsound := h.after [.tick, .look]
  rw [windDown, after_append, after_append, hstopping, after_wakes]
  generalize d.after [.tick, .look] = stopping at hstopping hsound
  obtain ⟨-, hstop⟩ := hsound.down (by rw [hstopping]; rfl)
  have hended : taken.all (stopping.engine.wakeAll now taken).engine.hasEnded = true := by
    rw [List.all_eq_true]
    intro n hn
    simp [Engine.hasEnded_wakeAll hstop, hn]
  exact ⟨_, settle_of_ended hstopping hended⟩

/-! ## Calls, move by move -/

theorem logged_append (d : Daemon) (first second : List Event) :
    d.logged (first ++ second) = d.logged first ++ (d.after first).logged second := by
  rw [logged, chronicle, occurrences_append, List.flatMap_append]
  rfl

/-- Some moves lead from one state to the other, and this is what is logged on the way. -/
def Reaches (d : Daemon) (s : Daemon × List LogLine) : Prop :=
  ∃ events, d.after events = s.1 ∧ d.logged events = s.2

theorem Reaches.refl (d : Daemon) : d.Reaches (d, []) := ⟨[], rfl, rfl⟩

theorem Reaches.trans {s t : Daemon × List LogLine} (first : d.Reaches s)
    (second : s.1.Reaches t) : d.Reaches (t.1, s.2 ++ t.2) := by
  obtain ⟨events, hafter, hlogged⟩ := first
  obtain ⟨later, hlater, hlaterLogged⟩ := second
  refine ⟨events ++ later, ?_, ?_⟩
  · rw [after_append, hafter, hlater]
  · rw [logged_append, hlogged, hafter, hlaterLogged]

theorem reaches_step (d : Daemon) (event : Event) : d.Reaches (d.step event) :=
  ⟨[event], rfl, List.append_nil _⟩

theorem logged_wakes (d : Daemon) (now : Instant) (ns : List Nat) :
    d.logged (wakes now ns) = (d.engine.wakeAll now ns).logs := by
  induction ns generalizing d with
  | nil => rfl
  | cons n rest ih =>
    have hrest := ih (d.next (.wake n now))
    rw [Engine.wakeAll_cons_logs]
    exact congrArg (_ ++ ·) hrest

theorem reaches_wakeAll (d : Daemon) (now : Instant) (ns : List Nat) :
    d.Reaches
      ({ d with engine := (d.engine.wakeAll now ns).engine }, (d.engine.wakeAll now ns).logs) :=
  ⟨wakes now ns, d.after_wakes now ns, d.logged_wakes now ns⟩

theorem reaches_intervals (d : Daemon) (now : Instant) (k : Nat) :
    d.Reaches
      ({ d with engine := (d.engine.intervals now k).engine },
        (d.engine.intervals now k).logs) := by
  induction k generalizing d with
  | zero => exact .refl d
  | succ k ih =>
    have hinterval := d.reaches_wakeAll now (List.range d.engine.actors.length)
    have hrest := hinterval.trans (ih _)
    rw [Engine.intervals, Engine.interval, Engine.Step.andThen, Engine.found_wakeAll]
    exact hrest

theorem reaches_elapse (d : Daemon) (now : Instant) (since nanos : Nat) :
    d.Reaches
      ({ d with engine := (d.engine.elapse now since nanos).engine },
        (d.engine.elapse now since nanos).logs) := by
  unfold Engine.elapse
  exact d.reaches_intervals now _

theorem reaches_pass (d : Daemon) (now : Instant) (nanos : Nat) :
    d.Reaches (d.pass now nanos) :=
  ((d.reaches_step (.elapse nanos)).trans (reaches_elapse _ now d.age nanos)).trans
    (reaches_step _ .settle)

theorem reaches_awaitStop (d : Daemon) (now : Instant) : d.Reaches (d.awaitStop now) := by
  unfold awaitStop
  split
  · rename_i taken _
    exact (d.reaches_wakeAll now taken).trans (reaches_step _ .settle)
  · exact .refl d

theorem reaches_beat (d : Daemon) : d.Reaches d.beat :=
  (d.reaches_step .tick).trans (reaches_step _ .look)

theorem reaches_seeStop (d : Daemon) (now : Instant) : d.Reaches (d.seeStop now) :=
  (d.reaches_step .obey).trans (reaches_awaitStop _ now)

theorem reaches_interval (d : Daemon) (now : Instant) : d.Reaches (d.interval now) := by
  unfold interval
  exact ((d.reaches_pass now _).trans (reaches_beat _)).trans (reaches_pass _ now _)

theorem reaches_requestStop (d : Daemon) : d.Reaches (d.requestStop, []) :=
  (d.reaches_step .clearFlag).trans (reaches_step _ .notify)

theorem reaches_hear (d : Daemon) (heard : Except AlarmError Signal) :
    d.Reaches (d.hear heard) := by
  unfold hear
  split
  · have hstop := (d.reaches_step (.announce heard)).trans (reaches_requestStop _)
    rw [List.append_nil] at hstop
    exact hstop
  · exact .refl d

theorem reaches_run {d : Daemon} {now : Instant} {s : Daemon × List LogLine}
    (hidle : d.phase = .idle) (h : d.run now = .ok s) : d.Reaches s := by
  unfold run at h
  cases hbegin : d.begin with
  | error refusal =>
    rw [hbegin] at h
    cases h
  | ok begun =>
    have hbegun : d.step (.begin true) = begun := by simp [step, hidle, hbegin]
    rw [hbegin] at h
    cases h
    rw [← hbegun]
    exact (((d.reaches_step (.begin true)).trans (reaches_step _ .look)).trans
      (reaches_beat _)).trans (reaches_awaitStop _ now)

/-- What is true behind all moves is true behind all calls, and what is logged in moves is all that
is logged in calls: the beginning of a run up to its first heartbeat, a heartbeat interval, a stop
that is seen, a request for one, and what the listener hears. -/
theorem reaches_call (d : Daemon) (now : Instant) :
    (d.phase = .idle → ∀ s, d.run now = .ok s → d.Reaches s) ∧
    d.Reaches (d.interval now) ∧ d.Reaches (d.seeStop now) ∧ d.Reaches (d.requestStop, []) ∧
    ∀ heard, d.Reaches (d.hear heard) :=
  ⟨fun hidle _ => reaches_run hidle, d.reaches_interval now, d.reaches_seeStop now,
    d.reaches_requestStop, d.reaches_hear⟩

/-! ## The law -/

/-- The heartbeat with the number `n` is logged by a run that waits, when the time for one has come,
and by nobody else; and `n` is the number of alarms that a store has. -/
def Reports (store : AlarmStore) (d : Daemon) : Prop :=
  ∀ event n, .info (heartbeatText n) ∈ (d.step event).2 ↔
    event = .tick ∧ d.phase = .waiting ∧ n = store.count

theorem reports (d : Daemon) {store : AlarmStore} (h : d.engine.count = store.count) :
    Reports store d := by
  intro event n
  rw [← h]
  exact heartbeat_mem_iff

/-- If the engine cannot be started, that is what the run comes to, and all stays as it is. -/
structure Refuses (d : Daemon) (inRuntime : Bool) (refusal : Engine.StartRefusal) : Prop where
  result : d.begin inRuntime = .error refusal
  run : inRuntime = true → ∀ now, d.run now = .error refusal
  unchanged : d.step (.begin inRuntime) = (d, [])

theorem refuses_iff (d : Daemon) (inRuntime : Bool) (refusal : Engine.StartRefusal) :
    d.Refuses inRuntime refusal ↔ d.engine.start inRuntime = .error refusal := by
  have hbegin := d.begin_eq inRuntime
  constructor
  · rintro ⟨hresult, -, -⟩
    rw [hresult] at hbegin
    cases hstart : d.engine.start inRuntime with
    | error _ =>
      rw [hstart] at hbegin
      cases hbegin
      rfl
    | ok _ =>
      rw [hstart] at hbegin
      cases hbegin
  · intro hstart
    rw [hstart] at hbegin
    refine ⟨hbegin, ?_, ?_⟩
    · rintro rfl now
      rw [Daemon.run, hbegin]
      rfl
    · simp only [step, hbegin, Except.map]
      cases d.phase <;> rfl

theorem sound_idle {settings : EngineSettings} {attached : Attached} {e : Engine}
    (built : Engine.build settings attached = .ok e) (turns : List Engine.Turn)
    (heartbeat : Duration) : ({ engine := e.afterTurns turns, heartbeat } : Daemon).Sound :=
  ⟨(Engine.living built turns).accounted, nofun, nofun⟩

/-- **A run counts the alarms at each heartbeat, and leaves nobody alive.** Whatever a built engine
went through, whether it runs or not, and in whatever order calls of the run, its moves, wake-ups,
events, requests for a stop and signals come: each line that reads as a heartbeat is logged by a run
that waits, and the number that it tells is that of the active alarms and no other; the engine runs
meanwhile. Once the flag is cleared there is at most one more heartbeat, and none unless the run was
waiting by then; the run leaves its loop, and returns when the actors have had their time. When it
has returned, with an error or without, the flag is cleared, the engine does not run, and none of
its actors is alive. If the engine cannot be started, that is the result of the run, and all stays
as it is. -/
theorem heartbeats_until_the_end {settings : EngineSettings} {attached : Attached} {e : Engine}
    (built : Engine.build settings attached = .ok e) (turns : List Engine.Turn)
    (heartbeat : Duration) (events : List Event) :
    let unbegun : Daemon := { engine := e.afterTurns turns, heartbeat }
    let d := unbegun.after events
    Reports (stock unbegun.engine.store events) d ∧
    (d.phase.isUp = true → d.engine.running = true) ∧
    (d.flag = false → ∀ later, (d.chronicle later).countP beats ≤ d.phase.isWaiting.toNat) ∧
    (d.flag = false → d.phase.isUnderWay = true →
      ∀ now, ∃ result, (d.after (d.windDown now)).phase = .returned result) ∧
    (∀ result, d.phase = .returned result →
      d.flag = false ∧ d.engine.running = false ∧ d.engine.isManned = false) ∧
    ∀ inRuntime refusal,
      d.Refuses inRuntime refusal ↔ d.engine.start inRuntime = .error refusal := by
  intro unbegun d
  have hsound : d.Sound := (sound_idle built turns heartbeat).after events
  have hcount : d.engine.count = (stock unbegun.engine.store events).count :=
    AlarmStore.count_of_unmarked (unbegun.unmarked_after events)
  exact ⟨d.reports hcount, hsound.up, countP_beats_le, hsound.returns, fun _ => hsound.returned,
    d.refuses_iff⟩

/-- An actor panics at an alarm whose deadline lies behind the end of all times. Then the flag is
cleared while the run waits, so one more heartbeat is logged, and the run returns with an error. -/
def lateHeartbeat : List Event :=
  [.begin true, .look, .tick, .look,
    .ingest ⟨"PV1", "MAJOR", "HIHI", .ofSecond maxSeconds, false, false⟩,
    .wake 0 (.ofSecond maxSeconds), .clearFlag, .tick, .look, .settle]

theorem heartbeats_until_the_end_late :
    let unbegun : Daemon := { engine := Engine.desk.afterTurns [], heartbeat := .ofSeconds 60 }
    let d := unbegun.after lateHeartbeat
    Engine.build Engine.desk.settings Engine.desk.attached = .ok Engine.desk ∧
    ((unbegun.chronicle lateHeartbeat).filter beats).map (fun m => m.before.engine.count) = [0, 1] ∧
    ((unbegun.chronicle lateHeartbeat).filter beats).flatMap (fun m => (m.before.step m.event).2) =
      [.info "No alarms active.", .info "Number of active alarms: 1"] ∧
    d.phase.hasFailed = true ∧
    d.flag = false ∧ d.engine.running = false ∧ d.engine.isManned = false := by
  have built : Engine.build Engine.desk.settings Engine.desk.attached = .ok Engine.desk := by decide
  obtain ⟨-, -, -, -, hreturned, -⟩ :=
    heartbeats_until_the_end built [] (.ofSeconds 60) lateHeartbeat
  have hfailed : (after { engine := Engine.desk.afterTurns [], heartbeat := .ofSeconds 60 }
      lateHeartbeat).phase.hasFailed = true := by decide
  obtain ⟨failure, hphase⟩ := (Phase.hasFailed_iff _).mp hfailed
  exact ⟨built, by decide, by decide, hfailed, hreturned _ hphase⟩

end Daemon

end AlarmEscalation
