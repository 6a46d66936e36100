import AlarmEscalation.Proofs.Engine.Run
import AlarmEscalation.Proofs.Store.Seen

/-! # Runs in which the actors are at work

Between the actions that come from outside, the actors of a started engine wake up by themselves. A
wake-up is a poll of the actor's kind, or comes to nothing; besides, it may be the end of the actor.
`Woken` lists these cases, so what polls keep is kept when the actors poll, too. -/
namespace AlarmEscalation.Engine

/-- A turn in the life of an engine: an action from outside, or an actor that wakes up. -/
inductive Turn where
  | action (a : Action)
  | wake (n : Nat) (now : Instant) (fate : Call → CallOutcome) (order : ScanOrder := .ascending)

/-- The event that a turn brings. -/
def Turn.event? : Turn → Option AlarmRecord
  | .action (.ingest event) => some event
  | _ => none

theorem Turn.eq_of_event? {t : Turn} {event : AlarmRecord} (h : t.event? = some event) :
    t = .action (.ingest event) := by
  unfold Turn.event? at h
  split at h
  · cases h
    rfl
  · cases h

def take (e : Engine) : Turn → Step Unit
  | .action a => (e.act a).map fun _ => ()
  | .wake n now fate order => (e.wake n now order).reported fate

/-- The engine after several turns, the earliest first. -/
def afterTurns (e : Engine) (turns : List Turn) : Engine :=
  turns.foldl (fun e t => (e.take t).engine) e

theorem afterTurns_concat (e : Engine) (turns : List Turn) (t : Turn) :
    e.afterTurns (turns ++ [t]) = ((e.afterTurns turns).take t).engine := by
  rw [afterTurns, List.foldl_append]; rfl

/-- What a new engine has, and every allowed turn hands on, holds whatever turns are taken. -/
theorem turns_induction {J : Engine → Prop} {allowed : Turn → Prop} {e : Engine} (base : J e)
    (step : ∀ e t, allowed t → J e → J (e.take t).engine) {turns : List Turn}
    (h : ∀ t ∈ turns, allowed t) : J (e.afterTurns turns) := by
  induction turns using List.reverseRecOn with
  | nil => exact base
  | append_singleton turns t ih =>
    rw [afterTurns_concat]
    exact step _ t (h t (by simp)) (ih fun u hu => h u (by simp [hu]))

/-! ## The poll of an actor -/

theorem Step.andThen_done {α β : Type} (s : Step α) (b : β) :
    (s.andThen fun e _ => .done e b) = s.map fun _ => b := by
  unfold Step.andThen Step.map
  cases s.found <;> simp [Step.done, Except.map]

/-- The poll of an actor, as an action. -/
def Action.poll (now : Instant) (fate : Call → CallOutcome) (order : ScanOrder) :
    ActorKind → Action
  | .notification => .pollNotifications now fate order
  | .flashlight => .pollFlashlight now fate

theorem pollAs_eq (e : Engine) (kind : ActorKind) (now : Instant) (fate : Call → CallOutcome)
    (order : ScanOrder) :
    (e.pollAs kind now order).engine = (e.act (.poll now fate order kind)).engine ∧
      (e.pollAs kind now order).calls = (e.act (.poll now fate order kind)).calls := by
  cases kind <;> simp only [pollAs, Step.andThen_done] <;> exact ⟨rfl, rfl⟩

/-- The ways in which a wake-up goes. -/
inductive Woken (e : Engine) (n : Nat) (now : Instant) (order : ScanOrder) : Step Unit → Prop
  | idle : Woken e n now order (.done e ())
  | exited : e.running = false → Woken e n now order (.done (e.endActor n .exited) ())
  | polled {actor : Actor} : e.running = true → e.actors[n]? = some actor →
      actor.isAlive = true → (e.pollAs actor.kind now order).found = .ok () →
      Woken e n now order (e.pollAs actor.kind now order)
  | panicked {actor : Actor} {fault : Fault} : e.running = true → e.actors[n]? = some actor →
      actor.isAlive = true → (e.pollAs actor.kind now order).found = .error fault →
      Woken e n now order
        { e.pollAs actor.kind now order with
          engine := (e.pollAs actor.kind now order).engine.endActor n (.panicked fault.message)
          found := .ok () }

theorem woken (e : Engine) (n : Nat) (now : Instant) (order : ScanOrder) :
    e.Woken n now order (e.wake n now order) := by
  unfold wake
  split
  · exact .idle
  · rename_i actor hactor
    split
    · exact .idle
    · rename_i halive
      have halive : actor.isAlive = true := by simpa using halive
      split
      · rename_i hstop
        exact .exited (by simpa using hstop)
      · rename_i hrun
        have hrun : e.running = true := by simpa using hrun
        dsimp only
        split
        · rename_i hfound
          exact .polled hrun hactor halive hfound
        · rename_i fault hfound
          exact .panicked hrun hactor halive hfound

/-- A fault ends the actor that wakes up, not what is done after it. -/
theorem found_wake (e : Engine) (n : Nat) (now : Instant) (order : ScanOrder) :
    (e.wake n now order).found = .ok () := by
  have hwoken := e.woken n now order
  generalize e.wake n now order = s at hwoken
  cases hwoken with
  | polled _ _ _ hfound => exact hfound
  | idle | exited | panicked => rfl

theorem wakeAll_cons_engine (e : Engine) (now : Instant) (n : Nat) (rest : List Nat) :
    (e.wakeAll now (n :: rest)).engine = ((e.wake n now).engine.wakeAll now rest).engine :=
  Step.andThen_engine_of_ok (e.found_wake n now .ascending) _

theorem wakeAll_cons_logs (e : Engine) (now : Instant) (n : Nat) (rest : List Nat) :
    (e.wakeAll now (n :: rest)).logs =
      (e.wake n now).logs ++ ((e.wake n now).engine.wakeAll now rest).logs := by
  rw [wakeAll, Step.andThen, e.found_wake n now .ascending]

theorem found_wakeAll (e : Engine) (now : Instant) (ns : List Nat) :
    (e.wakeAll now ns).found = .ok () := by
  induction ns generalizing e with
  | nil => rfl
  | cons n rest ih =>
    rw [wakeAll, Step.andThen, e.found_wake n now .ascending]
    exact ih (e.wake n now).engine

theorem endActor_engine (e : Engine) (n : Nat) (ending : ActorEnd) :
    ∃ actors, e.endActor n ending = { e with actors } := ⟨_, rfl⟩

/-- But for the actors, a wake-up is a poll of one kind or nothing at all. -/
theorem wake_cases (e : Engine) (n : Nat) (now : Instant) (fate : Call → CallOutcome)
    (order : ScanOrder) :
    (∃ actors, (e.wake n now order).engine = { e with actors } ∧
      (e.wake n now order).calls = []) ∨
    ∃ kind actors,
      (e.wake n now order).engine = { (e.act (.poll now fate order kind)).engine with actors } ∧
        (e.wake n now order).calls = (e.act (.poll now fate order kind)).calls := by
  have hwoken := e.woken n now order
  generalize e.wake n now order = s at hwoken
  cases hwoken with
  | idle => exact .inl ⟨_, rfl, rfl⟩
  | exited => exact .inl ⟨_, rfl, rfl⟩
  | @polled actor =>
    obtain ⟨hengine, hcalls⟩ := e.pollAs_eq actor.kind now fate order
    exact .inr
      ⟨actor.kind, (e.act (.poll now fate order actor.kind)).engine.actors, hengine, hcalls⟩
  | @panicked actor fault =>
    obtain ⟨hengine, hcalls⟩ := e.pollAs_eq actor.kind now fate order
    obtain ⟨actors, hended⟩ := endActor_engine (e.act (.poll now fate order actor.kind)).engine n
      (.panicked fault.message)
    refine .inr ⟨actor.kind, actors, ?_, hcalls⟩
    rw [← hended, ← hengine]

/-! ## What only an event changes -/

/-- The same alarms, whatever has been marked, and the same count for subscribers to see. -/
structure SameAlarms (e after : Engine) : Prop where
  alarms : after.store.unmarked = e.store.unmarked
  published : after.published = e.published
  publications : after.publications = e.publications

theorem act_sameAlarms {e : Engine} {a : Action} (h : ∀ event, a ≠ .ingest event) :
    e.SameAlarms (e.act a).engine := by
  have hmoved := e.moved a
  generalize (e.act a).engine = after at hmoved
  cases hmoved with
  | ingested event => exact absurd rfl (h event)
  | polled now fate order hpolled =>
    have halarms : after.store.unmarked = e.store.unmarked :=
      AlarmStore.unmarked_of_marked hpolled.oldest hpolled.records
    obtain ⟨⟨_, _, _, rfl⟩, -, -⟩ := hpolled
    exact ⟨halarms, rfl, rfl⟩
  | lit | started | stopped => exact ⟨rfl, rfl, rfl⟩

theorem wake_sameAlarms (e : Engine) (n : Nat) (now : Instant) (order : ScanOrder) :
    e.SameAlarms (e.wake n now order).engine := by
  rcases e.wake_cases n now (fun _ => .done) order with
    ⟨actors, hengine, -⟩ | ⟨kind, actors, hengine, -⟩
  · rw [hengine]
    exact ⟨rfl, rfl, rfl⟩
  · have hpoll : ∀ event, Action.poll now (fun _ => .done) order kind ≠ .ingest event := by
      intro event
      cases kind <;> exact Action.noConfusion
    have hsame := act_sameAlarms (e := e) hpoll
    rw [hengine]
    exact ⟨hsame.alarms, hsame.published, hsame.publications⟩

theorem take_sameAlarms {e : Engine} {t : Turn} (h : ∀ event, t ≠ .action (.ingest event)) :
    e.SameAlarms (e.take t).engine := by
  cases t with
  | action a => exact act_sameAlarms (a := a) fun event ha => h event (ha ▸ rfl)
  | wake n now fate order => exact e.wake_sameAlarms n now order

/-! ## The actors of an engine -/

variable {Q : Actor → Prop} {e : Engine}

theorem actors_endActor (h : ∀ a ∈ e.actors, Q a) {ending : ActorEnd}
    (ended : ∀ a, Q a → Q { a with ending := some ending }) (n : Nat) :
    ∀ a ∈ (e.endActor n ending).actors, Q a := by
  intro a ha
  obtain ⟨i, hi⟩ := List.mem_iff_getElem?.mp ha
  simp only [endActor, List.getElem?_modify] at hi
  obtain ⟨b, hb, rfl⟩ := Option.map_eq_some_iff.mp hi
  have hq := h b (List.mem_of_getElem? hb)
  split
  · exact ended b hq
  · exact hq

theorem actors_wakeAll_of_stopped (hstop : e.running = false) (h : ∀ a ∈ e.actors, Q a)
    (exited : ∀ a, Q a → Q { a with ending := some .exited }) (now : Instant) (ns : List Nat) :
    ∀ a ∈ (e.wakeAll now ns).engine.actors, Q a := by
  induction ns generalizing e with
  | nil => exact h
  | cons n rest ih =>
    have hwoken := e.woken n now .ascending
    unfold wakeAll
    generalize e.wake n now = s at hwoken
    cases hwoken with
    | idle => exact ih hstop h
    | exited => exact ih hstop (actors_endActor h exited n)
    | polled hrun | panicked hrun =>
      rw [hstop] at hrun
      cases hrun

/-- The actors behind an action: new ones of the role, and those from before, of which some may have
exited. -/
theorem actors_act (h : ∀ a ∈ e.actors, Q a)
    (started : ∀ kind ∈ actorKinds e.settings.role, Q { kind })
    (exited : ∀ a, Q a → Q { a with ending := some .exited }) (a : Action) :
    ∀ b ∈ (e.act a).engine.actors, Q b := by
  cases a with
  | ingest event =>
    obtain ⟨published, publications, hingest⟩ := e.ingest_engine event
    rw [show (e.act (.ingest event)).engine = _ from hingest]
    exact h
  | pollNotifications now fate order =>
    obtain ⟨_, _, _, hpolled⟩ := (e.pollNotifications_within now order).engine.rest
    rw [show (e.act (.pollNotifications now fate order)).engine = _ from hpolled]
    exact h
  | pollFlashlight now fate =>
    obtain ⟨on, hlit⟩ := (e.pollFlashlight_within now).engine
    rw [show (e.act (.pollFlashlight now fate)).engine = _ from hlit]
    exact h
  | start inRuntime =>
    simp only [act, start]
    split
    · exact h
    · rename_i hstart
      split at hstart
      · cases hstart
      · split at hstart
        · cases hstart
        · cases hstart
          intro b hb
          rcases List.mem_append.mp hb with hb | hb
          · exact h b hb
          · obtain ⟨kind, hkind, rfl⟩ := List.mem_map.mp hb
            exact started kind hkind
  | shutdown now =>
    have hstopped : e.beginShutdown.2.running = false := rfl
    exact actors_wakeAll_of_stopped hstopped h exited now e.held

/-- What a new actor of the role has and no ending takes from it, all actors have. -/
theorem actors_take (h : ∀ a ∈ e.actors, Q a)
    (started : ∀ kind ∈ actorKinds e.settings.role, Q { kind })
    (ended : ∀ a ending, Q a → Q { a with ending := some ending }) (t : Turn) :
    ∀ b ∈ (e.take t).engine.actors, Q b := by
  have exited : ∀ a, Q a → Q { a with ending := some .exited } := fun a => ended a .exited
  cases t with
  | action a => exact actors_act h started exited a
  | wake n now fate order =>
    change ∀ b ∈ (e.wake n now order).engine.actors, Q b
    have hwoken := e.woken n now order
    have hpoll : ∀ kind, ∀ b ∈ (e.pollAs kind now order).engine.actors, Q b := by
      intro kind
      rw [(e.pollAs_eq kind now fate order).1]
      exact actors_act h started exited _
    generalize e.wake n now order = s at hwoken
    cases hwoken with
    | idle => exact h
    | exited => exact actors_endActor h exited n
    | polled => exact hpoll _
    | panicked => exact actors_endActor (hpoll _) (fun a => ended a _) n

end AlarmEscalation.Engine
