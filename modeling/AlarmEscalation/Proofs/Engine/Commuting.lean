import AlarmEscalation.Proofs.Engine.Frame

/-! # The order of two polls does not matter

Both actors of a server wake up at the same moments, and nothing says which of them polls first. The
poll for notifications neither looks at the light that an engine remembers nor changes it; the poll
for the flashlight looks at no mark, and changes nothing but the light. So each of them finds and
does the same whether it comes before the other one or behind it, and this is so for polls that are
broken off, too. -/
namespace AlarmEscalation

/-- Whether an episode has lasted for a timeout is told without its records. -/
theorem AlarmStore.episodeElapsed_congr {s t : AlarmStore} (holdest : t.oldest = s.oldest)
    (hempty : t.isEmpty = s.isEmpty) (now : Instant) (timeout : Span) :
    t.episodeElapsed now timeout = s.episodeElapsed now timeout := by
  rw [episodeElapsed, episodeElapsed, holdest, hempty]

namespace Engine

variable {e : Engine} {on : Bool} {now : Instant} {order : ScanOrder}

/-! ## A poll for notifications does not look at the light -/

/-- The engine that remembers the light so, and everything else as it does. -/
def setLight (e : Engine) (on : Bool) : Engine := { e with flashlightOn := on }

namespace Step

variable {α β : Type}

/-- The same step, made by the engine that remembers the light so. -/
def setLight (s : Step α) (on : Bool) : Step α := { s with engine := s.engine.setLight on }

theorem andThen_setLight {s : Step α} {next : Engine → α → Step β}
    (hnext : ∀ e a, next (e.setLight on) a = (next e a).setLight on) :
    (s.setLight on).andThen next = (s.andThen next).setLight on := by
  unfold andThen
  have hfound : (s.setLight on).found = s.found := rfl
  rw [hfound]
  cases s.found with
  | error fault => rfl
  | ok a =>
    have hengine : (s.setLight on).engine = s.engine.setLight on := rfl
    simp only [hengine, hnext]
    rfl

end Step

theorem gate_setLight (e : Engine) (on : Bool) (timeout : UInt32) (now : Instant) :
    (e.setLight on).gate timeout now = (e.gate timeout now).setLight on := by
  unfold gate
  rw [apply_ite (Step.setLight · on)]
  cases helapsed : e.store.episodeElapsed now (timeoutSpan timeout) with
  | error fault =>
    have helapsed' : (e.setLight on).store.episodeElapsed now (timeoutSpan timeout) = _ := helapsed
    rw [helapsed']
    rfl
  | ok elapsed =>
    have helapsed' : (e.setLight on).store.episodeElapsed now (timeoutSpan timeout) = _ := helapsed
    rw [helapsed']
    rfl

theorem handOutDesktop_setLight (e : Engine) (on : Bool) (now : Instant) :
    (e.setLight on).handOutDesktop now order = (e.handOutDesktop now order).setLight on := by
  unfold handOutDesktop
  rw [apply_ite (Step.setLight · on)]
  dsimp only [setLight]
  cases (e.store.desktopBatch now (timeoutSpan e.settings.desktop) order).1 <;> rfl

theorem raiseAlert_setLight (e : Engine) (on : Bool) :
    (e.setLight on).raiseAlert = e.raiseAlert.setLight on := by
  unfold raiseAlert
  rw [apply_ite (Step.setLight · on)]
  rfl

theorem handOutEmail_setLight (e : Engine) (on : Bool) :
    (e.setLight on).handOutEmail = e.handOutEmail.setLight on := by
  unfold handOutEmail
  rw [apply_ite (Step.setLight · on)]
  rfl

theorem pollDesktop_setLight (e : Engine) (on : Bool) (now : Instant) :
    (e.setLight on).pollDesktop now order = (e.pollDesktop now order).setLight on := by
  unfold pollDesktop
  rw [show (e.setLight on).settings = e.settings from rfl, gate_setLight]
  refine Step.andThen_setLight fun e elapsed => ?_
  rw [apply_ite (Step.setLight · on), handOutDesktop_setLight]
  congr 1
  refine Step.andThen_setLight fun e batch => ?_
  rw [raiseAlert_setLight]
  exact Step.andThen_setLight fun e _ => rfl

theorem pollEmail_setLight (e : Engine) (on : Bool) (now : Instant) :
    (e.setLight on).pollEmail now = (e.pollEmail now).setLight on := by
  unfold pollEmail
  rw [show (e.setLight on).settings = e.settings from rfl, apply_ite (Step.setLight · on),
    gate_setLight]
  congr 1
  refine Step.andThen_setLight fun e elapsed => ?_
  rw [apply_ite (Step.setLight · on), handOutEmail_setLight]
  rfl

theorem pollEmpty_setLight (e : Engine) (on : Bool) :
    (e.setLight on).pollEmpty = e.pollEmpty.setLight on := by
  unfold pollEmpty
  rw [apply_ite (Step.setLight · on)]
  rfl

theorem pollActive_setLight (e : Engine) (on : Bool) (now : Instant) :
    (e.setLight on).pollActive now order = (e.pollActive now order).setLight on := by
  unfold pollActive
  have hseen : ({ e.setLight on with alarmSeen := true } : Engine) =
      setLight { e with alarmSeen := true } on := rfl
  rw [hseen, pollDesktop_setLight]
  refine Step.andThen_setLight fun e desktop => ?_
  rw [pollEmail_setLight]
  exact Step.andThen_setLight fun e email => rfl

theorem pollNotifications_setLight (e : Engine) (on : Bool) (now : Instant) :
    (e.setLight on).pollNotifications now order = (e.pollNotifications now order).setLight on := by
  unfold pollNotifications
  rw [apply_ite (Step.setLight · on), ← pollEmpty_setLight, ← pollActive_setLight]
  rfl

/-! ## A poll for the flashlight looks at no mark -/

/-- The same step, made by another engine: what it does to the light is done to that one. -/
def Step.madeBy {α : Type} (s : Step α) (after : Engine) : Step α :=
  { s with engine := after.setLight s.engine.flashlightOn }

theorem gate_found (e : Engine) (timeout : UInt32) (now : Instant) :
    (∃ elapsed, e.gate timeout now = .done e elapsed) ∨
      ∃ fault, e.gate timeout now = .broken e fault := by
  unfold gate
  split
  · exact .inl ⟨false, rfl⟩
  · split
    · rename_i fault _
      exact .inr ⟨fault, rfl⟩
    · rename_i elapsed _
      exact .inl ⟨elapsed, rfl⟩

theorem Polled.gate {after : Engine} (h : Polled e after) (timeout : UInt32) (now : Instant) :
    after.gate timeout now = (e.gate timeout now).madeBy after := by
  have helapsed := AlarmStore.episodeElapsed_congr h.oldest h.isEmpty now (timeoutSpan timeout)
  have hsame : after.setLight e.flashlightOn = after := by
    rw [← h.flashlightOn]
    rfl
  unfold Engine.gate
  rw [helapsed]
  split
  · exact congrArg (Step.done · false) hsame.symm
  · cases e.store.episodeElapsed now (timeoutSpan timeout) with
    | error fault => exact congrArg (Step.broken · fault) hsame.symm
    | ok elapsed => exact congrArg (Step.done · elapsed) hsame.symm

/-- Marks and what is remembered of alarms and alert make no difference to the light. -/
theorem Polled.pollFlashlight {after : Engine} (h : Polled e after) (now : Instant) :
    after.pollFlashlight now = (e.pollFlashlight now).madeBy after := by
  have hsame : after.setLight e.flashlightOn = after := by
    rw [← h.flashlightOn]
    rfl
  have hidle : Step.done after (none : Option FlashlightAction) = (Step.done e none).madeBy after :=
    congrArg (Step.done · none) hsame.symm
  unfold Engine.pollFlashlight
  rw [h.settings, h.attached, h.flashlightOn]
  split
  · exact hidle
  · split
    · unfold lightDown
      rw [h.isEmpty]
      split
      · rfl
      · exact hidle
    · unfold lightUp
      rw [h.settings, h.gate]
      rcases e.gate_found e.settings.laboratory now with ⟨elapsed, hgate⟩ | ⟨fault, hgate⟩
      · rw [hgate]
        cases elapsed <;> rfl
      · rw [hgate]
        rfl

/-! ## Both polls -/

/-- What comes of a poll for notifications and a poll for the flashlight: the engine that they leave
behind, what each of them finds, a fault included, and the calls that each collaborator gets. -/
structure BothPolls where
  engine : Engine
  tick : Except Fault NotificationTick
  action : Except Fault (Option FlashlightAction)
  calls : Channel → List Call

def notificationsFirst (e : Engine) (now : Instant) (order : ScanOrder) : BothPolls :=
  let notifications := e.pollNotifications now order
  let flashlight := notifications.engine.pollFlashlight now
  { engine := flashlight.engine
    tick := notifications.found
    action := flashlight.found
    calls := fun c => (notifications.calls ++ flashlight.calls).filter (·.channel = c) }

def flashlightFirst (e : Engine) (now : Instant) (order : ScanOrder) : BothPolls :=
  let flashlight := e.pollFlashlight now
  let notifications := flashlight.engine.pollNotifications now order
  { engine := notifications.engine
    tick := notifications.found
    action := flashlight.found
    calls := fun c => (flashlight.calls ++ notifications.calls).filter (·.channel = c) }

theorem Lit.eq_setLight {after : Engine} (h : Lit e after) :
    after = e.setLight after.flashlightOn := by
  obtain ⟨lit, rfl⟩ := h
  rfl

/-- Calls of which some go to the relay and the others to anything but the relay, seen from one
collaborator: it gets some of either these or those. -/
theorem filter_calls_comm {notifications flashlight : List Call}
    (hnotifies : ∀ c ∈ notifications, Notifies c)
    (hrelay : ∀ c ∈ flashlight, c.channel = .relay) (channel : Channel) :
    (notifications ++ flashlight).filter (·.channel = channel) =
      (flashlight ++ notifications).filter (·.channel = channel) := by
  rw [List.filter_append, List.filter_append]
  by_cases hchannel : channel = .relay
  · have hnone : notifications.filter (·.channel = channel) = [] := by
      refine List.filter_eq_nil_iff.mpr fun c hc => ?_
      have hne : c.channel ≠ .relay := hnotifies c hc
      simpa [hchannel] using hne
    rw [hnone, List.nil_append, List.append_nil]
  · have hnone : flashlight.filter (·.channel = channel) = [] := by
      refine List.filter_eq_nil_iff.mpr fun c hc => ?_
      simpa [hrelay c hc] using Ne.symm hchannel
    rw [hnone, List.nil_append, List.append_nil]

/-- **The two polls of a wake-up commute.** Whichever of them comes first, they leave the same
engine behind, with its records, marks and flags, find the same, and each collaborator gets the same
calls in the same order. A poll that a time out of range breaks off is no exception, in whatever
order it comes by the alarms: neither is the other poll different for it, nor what the broken poll
had done by then. -/
theorem polls_commute (e : Engine) (now : Instant) (order : ScanOrder) :
    e.notificationsFirst now order = e.flashlightFirst now order := by
  have hpolled := e.pollNotifications_within now order
  have hlit := e.pollFlashlight_within now
  have hlight := hlit.engine.eq_setLight
  unfold notificationsFirst flashlightFirst
  dsimp only
  rw [hpolled.engine.pollFlashlight, hlight, pollNotifications_setLight]
  congr 1
  funext channel
  exact filter_calls_comm hpolled.calls hlit.calls channel

end Engine

end AlarmEscalation
