import AlarmEscalation.Session
import AlarmEscalation.Proofs.Engine.Crew
import AlarmEscalation.Proofs.Occurrence
import AlarmEscalation.Proofs.OpenCalls

/-! # Calls of a session that overlap

A call that switches a session off waits for the actors of the engine, and other calls come and go
meanwhile. Here every call is cut where others can come between: behind the look of `toggle`, before
the actors have come to their end, and before the front end is told. `SharedSession.went` lists what
one event can do to the session and to what the front end is told and is still to be told. -/
namespace AlarmEscalation

/-- What a notice tells about the switch. -/
def Notice.toggled? : Notice → Option Bool
  | .toggled on => some on
  | .changed _ => none

theorem Session.enable_cases (s : Session) (built : Except AlarmError Engine) :
    (s.enable built).session = s ∧ (s.enable built).notices = [] ∨
      s.isEnabled = false ∧ (s.enable built).session.isEnabled = true ∧
        (s.enable built).notices = [.toggled true] := by
  unfold Session.enable
  split
  · exact .inl ⟨rfl, rfl⟩
  · rename_i hoff
    split
    · exact .inl ⟨rfl, rfl⟩
    · split
      · exact .inl ⟨rfl, rfl⟩
      · exact .inr ⟨by simpa using hoff, rfl, rfl⟩

theorem Session.afterShutdown_eq (s : Session) (shutdown : Except AlarmError Unit) :
    (s.afterShutdown shutdown).session = s ∧
      (s.afterShutdown shutdown).notices = if shutdown.isOk then [.toggled false] else [] := by
  cases shutdown <;> exact ⟨rfl, rfl⟩

/-- A call that has not returned. -/
inductive OpenCall where
  /-- It has looked whether the session is on, and will switch it over. -/
  | toggling (enabled : Bool)
  /-- It has taken the engine out of the session and waits for its actors. -/
  | stopping (engine : Engine) (taken : List Nat)
  /-- It will tell the front end what it has done. -/
  | telling (on : Bool)
deriving DecidableEq

namespace OpenCall

def tells? : OpenCall → Option Bool
  | .telling on => some on
  | .stopping _ _ | .toggling _ => none

/-- What a call that has switched the session owes to the front end. -/
def owes? : OpenCall → Option Bool
  | .telling on => some on
  | .stopping _ _ => some false
  | .toggling _ => none

/-- An actor wakes up whose engine is shutting down. -/
def wake (n : Nat) (now : Instant) (order : ScanOrder := .ascending) : OpenCall → OpenCall
  | .stopping e taken => .stopping (e.wake n now order).engine taken
  | call => call

end OpenCall

/-- A session, the calls that have not returned, and what the front end was told. -/
structure SharedSession where
  session : Session := {}
  calls : List OpenCall := []
  told : List Bool := []

namespace SharedSession

/-- What happens. Whoever switches on comes with what the factory built. -/
inductive Event where
  | enable (built : Except AlarmError Engine)
  | disable
  | toggle
  /-- A call that has not returned goes on. -/
  | resume (call : Nat) (built : Except AlarmError Engine)
  | ingest (event : AlarmRecord)
  /-- An actor of the session's engine wakes up. -/
  | wake (n : Nat) (now : Instant) (order : ScanOrder := .ascending)
  /-- An actor wakes up that a call waits for. -/
  | wakeStopping (call n : Nat) (now : Instant) (order : ScanOrder := .ascending)

/-- The calls that are left with telling what an effect has for the front end. -/
def telling {α : Type} (effect : Session.Effect α) : List OpenCall :=
  (effect.notices.filterMap Notice.toggled?).map .telling

def enable (s : SharedSession) (built : Except AlarmError Engine) : SharedSession :=
  let effect := s.session.enable built
  { s with session := effect.session, calls := s.calls ++ telling effect }

def disable (s : SharedSession) : SharedSession :=
  match s.session.takeEngine with
  | (none, session) => { s with session }
  | (some e, session) =>
    let (taken, e) := e.beginShutdown
    { s with session, calls := s.calls ++ [.stopping e taken] }

/-- A call is over. -/
def close (s : SharedSession) (call : Nat) : SharedSession :=
  { s with calls := s.calls.eraseIdx call }

def resume (s : SharedSession) (call : Nat) (built : Except AlarmError Engine) : SharedSession :=
  match s.calls[call]? with
  | none => s
  | some (.toggling true) => (s.close call).disable
  | some (.toggling false) => (s.close call).enable built
  | some (.stopping e taken) =>
    if taken.all e.hasEnded then
      let effect := s.session.afterShutdown (e.finishShutdown taken).1
      { s with session := effect.session, calls := (s.close call).calls ++ telling effect }
    else s
  | some (.telling on) => { s.close call with told := s.told ++ [on] }

def next (s : SharedSession) : Event → SharedSession
  | .enable built => s.enable built
  | .disable => s.disable
  | .toggle => { s with calls := s.calls ++ [.toggling s.session.isEnabled] }
  | .resume call built => s.resume call built
  | .ingest event => { s with session := s.session.ingest event }
  | .wake n now order =>
    { s with session := { engine := s.session.engine.map fun e => (e.wake n now order).engine } }
  | .wakeStopping call n now order => { s with calls := s.calls.modify call (.wake n now order) }

/-- What calls have only to tell the front end. -/
def tellings (s : SharedSession) : List Bool := s.calls.filterMap OpenCall.tells?

/-- What the front end is not told yet of the switches that were made. -/
def owed (s : SharedSession) : List Bool := s.calls.filterMap OpenCall.owes?

/-- A call ends because its engine has not shut down as it should. -/
def fails (m : Occurrence SharedSession Event) : Bool :=
  match m.event with
  | .resume call _ =>
    match m.before.calls[call]? with
    | some (.stopping e taken) => taken.all e.hasEnded && !(e.finishShutdown taken).1.isOk
    | _ => false
  | _ => false

/-! ## One event -/

/-- What can happen to a session and its front end, and whether an engine fails to shut down. In
which order the calls are open is of no account. -/
inductive Went (s t : SharedSession) : Bool → Prop
  | aside : t.session.isEnabled = s.session.isEnabled → t.told = s.told →
      t.owed.Perm s.owed → t.tellings.Perm s.tellings → Went s t false
  | on : s.session.isEnabled = false → t.session.isEnabled = true → t.told = s.told →
      t.owed.Perm (true :: s.owed) → t.tellings.Perm (true :: s.tellings) → Went s t false
  | off : s.session.isEnabled = true → t.session.isEnabled = false → t.told = s.told →
      t.owed.Perm (false :: s.owed) → t.tellings.Perm s.tellings → Went s t false
  | stopped : t.session.isEnabled = s.session.isEnabled → t.told = s.told →
      t.owed.Perm s.owed → t.tellings.Perm (false :: s.tellings) → Went s t false
  | failed : t.session.isEnabled = s.session.isEnabled → t.told = s.told →
      s.owed.Perm (false :: t.owed) → t.tellings.Perm s.tellings → Went s t true
  | told (on : Bool) : t.session.isEnabled = s.session.isEnabled → t.told = s.told ++ [on] →
      s.owed.Perm (on :: t.owed) → s.tellings.Perm (on :: t.tellings) → Went s t false

section One
variable {s t : SharedSession}

/-- What went before an event and changed nothing is left out. -/
theorem Went.congr {s' : SharedSession} {failed : Bool} (h : Went s' t failed)
    (hsession : s'.session = s.session) (htold : s'.told = s.told) (howed : s'.owed.Perm s.owed)
    (htellings : s'.tellings.Perm s.tellings) : Went s t failed := by
  cases h with
  | aside hon hsame howed' htellings' =>
    exact .aside (hsession ▸ hon) (htold ▸ hsame) (howed'.trans howed) (htellings'.trans htellings)
  | on hoff hon hsame howed' htellings' =>
    exact .on (hsession ▸ hoff) hon (htold ▸ hsame) (howed'.trans (howed.cons true))
      (htellings'.trans (htellings.cons true))
  | off hon hoff hsame howed' htellings' =>
    exact .off (hsession ▸ hon) hoff (htold ▸ hsame) (howed'.trans (howed.cons false))
      (htellings'.trans htellings)
  | stopped hon hsame howed' htellings' =>
    exact .stopped (hsession ▸ hon) (htold ▸ hsame) (howed'.trans howed)
      (htellings'.trans (htellings.cons false))
  | failed hon hsame howed' htellings' =>
    exact .failed (hsession ▸ hon) (htold ▸ hsame) (howed.symm.trans howed')
      (htellings'.trans htellings)
  | told on hon htells howed' htellings' =>
    exact .told on (hsession ▸ hon) (htold ▸ htells) (howed.symm.trans howed')
      (htellings.symm.trans htellings')

theorem enable_went (s : SharedSession) (built : Except AlarmError Engine) :
    Went s (s.enable built) false := by
  rcases s.session.enable_cases built with ⟨hsession, hnotices⟩ | ⟨hoff, hon, hnotices⟩
  · refine .aside (congrArg _ hsession) rfl ?_ ?_ <;>
      simp [owed, tellings, enable, telling, hnotices]
  · refine .on hoff hon rfl ?_ ?_ <;>
      simp [owed, tellings, enable, telling, hnotices, Notice.toggled?, OpenCall.owes?,
        OpenCall.tells?, List.perm_append_singleton]

theorem disable_went (s : SharedSession) : Went s s.disable false := by
  unfold disable Session.takeEngine
  cases hengine : s.session.engine with
  | none =>
    refine .aside ?_ rfl .rfl .rfl
    simp [Session.isEnabled, hengine]
  | some e =>
    refine .off (by simp [Session.isEnabled, hengine]) rfl rfl ?_ ?_
    · simp [owed, OpenCall.owes?, List.perm_append_singleton]
    · simp [tellings, OpenCall.tells?, List.filterMap_cons]

theorem owed_close {call : Nat} {c : OpenCall} (h : s.calls[call]? = some c) :
    s.owed.Perm (c.owes?.toList ++ (s.close call).owed) :=
  OpenCalls.filterMap_perm (OpenCalls.perm_eraseIdx h) OpenCall.owes?

theorem tellings_close {call : Nat} {c : OpenCall} (h : s.calls[call]? = some c) :
    s.tellings.Perm (c.tells?.toList ++ (s.close call).tellings) :=
  OpenCalls.filterMap_perm (OpenCalls.perm_eraseIdx h) OpenCall.tells?

theorem stopping_went {call : Nat} {built : Except AlarmError Engine} {e : Engine}
    {taken : List Nat} (h : s.calls[call]? = some (.stopping e taken)) :
    Went s (s.resume call built) (fails ⟨s, .resume call built⟩) := by
  have howed := owed_close h
  have htellings := tellings_close h
  obtain ⟨hsession, hnotices⟩ := s.session.afterShutdown_eq (e.finishShutdown taken).1
  simp only [resume, fails, h]
  cases hended : taken.all e.hasEnded with
  | false => exact .aside rfl rfl .rfl .rfl
  | true =>
    simp only [if_true, Bool.true_and]
    cases hok : (e.finishShutdown taken).1.isOk with
    | false =>
      rw [hok] at hnotices
      refine .failed (congrArg _ hsession) rfl ?_ ?_
      · simpa [owed, telling, hnotices, OpenCall.owes?] using howed
      · simpa [tellings, telling, hnotices, OpenCall.tells?] using htellings.symm
    | true =>
      rw [hok] at hnotices
      refine .stopped (congrArg _ hsession) rfl ?_ ?_
      · have hmoved := (List.perm_append_singleton false (s.close call).owed).trans howed.symm
        simpa [owed, telling, hnotices, Notice.toggled?, OpenCall.owes?] using hmoved
      · have hadded := (List.perm_append_singleton false (s.close call).tellings).trans
          (htellings.symm.cons false)
        simpa [tellings, telling, hnotices, Notice.toggled?, OpenCall.tells?] using hadded

theorem resume_went (s : SharedSession) (call : Nat) (built : Except AlarmError Engine) :
    Went s (s.resume call built) (fails ⟨s, .resume call built⟩) := by
  cases hcall : s.calls[call]? with
  | none =>
    simp only [resume, fails, hcall]
    exact .aside rfl rfl .rfl .rfl
  | some c =>
    have howed := (owed_close hcall).symm
    have htellings := (tellings_close hcall).symm
    cases c with
    | toggling enabled =>
      simp only [resume, fails, hcall]
      cases enabled with
      | true => exact (disable_went (s.close call)).congr rfl rfl howed htellings
      | false => exact (enable_went (s.close call) built).congr rfl rfl howed htellings
    | stopping e taken => exact stopping_went hcall
    | telling on =>
      simp only [resume, fails, hcall]
      exact .told on rfl rfl howed.symm htellings.symm

/-- What a change to one call leaves as it is in every call is the same for all. -/
theorem filterMap_modify {β : Type} {f : OpenCall → OpenCall} {g : OpenCall → Option β}
    (h : ∀ c, g (f c) = g c) (calls : List OpenCall) (n : Nat) :
    (calls.modify n f).filterMap g = calls.filterMap g := by
  induction calls generalizing n with
  | nil => simp
  | cons c rest ih =>
    cases n with
    | zero => simp [List.filterMap_cons, h]
    | succ n => simp [List.filterMap_cons, ih]

theorem went (s : SharedSession) (event : Event) : Went s (s.next event) (fails ⟨s, event⟩) := by
  cases event with
  | enable built => exact s.enable_went built
  | disable => exact s.disable_went
  | toggle =>
    refine .aside rfl rfl ?_ ?_
    · simp [next, owed, OpenCall.owes?, List.filterMap_cons]
    · simp [next, tellings, OpenCall.tells?, List.filterMap_cons]
  | resume call built => exact s.resume_went call built
  | ingest | wake => exact .aside (by simp [next, Session.ingest, Session.isEnabled]) rfl .rfl .rfl
  | wakeStopping call n now order =>
    refine .aside rfl rfl (.of_eq ?_) (.of_eq ?_)
    · exact filterMap_modify (fun c => by cases c <;> rfl) s.calls call
    · exact filterMap_modify (fun c => by cases c <;> rfl) s.calls call

end One

end SharedSession

/-! ## Calls that nothing comes between -/

namespace SharedSession

/-- Nothing comes between the two halves of `enable`. -/
theorem enable_uninterrupted (s : SharedSession) (built other : Except AlarmError Engine) :
    behind next s [.enable built, .resume s.calls.length other] =
      { session := (s.session.enable built).session
        calls := s.calls
        told := s.told ++ (s.session.enable built).notices.filterMap Notice.toggled? } := by
  change (s.enable built).resume s.calls.length other = _
  rcases s.session.enable_cases built with ⟨hsession, hnotices⟩ | ⟨-, -, hnotices⟩
  · simp [enable, resume, telling, hnotices, hsession]
  · simp [enable, resume, close, telling, hnotices, Notice.toggled?,
      List.eraseIdx_append_of_length_le]

theorem toggle_uninterrupted (s : SharedSession) (built : Except AlarmError Engine) :
    behind next s [.toggle, .resume s.calls.length built] =
      if s.session.isEnabled then s.disable else s.enable built := by
  change ({ s with calls := s.calls ++ [.toggling s.session.isEnabled] } : SharedSession).resume
    s.calls.length built = _
  cases h : s.session.isEnabled <;> simp [resume, close, List.eraseIdx_append_of_length_le]

/-- The actors of the last call wake up. -/
theorem behind_wakeStopping {s : SharedSession} {calls : List OpenCall} {e : Engine}
    {taken : List Nat} (h : s.calls = calls ++ [.stopping e taken]) (now : Instant)
    (ns : List Nat) : behind next s (ns.map fun n => .wakeStopping calls.length n now) =
      { s with calls := calls ++ [.stopping (e.wakeAll now ns).engine taken] } := by
  induction ns generalizing s e with
  | nil =>
    obtain ⟨session, open_, told⟩ := s
    cases h
    rfl
  | cons n rest ih =>
    have hmodify : s.calls.modify calls.length (.wake n now) =
        calls ++ [.stopping (e.wake n now).engine taken] := by
      rw [h, List.modify_eq_take_cons_drop (by simp)]
      simp [OpenCall.wake]
    rw [Engine.wakeAll_cons_engine]
    exact ih (s := s.next (.wakeStopping calls.length n now)) hmodify

/-- Nothing comes between the two halves of `disable` but the actors, which come to their end. -/
theorem disable_uninterrupted (s : SharedSession) (e : Engine) (h : s.session.engine = some e)
    (now : Instant) (other : Except AlarmError Engine) :
    behind next s (.disable :: ((e.held.map fun n => .wakeStopping s.calls.length n now) ++
        [.resume s.calls.length other, .resume s.calls.length other])) =
      { session := (s.session.disable now).session
        calls := s.calls
        told := s.told ++ (s.session.disable now).notices.filterMap Notice.toggled? } := by
  have hstop : e.beginShutdown.2.running = false := rfl
  have hwhole : (s.session.disable now).session = {} ∧ (s.session.disable now).notices =
      if (e.shutdown now).1.isOk then [.toggled false] else [] := by
    have heffect := ({} : Session).afterShutdown_eq (e.shutdown now).1
    rw [Session.disable, Session.takeEngine, h]
    exact heffect
  have hdisable : s.disable = { session := {}, told := s.told
                                calls := s.calls ++ [.stopping e.beginShutdown.2 e.held] } := by
    simp [disable, Session.takeEngine, h, Engine.beginShutdown]
  have hended : e.held.all (e.beginShutdown.2.wakeAll now e.held).engine.hasEnded = true := by
    rw [List.all_eq_true]
    intro n hn
    rw [Engine.hasEnded_wakeAll hstop]
    simp [hn]
  have hresult : ((e.beginShutdown.2.wakeAll now e.held).engine.finishShutdown e.held).1 =
      (e.shutdown now).1 := rfl
  change behind next s.disable (_ ++ _) = _
  rw [hdisable, behind_append, behind_wakeStopping rfl, hwhole.1, hwhole.2]
  generalize (e.beginShutdown.2.wakeAll now e.held).engine = stopped at hended hresult
  obtain ⟨hsession, hnotices⟩ := ({} : Session).afterShutdown_eq (e.shutdown now).1
  change resume (resume _ s.calls.length other) s.calls.length other = _
  simp only [resume, List.getElem?_concat_length, hended, hresult, hsession, telling, hnotices]
  cases (e.shutdown now).1.isOk <;>
    simp [close, Notice.toggled?, List.eraseIdx_append_of_length_le]

end SharedSession

end AlarmEscalation
