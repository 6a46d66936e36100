import AlarmEscalation.Host.Machine
import AlarmEscalation.Program.Run
import AlarmEscalation.Proofs.Engine.Crew
import AlarmEscalation.Proofs.Engine.Roles

/-! # A configuration that passes the check can be deployed

The check of a configuration, the choice of the collaborators and the building of an engine each have
rules of their own. Here they are seen to agree: what the check lets through is given to an engine
that can be built, with a collaborator for all that is turned on, and comes up as a daemon or as a
desktop session whose timers have a period. -/
namespace AlarmEscalation

/-- The channels that a role may drive. -/
def Role.mayDrive : Role → Channel → Bool
  | .server, .alert | .desktop, .mail | .desktop, .relay => false
  | .server, _ | .desktop, _ => true

theorem Duration.ofSeconds_ne_zero {seconds : UInt64} (h : seconds ≠ 0) :
    ofSeconds seconds ≠ zero :=
  fun hzero => h (congrArg Duration.seconds hzero)

/-- No millisecond is lost when an interval is taken apart into seconds and nanoseconds. -/
theorem Duration.ofMillis_ne_zero {millis : UInt64} (h : millis ≠ 0) : ofMillis millis ≠ zero := by
  intro hzero
  have hseconds : (millis / 1000).toNat = 0 :=
    congrArg UInt64.toNat (congrArg Duration.seconds hzero)
  have hnanos : millis.toNat % 1000 * 1000000 = 0 := congrArg Duration.nanos hzero
  rw [UInt64.toNat_div] at hseconds
  change millis.toNat / 1000 = 0 at hseconds
  exact h (UInt64.toNat.inj (show millis.toNat = 0 by omega))

/-- A daemon comes up unless its heartbeat has no period: the engine runs, and the run waits for the
next heartbeat. -/
theorem Daemon.run_comesUp {d : Daemon} (hflag : d.flag = true) (hstopped : d.engine.running = false)
    (hheartbeat : d.heartbeat ≠ .zero) (now : Instant) :
    ∃ d' logs, d.run now = .ok (d', logs) ∧ d'.heartbeat = d.heartbeat ∧
      d'.phase.isWaiting = true ∧ d'.engine.running = true := by
  obtain ⟨e, logs, hstart⟩ := Engine.exists_start hstopped
  have hrunning : e.running = true := by rw [(Engine.start_eq hstart).2.2]
  simp only [Daemon.run, Daemon.begin, Daemon.startEngine, hstart, bind, Except.bind, pure,
    Except.pure, if_neg hheartbeat, Daemon.look, Daemon.proceed, Daemon.beat, Daemon.tick, hflag,
    if_true, Daemon.awaitStop]
  exact ⟨_, _, rfl, rfl, rfl, hrunning⟩

namespace Config

variable {c : Config}

/-- An engine that has what a configuration turns on, as far as its role goes; the alert has to be
asked for. -/
structure Equipped (c : Config) (role : Role) (alert : Bool) (k : Collaborators) (e : Engine) :
    Prop where
  new : e = { settings := c.engineSettings role, attached := k.attached }
  interval : e.settings.pollInterval ≠ .zero
  channels : ∀ channel, role.mayDrive channel = true → (channel = .alert → alert = true) →
    e.settings.timeout channel ≠ 0 → e.attached.has channel = true
  relay : ∀ relay, k.relay = some relay → relay.node = c.flashlight.device ∧ relay.node ≠ ""
  mailer : ∀ mailer, k.mailer = some mailer →
    mailer = c.email ∧ mailer.server ≠ "" ∧ mailer.sender ≠ "" ∧ mailer.recipient ≠ ""
  player : ∀ player, k.alert = some player →
    player.program :: player.arguments = c.desktop.alertCommand

/-- The engines of a configuration can be built and have all they need, and the program comes up with
them. -/
structure Deployable (c : Config) : Prop where
  server : ∃ e, c.serverEngine = .ok e ∧ c.Equipped .server false c.serverCollaborators e
  desktop : ∀ alert, (alert = true → c.desktop.alertCommand ≠ []) →
    ∃ k e, c.desktopCollaborators alert = .ok k ∧ c.desktopEngine alert = .ok e ∧
      c.Equipped .desktop alert k e
  daemon : ∀ now, ∃ lines d, Program.startDaemon c now = .done lines (.daemon d) ∧
    d.heartbeat ≠ .zero ∧ d.phase.isWaiting = true ∧ d.engine.running = true
  session : ∀ alert, (alert = true → c.desktop.alertCommand ≠ []) →
    ∃ lines o, Program.startDesktop c alert = .done lines (.desktop o) ∧
      o.session.isEnabled = true

/-! ## Engines -/

theorem timeout_pos {timeout : UInt32} (h : timeout ≠ 0) : 0 < timeout := by
  rw [UInt32.lt_iff_toNat_lt]
  have hnat : timeout.toNat ≠ 0 := fun hzero => h (UInt32.toNat.inj hzero)
  exact Nat.pos_of_ne_zero hnat

theorem server_equipped (valid : c.validate = .ok ()) :
    ∃ e, c.serverEngine = .ok e ∧ c.Equipped .server false c.serverCollaborators e := by
  have flawless := c.validate_eq_ok_iff.mp valid
  have hinterval : (c.engineSettings .server).pollInterval ≠ .zero :=
    Duration.ofMillis_ne_zero (flawless .zeroPollInterval)
  have hfits : Engine.Fits (c.engineSettings .server) c.serverCollaborators.attached :=
    ⟨hinterval, fun hrole => (nomatch hrole), fun _ => rfl⟩
  obtain ⟨e, built⟩ := (Engine.build_iff _ _).mpr hfits
  have hnew := Engine.eq_of_build built
  refine ⟨e, by rw [serverEngine, built]; rfl, ?_⟩
  subst hnew
  refine ⟨rfl, hinterval, ?_, ?_, ?_, ?_⟩
  · intro channel hdrives _ hon
    cases channel with
    | desktop => rfl
    | mail =>
      have hemail : 0 < c.notifications.email := timeout_pos hon
      simp [Attached.has, Collaborators.attached, serverCollaborators, hemail]
    | relay =>
      have hlaboratory : 0 < c.notifications.laboratory := timeout_pos hon
      simp [Attached.has, Collaborators.attached, serverCollaborators, hlaboratory]
    | alert => cases hdrives
  · intro relay hrelay
    simp only [serverCollaborators, Option.ite_none_right_eq_some, Option.some.injEq] at hrelay
    obtain ⟨hlaboratory, rfl⟩ := hrelay
    exact ⟨rfl, fun hnone => flawless .noFlashlight ⟨hlaboratory, hnone⟩⟩
  · intro mailer hmailer
    simp only [serverCollaborators, Option.ite_none_right_eq_some, Option.some.injEq] at hmailer
    obtain ⟨hemail, rfl⟩ := hmailer
    refine ⟨rfl, fun hnone => flawless .noMailServer ⟨hemail, hnone⟩, ?_, ?_⟩
    · exact fun hnone => flawless .noMailAddresses ⟨hemail, .inl hnone⟩
    · exact fun hnone => flawless .noMailAddresses ⟨hemail, .inr hnone⟩
  · intro player hplayer
    cases hplayer

/-- The collaborators of a desktop: popups, and the player if it is asked for. -/
theorem desktopCollaborators_eq {alert : Bool}
    (hcommand : alert = true → c.desktop.alertCommand ≠ []) :
    ∃ k, c.desktopCollaborators alert = .ok k ∧
      k.attached = { desktop := true, alert := alert } ∧ k.relay = none ∧ k.mailer = none ∧
      ∀ player, k.alert = some player →
        player.program :: player.arguments = c.desktop.alertCommand := by
  unfold desktopCollaborators
  cases alert with
  | false =>
    refine ⟨_, rfl, rfl, rfl, rfl, ?_⟩
    intro player hplayer
    cases hplayer
  | true =>
    cases hargv : c.desktop.alertCommand with
    | nil => exact absurd hargv (hcommand rfl)
    | cons program arguments =>
      refine ⟨_, rfl, rfl, rfl, rfl, ?_⟩
      intro player hplayer
      cases hplayer
      rfl

theorem desktop_equipped (valid : c.validate = .ok ()) {alert : Bool}
    (hcommand : alert = true → c.desktop.alertCommand ≠ []) :
    ∃ k e, c.desktopCollaborators alert = .ok k ∧ c.desktopEngine alert = .ok e ∧
      c.Equipped .desktop alert k e := by
  have hinterval : (c.engineSettings .desktop).pollInterval ≠ .zero :=
    Duration.ofMillis_ne_zero (c.validate_eq_ok_iff.mp valid .zeroPollInterval)
  obtain ⟨k, hk, hattached, hrelay, hmailer, hplayer⟩ := desktopCollaborators_eq hcommand
  have hfits : Engine.Fits (c.engineSettings .desktop) k.attached := by
    rw [hattached]
    exact ⟨hinterval, fun _ => ⟨rfl, rfl⟩, fun hrole => (nomatch hrole)⟩
  obtain ⟨e, built⟩ := (Engine.build_iff _ _).mpr hfits
  have hnew := Engine.eq_of_build built
  have hengine : c.desktopEngine alert = .ok e := by
    simp only [desktopEngine, hk, bind, Except.bind, built]
    rfl
  refine ⟨k, e, hk, hengine, ?_⟩
  subst hnew
  refine ⟨rfl, hinterval, ?_, ?_, ?_, hplayer⟩
  · intro channel hdrives hasked _
    cases channel with
    | desktop => rfl
    | alert => exact (congrArg Attached.alert hattached).trans (hasked rfl)
    | mail | relay => cases hdrives
  · intro relay hsome
    rw [hrelay] at hsome
    cases hsome
  · intro mailer hsome
    rw [hmailer] at hsome
    cases hsome

/-! ## The program -/

theorem daemon_comesUp (valid : c.validate = .ok ()) (now : Instant) :
    ∃ lines d, Program.startDaemon c now = .done lines (.daemon d) ∧
      d.heartbeat ≠ .zero ∧ d.phase.isWaiting = true ∧ d.engine.running = true := by
  obtain ⟨e, hengine, hequipped⟩ := server_equipped valid
  have hstopped : e.running = false := by rw [hequipped.new]
  have hheartbeat : Duration.ofSeconds c.daemon.heartbeatSeconds ≠ .zero :=
    Duration.ofSeconds_ne_zero (c.validate_eq_ok_iff.mp valid .zeroHeartbeat)
  obtain ⟨d, logs, hrun, hperiod, hwaiting, hrunning⟩ := Daemon.run_comesUp
    (d := { engine := e, heartbeat := .ofSeconds c.daemon.heartbeatSeconds })
    rfl hstopped hheartbeat now
  simp only [Program.startDaemon, hengine, hrun]
  exact ⟨_, d, rfl, hperiod ▸ hheartbeat, hwaiting, hrunning⟩

theorem session_comesUp (valid : c.validate = .ok ()) {alert : Bool}
    (hcommand : alert = true → c.desktop.alertCommand ≠ []) :
    ∃ lines o, Program.startDesktop c alert = .done lines (.desktop o) ∧
      o.session.isEnabled = true := by
  obtain ⟨k, e, -, hengine, hequipped⟩ := desktop_equipped valid hcommand
  have hstopped : e.running = false := by rw [hequipped.new]
  obtain ⟨e', logs, hstart⟩ := Engine.exists_start hstopped
  have hasked : ¬ (alert = true ∧ c.desktop.alertCommand = []) :=
    fun ⟨halert, hnone⟩ => hcommand halert hnone
  simp only [Program.startDesktop, if_neg hasked, hengine, Session.enable, Session.isEnabled,
    hstart]
  exact ⟨_, _, rfl, rfl⟩

theorem deployable (valid : c.validate = .ok ()) : c.Deployable where
  server := server_equipped valid
  desktop _ hcommand := desktop_equipped valid hcommand
  daemon now := daemon_comesUp valid now
  session _ hcommand := session_comesUp valid hcommand

/-! ## Where configurations come from -/

theorem validate_default : ({} : Config).validate = .ok () := by decide

theorem validate_of_ofYaml {text : String} (h : ofYaml text = .ok c) : c.validate = .ok () := by
  unfold ofYaml at h
  cases hread : Yaml.decode decoder text with
  | error e =>
    rw [hread] at h
    cases h
  | ok read =>
    cases hvalid : read.validate with
    | error flaw =>
      simp only [hread, hvalid, bind, Except.bind, Except.mapError] at h
      cases h
    | ok =>
      simp only [hread, hvalid, bind, Except.bind, Except.mapError, pure, Except.pure] at h
      cases h
      exact hvalid

/-- A step on a machine, and a second one behind it. -/
theorem run_bind {α β : Type} (first : StateM Machine α) (next : α → StateM Machine β)
    (m : Machine) : (first >>= next).run m = (next (first.run m).1).run (first.run m).2 := rfl

theorem validate_of_ofFile {path : String} {m : Machine}
    (h : ((ofFile path : StateM Machine _).run m).1 = .ok c) : c.validate = .ok () := by
  unfold ofFile at h
  rw [run_bind] at h
  split at h
  · cases h
  · exact validate_of_ofYaml h

/-- Whatever the machine has in its files and its environment, a configuration that is loaded from it
has passed the check. -/
theorem validate_of_load {explicit : Option String} {m : Machine}
    (h : ((Program.load explicit : StateM Machine _).run m).1.result = .ok c) :
    c.validate = .ok () := by
  unfold Program.load at h
  simp only [run_bind] at h
  split at h
  · cases h
    exact validate_default
  · simp only [run_bind] at h
    split at h
    · rename_i read hread
      cases h
      exact validate_of_ofFile hread
    · cases h

/-- **What passes the check can be deployed.** Of a configuration without a flaw the engines of both
roles can be built, each with a collaborator for every channel that its role may drive and that is
not turned off, and none of these lacks what it needs; the daemon comes up, and so does the desktop
session. The defaults pass the check, and so does whatever is loaded from a machine. -/
theorem deployable_of_valid :
    (∀ c : Config, c.validate = .ok () → c.Deployable) ∧ ({} : Config).validate = .ok () ∧
    ∀ (explicit : Option String) (m : Machine) (c : Config),
      ((Program.load explicit : StateM Machine _).run m).1.result = .ok c → c.validate = .ok () :=
  ⟨fun _ valid => deployable valid, validate_default, fun _ _ _ h => validate_of_load h⟩

/-- Everything is turned on. -/
def complete : Config where
  notifications := { laboratory := 10, desktop := 5, email := 20 }
  email := { server := "mail.example", sender := "alarms@example", recipient := "shift@example" }
  flashlight := { device := "/dev/ttyUSB0" }
  desktop := { alertCommand := ["aplay", "alarm.wav"] }

theorem deployable_of_valid_complete :
    complete.validate = .ok () ∧
    (∃ e, complete.serverEngine = .ok e ∧
      e.attached = { desktop := true, mail := true, relay := true }) ∧
    ∃ lines o, Program.startDesktop complete true = .done lines (.desktop o) ∧
      o.session.isEnabled = true := by
  have valid : complete.validate = .ok () := by decide
  have h := deployable_of_valid.1 complete valid
  obtain ⟨e, hengine, hequipped⟩ := h.server
  refine ⟨valid, ⟨e, hengine, by rw [hequipped.new]; rfl⟩, h.session true fun _ => ?_⟩
  decide

end Config

end AlarmEscalation
