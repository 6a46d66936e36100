import AlarmEscalation.Host.Machine
import AlarmEscalation.Notify.SerialRelay
import AlarmEscalation.Proofs.Occurrence

/-! # A relay and its device node

The device is a node in the tree of a machine, which may be replaced, removed and made again between
the calls. A relay goes by the state that it wrote last. It never looks at the device, so the two
agree only as far as its commands were taken. -/
namespace AlarmEscalation

namespace Machine

/-! ## Overwriting a file -/

variable {m : Machine} {place : Place}

theorem lookup_filter_of_ne {other : Place} (h : other ≠ place) (nodes : List (Place × Node)) :
    (nodes.filter fun n => n.1 != place).lookup other = nodes.lookup other := by
  induction nodes with
  | nil => rfl
  | cons n rest ih =>
    obtain ⟨here, node⟩ := n
    by_cases hplace : here = place
    · subst hplace
      have hother : (other == here) = false := by simpa using h
      simp [List.lookup_cons, ih, hother]
    · simp [hplace, List.lookup_cons, ih]

theorem node?_setNode_self (h : place ≠ []) (node : Node) :
    (m.setNode place node).node? place = some node := by
  simp [node?, setNode, h]

theorem node?_setNode_of_ne {other : Place} (h : other ≠ place) (node : Node) :
    (m.setNode place node).node? other = m.node? other := by
  have hother : (other == place) = false := by simpa using h
  simp [node?, setNode, List.lookup_cons, hother, lookup_filter_of_ne h]

theorem ne_root_of_file {content : List UInt8} (h : m.node? place = some (.file content)) :
    place ≠ [] := by
  rintro rfl
  simp [node?] at h

/-- A walk does not go through a file, so it goes the same way when the file is replaced. -/
theorem walk_setNode {content : List UInt8} (h : m.node? place = some (.file content))
    (bytes : List UInt8) {segments : List String} {here there : Place} {node : Node}
    (hwalk : m.walk here segments = .ok (there, node)) :
    (m.setNode place (.file bytes)).walk here segments =
      .ok (there, if there = place then .file bytes else node) := by
  have hkept : ∀ p, m.node? p = some .directory →
      (m.setNode place (.file bytes)).node? p = some .directory := by
    intro p hp
    rw [node?_setNode_of_ne, hp]
    rintro rfl
    simp [h] at hp
  induction segments generalizing here with
  | nil =>
    simp only [walk] at hwalk ⊢
    split at hwalk
    · rename_i found hfound
      cases hwalk
      by_cases hthere : there = place
      · subst hthere
        simp [node?_setNode_self (ne_root_of_file h)]
      · simp [node?_setNode_of_ne hthere, hfound, hthere]
    · cases hwalk
  | cons segment rest ih =>
    simp only [walk] at hwalk ⊢
    split at hwalk
    · cases hwalk
    · rename_i hhere
      rw [hkept _ hhere]
      simp only
      split at hwalk
      · rename_i hstay
        rw [if_pos hstay]
        exact ih hwalk
      · rename_i hgo
        rw [if_neg hgo]
        split at hwalk
        · rename_i hup
          rw [if_pos hup]
          exact ih hwalk
        · rename_i hdown
          rw [if_neg hdown]
          split at hwalk
          · cases hwalk
          · rename_i hshort
            rw [if_neg hshort]
            exact ih hwalk
    · cases hwalk

theorem node?_of_walk {segments : List String} {here there : Place} {node : Node}
    (hwalk : m.walk here segments = .ok (there, node)) : m.node? there = some node := by
  induction segments generalizing here with
  | nil =>
    simp only [walk] at hwalk
    split at hwalk
    · rename_i hfound
      cases hwalk
      exact hfound
    · cases hwalk
  | cons segment rest ih =>
    simp only [walk] at hwalk
    repeat' split at hwalk
    all_goals first
      | exact ih hwalk
      | cases hwalk

theorem find_setNode {path : String} {content : List UInt8}
    (hfind : m.find path = .ok (place, .file content)) (bytes : List UInt8) :
    (m.setNode place (.file bytes)).find path = .ok (place, .file bytes) := by
  simp only [find] at hfind ⊢
  split at hfind
  · cases hfind
  · rename_i hnul
    rw [if_neg hnul]
    split at hfind
    · cases hfind
    · rename_i hempty
      rw [if_neg hempty]
      split at hfind
      · cases hfind
      · rename_i hlong
        rw [if_neg hlong]
        have hwalk := walk_setNode (node?_of_walk hfind) bytes hfind
        rwa [if_pos rfl] at hwalk

theorem overwrite_of_file {path : String} {content : List UInt8}
    (hfind : m.find path = .ok (place, .file content)) (bytes : List UInt8) :
    m.overwrite path bytes = ((m.accept bytes).1,
      m.setNode place (.file ((m.accept bytes).2 ++ content.drop (m.accept bytes).2.length))) := by
  simp only [overwrite, hfind]

/-- A write that is not cut short takes all bytes. -/
theorem accept_of_ok {bytes : List UInt8} (h : (m.accept bytes).1 = .ok ()) :
    (m.accept bytes).2 = bytes := by
  unfold accept at h ⊢
  split at h
  · rfl
  · split at h
    · cases h
    · rename_i hlong
      rw [if_neg hlong]

theorem accept_ne_opening (bytes : List UInt8) (e : OsError) :
    (m.accept bytes).1 ≠ .error (.opening e) := by
  unfold accept
  split
  · simp
  · split <;> simp

/-- What cannot be opened is not changed. -/
theorem overwrite_of_unopened {path : String} {bytes : List UInt8} {e : OsError}
    (h : (m.overwrite path bytes).1 = .error (.opening e)) : (m.overwrite path bytes).2 = m := by
  have hfile : ∀ place content, m.find path ≠ .ok (place, .file content) := by
    intro place content hfind
    rw [overwrite_of_file hfind] at h
    exact accept_ne_opening bytes e h
  unfold overwrite at h ⊢
  split at h
  case h_6 place content hfind => exact absurd hfind (hfile place content)
  all_goals rfl

end Machine

/-! ## The requests of a relay -/

/-- What a machine is asked for. -/
inductive Request where
  | overwrite (path : String) (bytes : List UInt8) (answer : Except WriteFault Unit)
  | other
deriving DecidableEq

/-- A machine that keeps what it is asked for. -/
structure TracedMachine where
  machine : Machine
  requests : List Request := []

namespace TracedMachine

def note (t : TracedMachine) (request : Request) : TracedMachine :=
  { t with requests := t.requests ++ [request] }

instance : Host (StateM TracedMachine) where
  readBytes path := modifyGet fun t => (t.machine.readBytes path, t.note .other)
  isFile path := modifyGet fun t => (t.machine.isFile path, t.note .other)
  overwrite path bytes := modifyGet fun t =>
    let (answer, machine) := t.machine.overwrite path bytes
    (answer, { t.note (.overwrite path bytes answer) with machine })
  run command arguments := modifyGet fun t => (t.machine.run command arguments, t.note .other)
  environment name := modifyGet fun t => (t.machine.environment.lookup name, t.note .other)

end TracedMachine

/-- A relay and the machine that has its device. -/
structure HostedRelay where
  relay : SerialRelay
  machine : Machine

namespace HostedRelay

inductive Event where
  | switch (on : Bool)
  /-- Anything else happens on the machine. -/
  | become (machine : Machine)

/-- A relay is switched: what comes of it, and the machine with its requests. -/
def act (h : HostedRelay) (on : Bool) : SerialRelay.Switched × TracedMachine :=
  (h.relay.switch on : StateM TracedMachine SerialRelay.Switched).run { machine := h.machine }

def next (h : HostedRelay) : Event → HostedRelay
  | .switch on => ⟨(h.act on).1.2.1, (h.act on).2.machine⟩
  | .become machine => { h with machine }

/-- The command that the device was given by a call. -/
def given? (m : Occurrence HostedRelay Event) : Option Bool :=
  match m.event with
  | .switch on =>
    if .overwrite m.before.relay.node (relayCommand on) (.ok ()) ∈ (m.before.act on).2.requests
    then some on else none
  | .become _ => none

/-- The commands that the device was given along a run. -/
def given (past : List (Occurrence HostedRelay Event)) : List Bool := past.filterMap given?

theorem given_concat (past : List (Occurrence HostedRelay Event))
    (m : Occurrence HostedRelay Event) : given (past ++ [m]) = given past ++ (given? m).toList := by
  rw [given, List.filterMap_append, ← given]
  cases h : given? m <;> simp [h]

/-! ## One call -/

variable {h : HostedRelay} {on : Bool}

/-- How the machine answers when the command is written. -/
def answer (h : HostedRelay) (on : Bool) : Except WriteFault Unit :=
  (h.machine.overwrite h.relay.node (relayCommand on)).1

theorem act_of_unneeded (hstate : h.relay.state = some on) :
    h.act on = ((.ok (), h.relay, []), { machine := h.machine }) := by
  simp only [act, SerialRelay.switch, if_pos hstate]
  rfl

theorem act_of_needed (hstate : h.relay.state ≠ some on) :
    h.act on = (h.relay.settle on (h.answer on),
      { machine := (h.machine.overwrite h.relay.node (relayCommand on)).2
        requests := [.overwrite h.relay.node (relayCommand on) (h.answer on)] }) := by
  simp only [act, SerialRelay.switch, if_neg hstate]
  rfl

/-- The ways in which a call goes: nothing is left to do, the device refuses the command, of which
it may have taken a part, or it takes it. -/
inductive Went (h : HostedRelay) (on : Bool) : Prop
  | unneeded : h.relay.state = some on → (h.act on).1.1 = .ok () → (h.act on).2.requests = [] →
      h.next (.switch on) = h → Went h on
  | refused (fault : WriteFault) : h.relay.state ≠ some on →
      h.answer on = .error fault →
      (h.act on).1 = ((h.relay.settle on (.error fault)).1, h.relay, []) →
      (h.act on).2.requests = [.overwrite h.relay.node (relayCommand on) (.error fault)] →
      h.next (.switch on) =
        ⟨h.relay, (h.machine.overwrite h.relay.node (relayCommand on)).2⟩ → Went h on
  | taken : h.relay.state ≠ some on → h.answer on = .ok () → (h.act on).1.1 = .ok () →
      (h.act on).2.requests = [.overwrite h.relay.node (relayCommand on) (.ok ())] →
      h.next (.switch on) = ⟨{ h.relay with state := some on },
        (h.machine.overwrite h.relay.node (relayCommand on)).2⟩ → Went h on

theorem went (h : HostedRelay) (on : Bool) : h.Went on := by
  by_cases hstate : h.relay.state = some on
  · have hact := act_of_unneeded hstate
    exact .unneeded hstate (by rw [hact]) (by rw [hact]) (by rw [next, hact])
  · have hact := act_of_needed hstate
    cases hanswer : h.answer on with
    | ok =>
      rw [hanswer] at hact
      exact .taken hstate hanswer (by rw [hact]; rfl) (by rw [hact]) (by rw [next, hact]; rfl)
    | error fault =>
      have hsettle : h.relay.settle on (.error fault) =
          ((h.relay.settle on (.error fault)).1, h.relay, []) := by cases fault <;> rfl
      rw [hanswer, hsettle] at hact
      exact .refused fault hstate hanswer (by rw [hact]) (by rw [hact]) (by rw [next, hact])

/-- What a call does. -/
structure Obeys (h : HostedRelay) (on : Bool) : Prop where
  answered : (h.act on).1.1 = .ok () ↔ (h.next (.switch on)).relay.state = some on
  untouched : h.relay.state = some on → (h.act on).2.requests = [] ∧ h.next (.switch on) = h
  unopened : h.relay.state ≠ some on → ∀ e, h.answer on = .error (.opening e) →
    (h.act on).1.1 = .error ⟨.relay, "Cannot open serial interface " ++ h.relay.node ++ ": " ++
      e.message⟩ ∧ h.next (.switch on) = h
  unwritten : h.relay.state ≠ some on → ∀ e, h.answer on = .error (.writing e) →
    (h.act on).1.1 = .error ⟨.relay, "Cannot write to serial interface: " ++ e.message⟩ ∧
      (h.next (.switch on)).relay = h.relay
  replaced : h.relay.state ≠ some on → h.answer on = .ok () → ∀ place content,
    h.machine.find h.relay.node = .ok (place, .file content) →
    let file := relayCommand on ++ content.drop 3
    (h.next (.switch on)).machine = h.machine.setNode place (.file file) ∧
      (h.next (.switch on)).machine.readBytes h.relay.node = .ok file

theorem Went.obeys (went : h.Went on) : h.Obeys on := by
  cases went with
  | unneeded hstate hok huntouched hsame =>
    refine ⟨?_, fun _ => ⟨huntouched, hsame⟩, fun hother => absurd hstate hother,
      fun hother => absurd hstate hother, fun hother => absurd hstate hother⟩
    simp [hok, hsame, hstate]
  | refused fault hstate hanswer hact _ hafter =>
    refine ⟨?_, fun hdone => absurd hdone hstate, fun _ e he => ⟨?_, ?_⟩,
      fun _ e he => ⟨?_, by rw [hafter]⟩, fun _ htaken => ?_⟩
    · rw [hact, hafter]
      cases fault <;> simp [SerialRelay.settle, hstate]
    · obtain rfl : fault = .opening e := by simpa [hanswer] using he
      rw [hact]
      rfl
    · rw [hafter, Machine.overwrite_of_unopened he]
    · obtain rfl : fault = .writing e := by simpa [hanswer] using he
      rw [hact]
      rfl
    · rw [hanswer] at htaken
      cases htaken
  | taken hstate hanswer hok _ hafter =>
    refine ⟨by simp [hok, hafter], fun hdone => absurd hdone hstate, fun _ e he => ?_,
      fun _ e he => ?_, fun _ _ place content hfind => ?_⟩
    · simp [hanswer] at he
    · simp [hanswer] at he
    · have hall : (h.machine.accept (relayCommand on)).2 = relayCommand on := by
        rw [answer, Machine.overwrite_of_file hfind] at hanswer
        exact Machine.accept_of_ok hanswer
      rw [hafter, Machine.overwrite_of_file hfind, hall]
      refine ⟨rfl, ?_⟩
      rw [Machine.readBytes, Machine.find_setNode hfind]
      rfl

theorem Went.state_next (went : h.Went on) : (h.next (.switch on)).relay.state =
    ((given? ⟨h, .switch on⟩).or h.relay.state) := by
  cases went with
  | unneeded _ _ huntouched hsame => simp [given?, huntouched, hsame]
  | refused fault _ _ _ hasked hafter => simp [given?, hasked, hafter]
  | taken _ _ _ hasked hafter => simp [given?, hasked, hafter]

/-! ## A whole run -/

/-- The relay is in the state of the last command that the device was given. -/
theorem state_behind (node : String) (machine : Machine) (events : List Event) :
    (behind next ⟨{ node }, machine⟩ events).relay.state =
      (given (occurrences next ⟨{ node }, machine⟩ events)).getLast? := by
  refine occurrences_induction (J := fun past h => h.relay.state = (given past).getLast?) rfl ?_
    events
  intro past h event hstate
  rw [given_concat]
  cases event with
  | become machine =>
    change h.relay.state = _
    simpa [given?] using hstate
  | switch on =>
    rw [(h.went on).state_next]
    cases given? ⟨h, .switch on⟩ <;> simp [hstate]

/-- **A relay and its device under failures.** Whatever happens to the device between the calls, a
call is answered with success exactly if the relay is then in the state that was asked for. A call
for the state it is in already asks nothing of the machine. A device that cannot be opened is
reported and nothing changes; a command that cannot be written is reported and leaves the relay in
its state, though the device may have taken a part of it. In a file that takes the whole command
exactly the first three bytes are replaced by it. So the relay is always in the state of the last
command that was taken. -/
theorem state_follows_commands (node : String) (machine : Machine) (events : List Event)
    (on : Bool) :
    (behind next ⟨{ node }, machine⟩ events).Obeys on ∧
    (behind next ⟨{ node }, machine⟩ events).relay.state =
      (given (occurrences next ⟨{ node }, machine⟩ events)).getLast? :=
  ⟨((behind next ⟨{ node }, machine⟩ events).went on).obeys, state_behind node machine events⟩

/-- A device that can be opened, and takes nothing. -/
def full : HostedRelay where
  relay := { node := "/dev/full" }
  machine := { nodes := [(["dev"], .directory), (["dev", "full"], .full)] }

/-- A device that takes everything, and holds nothing. -/
def void : HostedRelay where
  relay := { node := "/dev/null" }
  machine := { nodes := [(["dev"], .directory), (["dev", "null"], .sink)] }

/-- It was not asked for before and the device can be opened, but no command is written. Nor is one
found in a device that holds nothing, though the call succeeds. -/
theorem unwritten_of_full :
    full.relay.state ≠ some true ∧ (∀ e, full.answer true ≠ .error (.opening e)) ∧
    (full.act true).1.1 = .error ⟨.relay,
      "Cannot write to serial interface: No space left on device (os error 28)"⟩ ∧
    (full.next (.switch true)).machine.readBytes "/dev/full" ≠ .ok (relayCommand true) ∧
    (full.next (.switch true)).relay.state = none ∧
    (void.act true).1.1 = .ok () ∧
    (void.next (.switch true)).machine.readBytes "/dev/null" = .ok [] := by
  have hanswer : full.answer true = .error (.writing .noSpace) := by decide +kernel
  exact ⟨by decide, by simp [hanswer], by decide +kernel, by decide +kernel, by decide +kernel,
    by decide +kernel, by decide +kernel⟩

/-- A file that takes two bytes of a command. -/
def torn : HostedRelay where
  relay := { node := "/tty", state := some false }
  machine := { nodes := [(["tty"], .file [7, 7, 7, 7])], writesCutAt := some (2, .noSpace) }

example : (torn.next (.switch true)).machine.readBytes "/tty" = .ok [0xFF, 0x01, 7, 7] ∧
    (torn.next (.switch true)).relay.state = some false := by
  decide +kernel

end HostedRelay

end AlarmEscalation
