import AlarmEscalation.Proofs.Alert.Player
import AlarmEscalation.Proofs.Occurrence

/-! # One player at a time

An alert may be started and stopped at any time, and any of its loops may find that its command
cannot be run. `Event.fate` says what becomes of each loop that was ever created: it plays until it
is stopped or ends by itself, and from then on nothing happens to it any more. -/
namespace AlarmEscalation.CommandAlert

/-- What happens to an alert. -/
inductive Event where
  /-- It is started or stopped. -/
  | call (on : Bool)
  /-- A loop has run its command, or could not. -/
  | play (loop : Nat) (run : Except OsError Unit)

def next (a : CommandAlert) : Event → CommandAlert
  | .call on => (a.respond on).2.1
  | .play loop run => (a.play loop run).1

/-- What becomes of the loop with the number `n`. -/
def Event.fate (event : Event) (n : Nat) (l : PlayerLoop) : PlayerLoop :=
  match event with
  | .call true => l
  | .call false => if l = .playing then .aborted else l
  | .play loop run => if loop = n ∧ l = .playing ∧ run.isOk = false then .ended else l

/-- A start creates a loop if none plays. -/
def Event.creates (event : Event) (a : CommandAlert) : List PlayerLoop :=
  match event with
  | .call true => if .playing ∈ a.loops then [] else [.playing]
  | .call false | .play _ _ => []

variable {a : CommandAlert}

/-! ## One event -/

theorem Sole.next (h : a.Sole) (event : Event) : (a.next event).Sole := by
  cases event with
  | call on =>
    cases on with
    | true => exact h.start
    | false => exact h.stop
  | play loop run => exact h.play loop run

/-- There is a loop that plays if and only if the alert runs. -/
theorem Sole.isRunning_iff_mem (h : a.Sole) : a.isRunning = true ↔ .playing ∈ a.loops := by
  rw [← not_iff_not, Bool.not_eq_true]
  exact h.isRunning_eq_false_iff

/-- The loop that plays is the one that was created last, so nothing is lost with the others. -/
theorem Sole.unique (h : a.Sole) {m n : Nat} (hm : a.loops[m]? = some .playing)
    (hn : a.loops[n]? = some .playing) : m = n :=
  Option.some.inj ((h m hm).symm.trans (h n hn))

theorem Sole.loops_start (h : a.Sole) :
    a.start.1.loops = a.loops ++ Event.creates (.call true) a := by
  unfold Event.creates
  rcases a.start_cases with ⟨hrunning, hsame⟩ | ⟨hstopped, hnew⟩
  · rw [hsame, if_pos (h.isRunning_iff_mem.mp hrunning), List.append_nil]
  · rw [hnew, if_neg (h.isRunning_eq_false_iff.mp hstopped)]

theorem loops_kept {event : Event}
    (h : ∀ k l, a.loops[k]? = some l → event.fate k l = l) :
    a.loops.mapIdx event.fate = a.loops := by
  refine List.ext_getElem? fun k => ?_
  rw [List.getElem?_mapIdx]
  cases hk : a.loops[k]? with
  | none => rfl
  | some l => exact congrArg some (h k l hk)

theorem loops_modified {event : Event} {n : Nat} {f : PlayerLoop → PlayerLoop}
    (self : ∀ l, a.loops[n]? = some l → event.fate n l = f l)
    (others : ∀ k l, a.loops[k]? = some l → n ≠ k → event.fate k l = l) :
    a.loops.mapIdx event.fate = a.loops.modify n f := by
  refine List.ext_getElem? fun k => ?_
  rw [List.getElem?_mapIdx, List.getElem?_modify]
  cases hk : a.loops[k]? with
  | none => rfl
  | some l =>
    by_cases hnk : n = k
    · subst hnk
      simp [self l hk]
    · simp [hnk, others k l hk hnk]

/-- A stop reaches the loop that is kept, and no other one can be playing. -/
theorem Sole.loops_stop (h : a.Sole) :
    a.stop.1.loops = a.loops.mapIdx (Event.fate (.call false)) := by
  have hothers : ∀ k l, a.loops[k]? = some l → a.slot ≠ some k →
      Event.fate (.call false) k l = l := by
    intro k l hl hne
    refine if_neg ?_
    rintro rfl
    exact hne (h k hl)
  unfold CommandAlert.stop
  split
  · rename_i hnone
    refine (loops_kept fun k l hl => hothers k l hl ?_).symm
    rw [hnone]
    exact nofun
  · rename_i n hsome
    refine (loops_modified (fun _ _ => rfl) fun k l hl hne => hothers k l hl ?_).symm
    rw [hsome]
    exact fun heq => hne (Option.some.inj heq)

theorem loops_play (a : CommandAlert) (loop : Nat) (run : Except OsError Unit) :
    (a.play loop run).1.loops = a.loops.mapIdx (Event.fate (.play loop run)) := by
  rcases a.play_cases loop run with ⟨hlives, hsame⟩ | ⟨hdies, hended⟩
  · rw [hsame]
    symm
    apply loops_kept
    intro k l hl
    refine if_neg ?_
    rintro ⟨rfl, rfl, hfails⟩
    simp [dies, hl, hfails] at hlives
  · rw [hended]
    obtain ⟨hplaying, hfails⟩ := Bool.and_eq_true_iff.mp hdies
    have hplaying : a.loops[loop]? = some .playing := by simpa using hplaying
    have hfails : run.isOk = false := by simpa using hfails
    symm
    apply loops_modified
    · intro l hl
      rw [hplaying] at hl
      cases hl
      exact if_pos ⟨rfl, rfl, hfails⟩
    · intro k l _ hne
      exact if_neg fun hall => hne hall.1

/-- What an event does to the loops. -/
theorem Sole.loops_next (h : a.Sole) (event : Event) :
    (a.next event).loops = a.loops.mapIdx event.fate ++ event.creates a := by
  cases event with
  | call on =>
    cases on with
    | true =>
      rw [loops_kept fun _ _ _ => rfl]
      exact h.loops_start
    | false => exact h.loops_stop.trans (List.append_nil _).symm
  | play loop run => exact (a.loops_play loop run).trans (List.append_nil _).symm

/-! ## Every moment -/

/-- No two loops play, the alert knows whether one does, and its calls see to that. -/
structure OnePlayer (a : CommandAlert) : Prop where
  unique : ∀ m n : Nat, a.loops[m]? = some .playing → a.loops[n]? = some .playing → m = n
  running_iff : a.isRunning = true ↔ .playing ∈ a.loops
  fates : ∀ event, (a.next event).loops = a.loops.mapIdx event.fate ++ event.creates a
  started : .playing ∈ a.start.1.loops
  kept : .playing ∈ a.loops → a.start.1 = a
  stopped : .playing ∉ a.stop.1.loops
  dropped : .playing ∉ a.drop.loops
  succeeds : ∀ on, (a.respond on).1 = .ok ()

theorem Sole.onePlayer (h : a.Sole) : a.OnePlayer := by
  have hstopped : .playing ∉ a.stop.1.loops :=
    h.stop.isRunning_eq_false_iff.mp a.isRunning_stop
  refine ⟨fun m n => h.unique, h.isRunning_iff_mem, h.loops_next, ?_, ?_, hstopped, hstopped,
    fun _ => rfl⟩
  · exact h.start.isRunning_iff_mem.mp a.isRunning_start
  · intro hplays
    rcases a.start_cases with ⟨-, hsame⟩ | ⟨hstopped, -⟩
    · exact hsame
    · exact absurd hplays (h.isRunning_eq_false_iff.mp hstopped)

/-- **There is one player at a time.** Whatever calls come to a new alert, and whichever of its loops
run on or end by themselves meanwhile: at no moment do two loops play, and the alert runs if and only
if one does. A start creates a loop if and only if none plays, and keeps the one that does; a stop,
and giving up the alert, leave none; all calls succeed. -/
theorem one_player_at_a_time {argv : List String} {alert : CommandAlert}
    (made : ofArguments argv = .ok alert) (events : List Event) :
    (behind next alert events).OnePlayer := by
  have hsole : (behind next alert events).Sole := by
    induction events using List.reverseRecOn with
    | nil => exact (sole_of_ofArguments made).1
    | append_singleton events event ih =>
      rw [behind_concat]
      exact ih.next event
  exact hsole.onePlayer

/-- The first loop ends because its command cannot be run, the second one is stopped, and the third
one plays. -/
theorem one_player_at_a_time_replaced :
    let alert : CommandAlert := { program := "sleep", arguments := ["30"] }
    let events : List Event :=
      [.call true, .call true, .play 0 (.ok ()), .play 0 (.error .notFound), .call true,
        .call false, .play 1 (.error .notFound), .call true]
    ofArguments ["sleep", "30"] = .ok alert ∧
    (behind next alert events).loops = [.ended, .aborted, .playing] ∧
    (behind next alert events).OnePlayer := by
  intro alert events
  have made : ofArguments ["sleep", "30"] = .ok alert := rfl
  exact ⟨made, by decide, one_player_at_a_time made events⟩

end AlarmEscalation.CommandAlert
