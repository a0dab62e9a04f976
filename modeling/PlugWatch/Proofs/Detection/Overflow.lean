import PlugWatch.Proofs.Detection.Detector
import PlugWatch.Proofs.Detection.InputCount
import PlugWatch.Proofs.Detection.OutputCount
/-!
# Counts that overflow

A new manager ticks, is asked for things, and has surroundings that change as they like, with any kind of
colour sessions. Its counts are words, and so are their limits. The hold-off and nearly all counts of
ports stop below their limits and never overflow. Two limits, set to the highest word there is, are too
high: that of a session, which nothing stops at the limit itself, and that of the measurements of an
output port, the last of which hands its count on.

## Main Definitions

* `Station.HoldOffOverflows`, `Station.InputOverflows`, `Station.OutputOverflows` : a count has no room
  for the coming tick.
* `Station.waited` : for how many ticks a port has waited for its session.
* `Station.JustMeasured`, `Station.JustLostLink` : what the last tick of the watches left behind.

## Main Statements

* `Station.overflows_eq_true_iff` : the tick has no room exactly if a count of it has none.
* `Station.overflows_iff` : the ticks that there is no room for.
* `Station.not_timesOut_of_full` : a session with the highest limit is never given up.
-/

namespace PlugWatch

namespace DetectionConfig

variable (config : DetectionConfig)

theorem toNat_tickLength : config.tickLength.toNat = max config.tickMs.toNat 1 := by
  show (if config.tickMs ≤ 1 then 1 else config.tickMs).toNat = _
  have hone : (1 : UInt16).toNat = 1 := rfl
  split
  · rename_i h
    rw [UInt16.le_iff_toNat_le, hone] at h
    omega
  · rename_i h
    rw [UInt16.le_iff_toNat_le, hone] at h
    omega

/-- A delay takes the highest number of ticks that there is only if it is the longest there is and a tick
takes no longer than a millisecond. -/
theorem ticks_eq_max_iff (ms : UInt16) :
    config.ticks ms = 65535 ↔ ms = 65535 ∧ config.tickMs ≤ 1 := by
  have hone : (1 : UInt16).toNat = 1 := rfl
  have htop : (65535 : UInt16).toNat = 65535 := rfl
  have hms := ms.toNat_lt
  rw [ticks, ← UInt16.toNat_inj, ← UInt16.toNat_inj, UInt16.toNat_div, UInt16.le_iff_toNat_le,
    toNat_tickLength, hone, htop]
  constructor
  · intro h
    have hshort : config.tickMs.toNat ≤ 1 := by
      by_contra hlong
      have hle : ms.toNat / max config.tickMs.toNat 1 ≤ ms.toNat / 2 :=
        Nat.div_le_div_left (by omega) (by omega)
      omega
    rw [Nat.max_eq_right hshort, Nat.div_one] at h
    exact ⟨h, hshort⟩
  · rintro ⟨h, hshort⟩
    rw [Nat.max_eq_right hshort, Nat.div_one, h]

end DetectionConfig

namespace Station

variable {κ : Type} [ColorProtocol κ] {s : Station κ} {port : Port}

/-! ## What acts do to the counts -/

/-- An output port of a station. -/
def output (s : Station κ) (port : Port) : OutputState :=
  ⟨s.1.outputs.get port, s.2.board.outputs.get port⟩

/-- An output port has its turn once in a tick of the watches. -/
theorem output_tick (hrunning : s.1.isRunning = true) :
    (s.act .tick).output port =
      (s.output port).tick s.1.config port (s.2.board.samples.outPin5 port) := by
  obtain ⟨journal, h⟩ := Manager.tickWatches_output s port
  rw [show s.act .tick = Manager.tickWatches s from Manager.tick_of_running hrunning s.2]
  exact h.trans (OutputState.ofScene_tick s.1.config port _ (s.output port) journal)

theorem watch_turn (s : Station κ) (port : Port) : (s.turn port).watch = s.1.inputs.get port := by
  obtain ⟨behind, -, hbefore, -⟩ := port.all_eq
  exact (tickInputs_of_notMem port.before hbefore s).2.2.1

/-- In front of a closed gate a tick leaves the watches alone. -/
theorem tick_of_closed (hclosed : s.1.isRunning = false) :
    (s.act .tick).1.config = s.1.config ∧ (s.act .tick).1.inputs = s.1.inputs ∧
      (s.act .tick).1.outputs = s.1.outputs := by
  obtain ⟨startup, journal, htick⟩ := Manager.exists_tick_of_closed hclosed s.2
  show (s.1.tick s.2).1.config = _ ∧ (s.1.tick s.2).1.inputs = _ ∧ (s.1.tick s.2).1.outputs = _
  rw [htick]
  exact ⟨rfl, rfl, rfl⟩

/-- Forcing a classification leaves the manager alone. -/
theorem manager_force (other : Port) (classification : Classification) :
    (s.act (.force other classification)).1 = s.1 := by
  unfold act
  dsimp only
  split <;> rfl

/-- Asking for a command changes the watch of its port, and of no other. -/
theorem manager_request (other : Port) (command : UInt8) :
    (s.act (.request other command)).1 =
      { s.1 with
        inputs :=
          if (s.1.inputs.get other).connected then
            s.1.inputs.modify other fun watch => watch.requestCommand command
          else s.1.inputs } := by
  unfold act Manager.requestCommand?
  dsimp only
  by_cases hconnected : (s.1.inputs.get other).connected = true
  · rw [if_pos hconnected, if_pos hconnected]
  · rw [if_neg hconnected, if_neg hconnected]

/-- The watch of an input port once something has happened. -/
def inputAfter (s : Station κ) (port : Port) : Act κ → InputWatch
  | .tick =>
    if s.1.isRunning then
      ((s.turn port).tick s.1.config port (s.2.board.samples.inPin1 port)).watch
    else s.1.inputs.get port
  | .enable other on =>
    if port = other then (s.1.inputs.get port).setEnabled on else s.1.inputs.get port
  | .request other command =>
    if port = other ∧ (s.1.inputs.get port).connected = true then
      (s.1.inputs.get port).requestCommand command
    else s.1.inputs.get port
  | .testMode _ => (s.1.inputs.get port).reset
  | .force .. | .world _ => s.1.inputs.get port

/-- The watch of an output port once something has happened. -/
def outputAfter (s : Station κ) (port : Port) : Act κ → OutputWatch
  | .tick =>
    if s.1.isRunning then
      ((s.output port).tick s.1.config port (s.2.board.samples.outPin5 port)).watch
    else s.1.outputs.get port
  | .testMode _ => (s.1.outputs.get port).reset
  | .enable .. | .request .. | .force .. | .world _ => s.1.outputs.get port

theorem input_act (a : Act κ) : (s.act a).1.inputs.get port = s.inputAfter port a := by
  cases a with
  | tick =>
    dsimp only [inputAfter]
    split
    · rename_i hrunning
      exact (tick_of_running hrunning port).1
    · rename_i hclosed
      rw [(tick_of_closed (Bool.eq_false_iff.mpr hclosed)).2.1]
  | enable other on =>
    show (s.1.inputs.modify other _).get port = if port = other then _ else _
    split
    · rename_i hport
      rw [hport, PerPort.get_modify_self]
    · rename_i hport
      rw [PerPort.get_modify_ne _ _ hport]
  | force other classification => rw [manager_force]; rfl
  | request other command =>
    rw [manager_request]
    dsimp only [inputAfter]
    by_cases hconnected : (s.1.inputs.get other).connected = true
    · rw [if_pos hconnected]
      by_cases hport : port = other
      · subst hport
        rw [PerPort.get_modify_self, if_pos ⟨rfl, hconnected⟩]
      · rw [PerPort.get_modify_ne _ _ hport, if_neg fun h => hport h.1]
    · rw [if_neg hconnected, if_neg]
      rintro ⟨rfl, h⟩
      exact hconnected h
  | testMode on => exact PerPort.get_map _ _ _
  | world shared => rfl

theorem output_act (a : Act κ) : ((s.act a).output port).watch = s.outputAfter port a := by
  cases a with
  | tick =>
    dsimp only [outputAfter]
    split
    · rename_i hrunning
      rw [output_tick hrunning]
    · rename_i hclosed
      show (s.act .tick).1.outputs.get port = _
      rw [(tick_of_closed (Bool.eq_false_iff.mpr hclosed)).2.2]
  | force other classification =>
    exact congrArg (fun manager : Manager => manager.outputs.get port) (manager_force other _)
  | request other command =>
    show (s.act (.request other command)).1.outputs.get port = _
    rw [manager_request]
    rfl
  | testMode on => exact PerPort.get_map _ _ _
  | enable other on | world shared => rfl

/-- Nothing changes the delays. -/
theorem config_act (a : Act κ) : (s.act a).1.config = s.1.config := by
  cases a with
  | tick =>
    cases hrunning : s.1.isRunning with
    | false => exact (tick_of_closed hrunning).1
    | true =>
      rw [show s.act .tick = Manager.tickWatches s from Manager.tick_of_running hrunning s.2]
      exact (Manager.tickOutputs_spares Port.all _).1.trans
        (Manager.tickInputs_spares Port.all s).1
  | force other classification => rw [manager_force]
  | request other command => rw [manager_request]
  | enable other on | testMode on | world shared => rfl

/-- Nothing moves the gate but a tick and the switch of test mode, which closes it. -/
theorem startup_act (a : Act κ) :
    (s.act a).1.startup = s.1.startup.next s.1.config s.1.testMode ∨
      (s.act a).1.startup = s.1.startup ∨ (s.act a).1.startup = .waitTestMode := by
  cases a with
  | tick => exact .inl (Manager.gate_tick s.1 s.2).1
  | force other classification => exact .inr (.inl (by rw [manager_force]))
  | request other command => exact .inr (.inl (by rw [manager_request]))
  | testMode on => exact .inr (.inr rfl)
  | enable other on | world shared => exact .inr (.inl rfl)

/-! ## The counts stay within their bounds -/

/-- Every count is one that the position of the gate or the stage of the port allows. -/
structure Bounded (config : DetectionConfig) (s : Station κ) : Prop where
  config_eq : s.1.config = config
  holdoff : ∀ elapsed, s.1.startup = .holdoff elapsed → elapsed.toNat ≤ 65534
  input : ∀ port, (s.1.inputs.get port).Bounded config
  output : ∀ port, (s.output port).Bounded config

omit [ColorProtocol κ] in
theorem bounded_fresh (config : DetectionConfig) (link : Option κ) :
    (fresh config link).Bounded config := by
  refine ⟨rfl, nofun, fun port => ?_, fun port => ?_⟩
  · show ((PerPort.const ({} : InputWatch)).get port).Bounded config
    rw [PerPort.get_const]
    exact Nat.zero_le _
  · show ((PerPort.const ({} : OutputWatch)).get port).timer.toNat ≤ _
    rw [PerPort.get_const]
    exact Nat.zero_le _

/-- Whatever happens keeps the counts within their bounds. -/
theorem bounded_act {config : DetectionConfig} (h : s.Bounded config) (a : Act κ) :
    (s.act a).Bounded config := by
  refine ⟨(config_act a).trans h.config_eq, fun elapsed helapsed => ?_, fun port => ?_,
    fun port => ?_⟩
  · rcases startup_act (s := s) a with hnext | hsame | hclosed
    · rw [helapsed] at hnext
      cases hstartup : s.1.startup with
      | holdoff before =>
        rw [hstartup, Startup.next] at hnext
        split at hnext
        · cases hnext
        · rename_i hrest
          cases hnext
          exact toNat_add_one_le_of_rest hrest
      | reset =>
        rw [hstartup] at hnext
        cases hnext
        exact Nat.zero_le _
      | waitTestMode =>
        rw [hstartup, Startup.next] at hnext
        split at hnext <;> cases hnext
      | running =>
        rw [hstartup] at hnext
        cases hnext
    · exact h.holdoff elapsed (hsame.symm.trans helapsed)
    · rw [helapsed] at hclosed
      cases hclosed
  · have hbefore := h.input port
    rw [input_act]
    cases a with
    | tick =>
      dsimp only [inputAfter]
      split
      · rw [h.config_eq]
        exact InputScene.bounded_tick (by rw [watch_turn]; exact hbefore)
      · exact hbefore
    | enable other on =>
      dsimp only [inputAfter]
      split <;> exact hbefore
    | request other command =>
      dsimp only [inputAfter]
      split
      · exact Nat.zero_le _
      · exact hbefore
    | testMode on => exact Nat.zero_le _
    | force other classification | world shared => exact hbefore
  · have hbefore := h.output port
    show ((s.act a).output port).watch.timer.toNat ≤
      ((s.act a).output port).watch.stage.outputCeiling config
    rw [output_act]
    cases a with
    | tick =>
      dsimp only [outputAfter]
      split
      · rw [h.config_eq]
        exact OutputState.bounded_tick hbefore
      · exact hbefore
    | testMode on => exact Nat.zero_le _
    | enable other on | request other command | force other classification | world shared =>
      exact hbefore

theorem bounded_acts {config : DetectionConfig} (h : s.Bounded config) (run : List (Act κ)) :
    (s.acts run).Bounded config :=
  List.foldlRecOn run act h fun _ h a _ => bounded_act h a

/-! ## How the counts get full -/

/-- What happens is a tick of the watches. -/
def moves (s : Station κ) : Act κ → Bool
  | .tick => s.1.isRunning
  | _ => false

/-- What happens starts the watch of an input port anew, or is a tick of it. -/
def disturbs (s : Station κ) (port : Port) : Act κ → Bool
  | .tick => s.1.isRunning
  | .request other _ => decide (port = other) && (s.1.inputs.get port).connected
  | .testMode _ => true
  | _ => false

/-- The port is in the wait for a session. -/
def busy (s : Station κ) (port : Port) : Bool := (s.1.inputs.get port).stage = .nxtColorBusy

/-- For how many ticks a port has waited for its session behind something that happens, if it had waited
for a number of ticks in front of it. -/
def waitedBehind (s : Station κ) (port : Port) (waited : Nat) (a : Act κ) : Nat :=
  if s.busy port && (s.act a).busy port then if s.moves a then waited + 1 else waited else 0

/-- For how many ticks a port has waited for its session at the end of a run. -/
def waited (s : Station κ) (port : Port) (run : List (Act κ)) : Nat :=
  (run.foldl (fun (now : Station κ × Nat) a => (now.1.act a, now.1.waitedBehind port now.2 a))
    (s, 0)).2

/-- The last tick of the watches made the third measurement of an output port. -/
def JustMeasured (s : Station κ) (port : Port) (run : List (Act κ)) : Prop :=
  Since
    (fun before a => (s.acts before).moves a = true ∧
      ((s.acts before).output port).measures s.1.config = true)
    (fun before a => (s.acts before).moves a = true ∨ ∃ on, a = .testMode on) run

/-- In the last tick of the watches an input port lost its link in the middle of a session, with its count
full. -/
def JustLostLink (s : Station κ) (port : Port) (run : List (Act κ)) : Prop :=
  Since
    (fun before a => (s.acts before).moves a = true ∧ ((s.acts before).turn port).waits = true ∧
      ((s.acts before).turn port).link = none ∧ s.waited port before % 65536 = 65535)
    (fun before a => (s.acts before).disturbs port a = true) run

theorem waited_concat (s : Station κ) (port : Port) (run : List (Act κ)) (last : Act κ) :
    s.waited port (run ++ [last]) =
      (s.acts run).waitedBehind port (s.waited port run) last := by
  have hacts : ∀ (run : List (Act κ)) (s : Station κ) (n : Nat),
      (run.foldl (fun (now : Station κ × Nat) a => (now.1.act a, now.1.waitedBehind port now.2 a))
        (s, n)).1 = s.acts run := by
    intro run
    induction run with
    | nil => exact fun _ _ => rfl
    | cons first rest ih => exact fun s n => ih (s.act first) _
  unfold waited
  rw [List.foldl_append, List.foldl_cons, List.foldl_nil, hacts]

variable {config : DetectionConfig}

/-- What happens to the count of a port that waits for its session. -/
theorem timer_of_busy_act (h : s.Bounded config) (a : Act κ) (hbusy : (s.act a).busy port = true) :
    ((s.act a).1.inputs.get port).timer =
      if s.busy port then
        if s.moves a then (s.1.inputs.get port).timer + 1 else (s.1.inputs.get port).timer
      else 0 := by
  have hstage : ((s.act a).1.inputs.get port).stage = .nxtColorBusy := of_decide_eq_true hbusy
  rw [input_act] at hstage ⊢
  have hkept : (s.1.inputs.get port).stage = .nxtColorBusy → s.moves a = false →
      (s.1.inputs.get port).timer =
        if s.busy port then
          if s.moves a then (s.1.inputs.get port).timer + 1 else (s.1.inputs.get port).timer
        else 0 := by
    intro hbefore hstill
    rw [busy, hbefore, hstill]
    rfl
  cases a with
  | tick =>
    dsimp only [inputAfter] at hstage ⊢
    by_cases hrunning : s.1.isRunning = true
    · have hbounded := h.input port
      rw [← watch_turn s port, ← h.config_eq] at hbounded
      rw [if_pos hrunning] at hstage ⊢
      rw [InputScene.timer_of_busy hbounded hstage, watch_turn, busy, moves, if_pos hrunning]
      simp only [decide_eq_true_eq]
    · rw [if_neg hrunning] at hstage ⊢
      exact hkept hstage (Bool.eq_false_iff.mpr hrunning)
  | enable other on =>
    dsimp only [inputAfter] at hstage ⊢
    split at hstage
    · rename_i hport
      rw [if_pos hport]
      exact hkept hstage rfl
    · rename_i hport
      rw [if_neg hport]
      exact hkept hstage rfl
  | request other command =>
    dsimp only [inputAfter] at hstage ⊢
    split at hstage
    · cases hstage
    · rename_i hport
      rw [if_neg hport]
      exact hkept hstage rfl
  | testMode on => cases hstage
  | force other classification | world shared => exact hkept hstage rfl

/-- **The count of a session is the number of ticks that it has been waited for**, as far as a word can
hold it. -/
theorem timer_of_busy (h : s.Bounded config) (hstart : s.busy port = false) (run : List (Act κ))
    (hbusy : (s.acts run).busy port = true) :
    ((s.acts run).1.inputs.get port).timer.toNat = s.waited port run % 65536 := by
  induction run using List.reverseRecOn with
  | nil =>
    rw [acts_nil, hstart] at hbusy
    cases hbusy
  | append_singleton run last ih =>
    rw [acts_concat] at hbusy ⊢
    rw [timer_of_busy_act (bounded_acts h run) last hbusy, waited_concat, waitedBehind, hbusy,
      Bool.and_true]
    cases hbefore : (s.acts run).busy port with
    | false => rfl
    | true =>
      have hcount := ih hbefore
      rw [if_pos rfl, if_pos rfl]
      split
      · rw [UInt16.toNat_add, hcount]
        exact Nat.mod_add_mod _ _ _
      · exact hcount

/-- The count of a session is full when it has been waited for as many ticks as fill the word, and however
often that many more. -/
theorem timer_full_iff (h : s.Bounded config) (hstart : s.busy port = false) (run : List (Act κ))
    (hwaits : ((s.acts run).turn port).waits = true) :
    ((s.acts run).1.inputs.get port).timer = 65535 ↔ s.waited port run % 65536 = 65535 := by
  have hbusy : (s.acts run).busy port = true := by
    rw [busy, ← watch_turn]
    exact (Bool.and_eq_true_iff.mp hwaits).2
  rw [← timer_of_busy h hstart run hbusy]
  exact UInt16.toNat_inj.symm

/-- An input port waits for its device to go, and its count is full. -/
def InputFull (s : Station κ) (port : Port) : Prop :=
  (s.1.inputs.get port).stage = .connectedWaitingForPin2High ∧ (s.1.inputs.get port).timer = 65535

/-- An output port waits for its device to go, and its count is full. -/
def OutputFull (s : Station κ) (port : Port) : Prop :=
  (s.output port).stage = .connectedWaitingForPortOpen ∧ (s.output port).watch.timer = 65535

theorem inputFull_act (h : s.Bounded config) (a : Act κ) :
    (s.act a).InputFull port ↔
      (s.moves a = true ∧ (s.turn port).waits = true ∧ (s.turn port).link = none ∧
        (s.1.inputs.get port).timer = 65535) ∨
      (s.InputFull port ∧ ¬s.disturbs port a = true) := by
  unfold InputFull
  rw [input_act]
  cases a with
  | tick =>
    dsimp only [inputAfter]
    by_cases hrunning : s.1.isRunning = true
    · have hbounded := h.input port
      rw [← watch_turn s port, ← h.config_eq] at hbounded
      rw [if_pos hrunning, ← watch_turn s port]
      simp only [moves, disturbs, hrunning, true_and, not_true, and_false, or_false]
      constructor
      · rintro ⟨hstage, htimer⟩
        exact InputScene.full_of_carried hbounded hstage htimer
      · rintro ⟨hwaits, hlink, htimer⟩
        obtain ⟨hstage, hcount⟩ := InputScene.tick_of_lost hwaits hlink
        exact ⟨hstage, hcount.trans htimer⟩
    · rw [if_neg hrunning]
      simp [moves, disturbs, hrunning]
  | enable other on =>
    dsimp only [inputAfter]
    split <;> simp [moves, disturbs, InputWatch.setEnabled]
  | request other command =>
    dsimp only [inputAfter]
    split
    · rename_i hasked
      obtain ⟨rfl, hconnected⟩ := hasked
      simp [moves, disturbs, InputWatch.requestCommand, hconnected]
    · rename_i hspared
      simp [moves, disturbs, hspared]
  | testMode on => simp [inputAfter, moves, disturbs, InputWatch.reset]
  | force other classification | world shared => simp [inputAfter, moves, disturbs]

theorem inputFull_iff (h : s.Bounded config) (hstart : s.busy port = false)
    (hinit : ¬s.InputFull port) (run : List (Act κ)) :
    (s.acts run).InputFull port ↔ s.JustLostLink port run := by
  induction run using List.reverseRecOn with
  | nil => exact iff_of_false hinit not_since_nil
  | append_singleton run last ih =>
    unfold JustLostLink at ih ⊢
    rw [acts_concat, inputFull_act (bounded_acts h run), ih, since_concat]
    refine or_congr_left (and_congr_right fun _ => and_congr_right fun hwaits => ?_)
    exact and_congr_right fun _ => timer_full_iff h hstart run hwaits

theorem outputFull_act (h : s.Bounded config) (hlimit : config.lowTicks = 65535) (a : Act κ) :
    (s.act a).OutputFull port ↔
      (s.moves a = true ∧ (s.output port).measures config = true) ∨
      (s.OutputFull port ∧ ¬(s.moves a = true ∨ ∃ on, a = .testMode on)) := by
  show ((s.act a).output port).watch.stage = _ ∧ ((s.act a).output port).watch.timer = _ ↔ _
  rw [output_act]
  cases a with
  | tick =>
    dsimp only [outputAfter]
    by_cases hrunning : s.1.isRunning = true
    · rw [if_pos hrunning, h.config_eq]
      refine (OutputState.full_tick_iff (h.output port)).trans ?_
      simp [moves, hrunning, hlimit]
    · rw [if_neg hrunning]
      simp [moves, hrunning, OutputFull, OutputState.stage, output]
  | testMode on => simp [outputAfter, OutputWatch.reset, moves]
  | enable other on | request other command | force other classification | world shared =>
    simp [outputAfter, moves, OutputFull, OutputState.stage, output]

theorem outputFull_iff (h : s.Bounded config) (hlimit : config.lowTicks = 65535)
    (hinit : ¬s.OutputFull port) (run : List (Act κ)) :
    (s.acts run).OutputFull port ↔ s.JustMeasured port run := by
  induction run using List.reverseRecOn with
  | nil => exact iff_of_false hinit not_since_nil
  | append_singleton run last ih =>
    unfold JustMeasured at ih ⊢
    rw [acts_concat, outputFull_act (bounded_acts h run) hlimit, ih, since_concat, h.config_eq]

/-! ## The ticks that do not fit -/

/-- The hold-off is full, and the coming tick is added to it. -/
def HoldOffOverflows (s : Station κ) : Prop := s.1.startup = .holdoff 65535

/-- The count of an input port has no room when its turn in the coming tick comes. -/
def InputOverflows (s : Station κ) (port : Port) : Prop :=
  s.1.isRunning = true ∧
    (s.turn port).overflows s.1.config port (s.2.board.samples.inPin1 port) = true

/-- The count of an output port has no room when its turn in the coming tick comes. -/
def OutputOverflows (s : Station κ) (port : Port) : Prop :=
  s.1.isRunning = true ∧ Manager.outputOverflows port s = true

/-- A round of the input ports has no room exactly if the turn of some port has none. -/
theorem inputsOverflow_iff (s : Station κ) :
    Manager.inputsOverflow Port.all s = true ↔
      ∃ port, (s.turn port).overflows s.1.config port (s.2.board.samples.inPin1 port) = true := by
  have hturn : ∀ port : Port, Manager.inputOverflows port
      (port.before.foldl (fun state port => Manager.tickInput port state) s) =
        (s.turn port).overflows s.1.config port (s.2.board.samples.inPin1 port) := by
    intro port
    obtain ⟨behind, -, hbefore, -⟩ := port.all_eq
    obtain ⟨hconfig, hsamples, -, -⟩ := tickInputs_of_notMem port.before hbefore s
    rw [Manager.inputOverflows, turn, hconfig, hsamples]
  simp only [← hturn]
  simp only [Port.all, Manager.inputsOverflow, Bool.or_eq_true, Bool.or_false]
  constructor
  · rintro (h | h | h | h)
    · exact ⟨.p1, h⟩
    · exact ⟨.p2, h⟩
    · exact ⟨.p3, h⟩
    · exact ⟨.p4, h⟩
  · rintro ⟨port, h⟩
    cases port with
    | p1 => exact .inl h
    | p2 => exact .inr (.inl h)
    | p3 => exact .inr (.inr (.inl h))
    | p4 => exact .inr (.inr (.inr h))

omit [ColorProtocol κ] in
/-- The turn of an output port finds its own port as it was. -/
theorem outputOverflows_of_eq {before after : Station κ}
    (hwatch : after.1.outputs.get port = before.1.outputs.get port)
    (hsocket : after.2.board.outputs.get port = before.2.board.outputs.get port)
    (hsamples : after.2.board.samples = before.2.board.samples) :
    Manager.outputOverflows port after = Manager.outputOverflows port before := by
  show OutputScene.overflows _ ⟨_, _, _⟩ = OutputScene.overflows _ ⟨_, _, _⟩
  rw [hwatch, hsocket, hsamples]
  rfl

omit [ColorProtocol κ] in
theorem outputsOverflow_iff {ports : List Port} (hports : ports.Nodup) (s : Station κ) :
    Manager.outputsOverflow ports s = true ↔
      ∃ port ∈ ports, Manager.outputOverflows port s = true := by
  induction ports generalizing s with
  | nil => simp [Manager.outputsOverflow]
  | cons first rest ih =>
    obtain ⟨hfirst, hrest⟩ := List.nodup_cons.mp hports
    have hkept : ∀ port ∈ rest, Manager.outputOverflows port (Manager.tickOutput first s) =
        Manager.outputOverflows port s := by
      intro port hmem
      have hne : port ≠ first := fun heq => hfirst (heq ▸ hmem)
      exact outputOverflows_of_eq (PerPort.get_set_ne _ _ hne) (PerPort.get_set_ne _ _ hne) rfl
    rw [Manager.outputsOverflow, Bool.or_eq_true, ih hrest]
    simp only [List.mem_cons, exists_eq_or_imp]
    exact or_congr_right (exists_congr fun port =>
      and_congr_right fun hmem => by rw [hkept port hmem])

/-- **The tick of a manager has no room exactly if one of its counts has none.** -/
theorem overflows_eq_true_iff (s : Station κ) :
    s.1.overflows s.2 = true ↔
      s.HoldOffOverflows ∨ ∃ port, s.InputOverflows port ∨ s.OutputOverflows port := by
  have houtputs : Manager.outputsOverflow Port.all
      (Port.all.foldl (fun state port => Manager.tickInput port state) s) = true ↔
        ∃ port, Manager.outputOverflows port s = true := by
    obtain ⟨-, hsamples, hwatches, hsockets⟩ := Manager.tickInputs_spares Port.all s
    rw [outputsOverflow_iff (by decide)]
    refine exists_congr fun port => ?_
    rw [outputOverflows_of_eq (by rw [hwatches]) (by rw [hsockets]) hsamples]
    exact and_iff_right (by cases port <;> decide)
  unfold Manager.overflows HoldOffOverflows InputOverflows OutputOverflows
  cases hstartup : s.1.startup with
  | waitTestMode | reset => simp [Manager.isRunning, hstartup]
  | holdoff elapsed => simp [Manager.isRunning, hstartup]
  | running =>
    have hrunning : s.1.isRunning = true := decide_eq_true hstartup
    simp only [hrunning, true_and, Bool.or_eq_true, reduceCtorEq, false_or, exists_or]
    exact or_congr (inputsOverflow_iff s) houtputs

theorem tick?_eq_none_iff (s : Station κ) :
    s.1.tick? s.2 = none ↔
      s.HoldOffOverflows ∨ ∃ port, s.InputOverflows port ∨ s.OutputOverflows port := by
  rw [← overflows_eq_true_iff]
  unfold Manager.tick?
  split <;> simp_all

/-- A session with the highest limit is never given up: a count that would be above it overflows. -/
theorem not_timesOut_of_full (hlimit : s.1.config.colorTimeoutTicks = 65535) :
    ¬s.TimesOut port := by
  rintro ⟨-, hlate⟩
  obtain ⟨link, -, hover⟩ := (Option.any_eq_true _ _).mp (Bool.and_eq_true_iff.mp hlate).2
  rw [hlimit] at hover
  have hover := UInt16.lt_iff_toNat_lt.mp (of_decide_eq_true hover)
  have htop : (65535 : UInt16).toNat = 65535 := rfl
  have hword := UInt16.toNat_lt ((if ColorProtocol.ready link port then 0
    else (s.turn port).watch.timer) + 1)
  omega

/-- The counts of a manager among their surroundings, all of which stay within their bounds, overflow
where an input or an output port has the full count that its stage allows. -/
theorem inputOverflows_iff {config : DetectionConfig} (h : s.Bounded config) :
    s.InputOverflows port ↔
      s.1.isRunning = true ∧ config.colorTimeoutTicks = 65535 ∧
        (s.1.inputs.get port).timer = 65535 ∧
          ((s.turn port).unanswered port = true ∨ (s.turn port).watch.enabled = true ∧
            (s.1.inputs.get port).stage = .connectedWaitingForPin2High ∧
              (s.turn port).gone config (s.2.board.samples.inPin1 port) = true) := by
  have hbounded := h.input port
  rw [← watch_turn s port] at hbounded ⊢
  rw [InputOverflows, InputScene.overflows, decide_eq_true_eq, h.config_eq,
    InputScene.count_full_iff hbounded]

omit [ColorProtocol κ] in
theorem outputOverflows_iff {config : DetectionConfig} (h : s.Bounded config) :
    s.OutputOverflows port ↔
      s.1.isRunning = true ∧ config.lowTicks = 65535 ∧ s.OutputFull port ∧
        (s.output port).loaded (s.2.board.samples.outPin5 port) = false := by
  have hcount : Manager.outputOverflows port s =
      decide ((s.output port).count? (s.2.board.samples.outPin5 port) = some 65535) :=
    congrArg (fun count? => decide (count? = some 65535))
      ((s.output port).count?_scene (s.2.board.samples.outPin5 port) s.2.journal)
  rw [OutputOverflows, hcount, decide_eq_true_eq, OutputState.count_full_iff (h.output port),
    OutputFull, and_assoc]

omit [ColorProtocol κ] in
theorem not_holdOffOverflows {config : DetectionConfig} (h : s.Bounded config) :
    ¬s.HoldOffOverflows :=
  fun hfull => absurd (h.holdoff 65535 hfull) (by decide)

/-- **The ticks that there is no room for.** A new manager ticks, is asked for things, and has
surroundings that change as they like, with any kind of colour sessions and any delays. It does not
answer with a tick exactly if the count of some port overflows. Ticks that there was no room for may lie
behind it: their counts have gone round the end of the word.

* The hold-off never overflows.
* The count of an input port overflows only with the highest limit for a session, that is with the longest
  time and ticks of a millisecond: at the tick at which the port has waited for an answer for as many ticks
  as fill the word, and still has none; and, where it has just lost its link instead, with the count full,
  at the next tick if the device seems to be gone.
* The count of an output port overflows only with the highest limit for a measurement, at the first tick
  behind the third measurement, if the port does not look loaded then. -/
theorem overflows_iff (config : DetectionConfig) (link : Option κ) (run : List (Act κ)) :
    let start := fresh config link
    let s := start.acts run
    (s.1.tick? s.2 = none ↔ ∃ port, s.InputOverflows port ∨ s.OutputOverflows port) ∧
      ¬s.HoldOffOverflows ∧ ∀ port,
      (s.InputOverflows port ↔
        s.1.isRunning = true ∧ config.colorTimeoutMs = 65535 ∧ config.tickMs ≤ 1 ∧
          ((s.turn port).unanswered port = true ∧ start.waited port run % 65536 = 65535 ∨
            (s.turn port).watch.enabled = true ∧
              (s.turn port).gone config (s.2.board.samples.inPin1 port) = true ∧
              start.JustLostLink port run)) ∧
      (s.OutputOverflows port ↔
        s.1.isRunning = true ∧ config.lowMs = 65535 ∧ config.tickMs ≤ 1 ∧
          (s.output port).loaded (s.2.board.samples.outPin5 port) = false ∧
          start.JustMeasured port run) := by
  intro start s
  have hfresh : start.Bounded config := bounded_fresh config link
  have h : s.Bounded config := bounded_acts hfresh run
  refine ⟨?_, not_holdOffOverflows h, fun port => ⟨?_, ?_⟩⟩
  · rw [tick?_eq_none_iff, or_iff_right (not_holdOffOverflows h)]
  · have hidle : start.busy port = false := by
      rw [busy, show start.1.inputs.get port = {} from PerPort.get_const _ port]
      rfl
    have hinit : ¬start.InputFull port := by
      rw [InputFull, show start.1.inputs.get port = {} from PerPort.get_const _ port]
      rintro ⟨⟨⟩, -⟩
    have hcount : (s.turn port).unanswered port = true →
        ((s.1.inputs.get port).timer = 65535 ↔ start.waited port run % 65536 = 65535) :=
      fun hwaits => timer_full_iff hfresh hidle run (Bool.and_eq_true_iff.mp hwaits).1
    rw [← inputFull_iff hfresh hidle hinit run, InputFull, inputOverflows_iff h,
      DetectionConfig.colorTimeoutTicks, DetectionConfig.ticks_eq_max_iff]
    constructor
    · rintro ⟨hrunning, ⟨hms, htick⟩, htimer, hwaits | ⟨hon, hstage, hgone⟩⟩
      · exact ⟨hrunning, hms, htick, .inl ⟨hwaits, (hcount hwaits).mp htimer⟩⟩
      · exact ⟨hrunning, hms, htick, .inr ⟨hon, hgone, hstage, htimer⟩⟩
    · rintro ⟨hrunning, hms, htick, ⟨hwaits, hfull⟩ | ⟨hon, hgone, hstage, htimer⟩⟩
      · exact ⟨hrunning, ⟨hms, htick⟩, (hcount hwaits).mpr hfull, .inl hwaits⟩
      · exact ⟨hrunning, ⟨hms, htick⟩, htimer, .inr ⟨hon, hstage, hgone⟩⟩
  · have hinit : ¬start.OutputFull port := by
      rw [OutputFull, OutputState.stage,
        show (start.output port).watch = {} from PerPort.get_const _ port]
      rintro ⟨⟨⟩, -⟩
    rw [outputOverflows_iff h]
    constructor
    · rintro ⟨hrunning, hlimit, hfull, hopen⟩
      have hdelay := (DetectionConfig.ticks_eq_max_iff config config.lowMs).mp hlimit
      exact ⟨hrunning, hdelay.1, hdelay.2, hopen, (outputFull_iff hfresh hlimit hinit run).mp hfull⟩
    · rintro ⟨hrunning, hms, htick, hopen, hmeasured⟩
      have hlimit : config.lowTicks = 65535 :=
        (DetectionConfig.ticks_eq_max_iff config config.lowMs).mpr ⟨hms, htick⟩
      exact ⟨hrunning, hlimit, (outputFull_iff hfresh hlimit hinit run).mpr hmeasured, hopen⟩

end Station

end PlugWatch
