import PlugWatch.Proofs.Detection.Independence
import PlugWatch.Proofs.Detection.InputReturn
import PlugWatch.Proofs.Detection.OutputReturn
/-!
# Unplugging

Once nothing is plugged in any more and user space keeps out of it, every port gets back to the watch
for the next plug: from any stage, in the middle of a debounce, of a measurement or of a colour session,
whatever pins a session has left driven, and within a number of ticks that the delays say.

## Main Definitions

* `Act.drivesPin`, `Act.ofUser` : what user space has a hand in.
* `Detector.Unplugged` : a run in which nothing is plugged in.
* `unplugTicks` : the number of ticks that it takes.

## Main Statements

* `InputView.ticksLeft_acts`, `OutputView.ticksLeft_acts` : the ticks of a run are ticks that a vacant
  port does not have left any more.
* `Detector.unplugged_ports_get_empty` : unplugging always leads back to an empty port.
-/

namespace PlugWatch

namespace Act

/-- Whether user space drives a pin. -/
def drivesPin : Act → Bool
  | input _ (.drive _ _) | output _ (.drive _ _) => true
  | _ => false

/-- Whether user space has a hand in what happens. -/
def ofUser : Act → Bool
  | testMode _ | input _ (.enable _) | input _ (.force _) | input _ (.request _) => true
  | act => act.drivesPin

theorem not_drivesPin_of_not_ofUser {act : Act} (h : act.ofUser = false) :
    act.drivesPin = false := by
  cases act with
  | input port act => cases act <;> first | rfl | cases h
  | output port act => cases act <;> first | rfl | cases h
  | _ => rfl

theorem ne_testMode_of_not_ofUser {act : Act} (h : act.ofUser = false) (on : Bool) :
    act ≠ .testMode on := by
  rintro rfl
  cases h

end Act

/-! ## Runs that a measure limits -/

/-- The ticks of a run are ticks that are not left any more, if every tick that finds things in order
lowers the ticks that are left, and nothing else changes them. -/
theorem Detector.measure_acts (Good Ready : Detector → Prop) (left : Detector → Nat)
    (hgood : ∀ {state act}, Good state → act.ofUser = false → Good (state.act act))
    (htick : ∀ {state}, Good state → Ready state → left (state.act .tick) ≤ left state - 1)
    (hrest : ∀ {state act}, act.ofUser = false → act ≠ .tick → left (state.act act) = left state)
    (run : List Act) (hrun : ∀ act ∈ run, act.ofUser = false) :
    ∀ {state : Detector}, Good state →
      (∀ before, before ++ [.tick] <+: run → Ready (state.acts before)) →
      Good (state.acts run) ∧ left (state.acts run) ≤ left state - run.count .tick := by
  induction run with
  | nil =>
    intro state h _
    exact ⟨h, Nat.le_refl _⟩
  | cons first rest ih =>
    intro state h hready
    have hfirst := hrun first List.mem_cons_self
    obtain ⟨hend, hleft⟩ := ih (fun act hmem => hrun act (List.mem_cons_of_mem _ hmem))
      (hgood h hfirst)
      fun before hbefore => hready (first :: before) (List.cons_prefix_cons.mpr ⟨rfl, hbefore⟩)
    refine ⟨hend, ?_⟩
    rw [Detector.acts_cons]
    by_cases hnow : first = .tick
    · subst hnow
      have hlower := htick h (hready [] (by simp))
      rw [List.count_cons_self]
      omega
    · rw [List.count_cons_of_ne hnow]
      rw [hrest hfirst hnow] at hleft
      exact hleft

/-! ## One input port -/

namespace InputView

variable {port : Port} {view : InputView}

/-- The invariant of a port with the thresholds that it goes by. -/
def Sound (view : InputView) : Prop := view.state.Sound view.config

/-- A tick sees nothing plugged in, and finds the command taken over. -/
def Returning (view : InputView) : Prop :=
  view.state.Vacant view.pin1 ∧ view.state.handshake.settled = true

theorem sound_act (hcolor : view.config.colorTimeoutTicks.toNat < 65535) (h : view.Sound)
    {act : Act} (hact : act.drivesPin = false) : (view.act port act).Sound := by
  unfold Sound
  rw [config_act]
  cases act with
  | tick =>
    unfold InputView.act
    dsimp only
    split
    · exact PortState.sound_tick hcolor h
    · exact h
  | linkTick => exact PortState.sound_colorTick _ h
  | testMode on => exact PortState.sound_reset h
  | sample slot counts =>
    unfold InputView.act
    dsimp only
    split <;> exact h
  | input other act =>
    unfold InputView.act
    dsimp only
    split
    · refine PortState.sound_onPort h fun role drive heq => ?_
      subst heq
      cases hact
    · exact h
  | output other act => exact h

/-- What is not done by user space changes, but for a tick, neither the watch nor the gate. -/
theorem watch_act {act : Act} (hact : act.ofUser = false) (htick : act ≠ .tick) :
    (view.act port act).state.watch = view.state.watch ∧
      (view.act port act).startup = view.startup := by
  cases act with
  | tick => exact absurd rfl htick
  | linkTick => exact ⟨(PortState.colorTick_frame _ view.state).2, rfl⟩
  | testMode on => cases hact
  | sample slot counts =>
    unfold InputView.act
    dsimp only
    split <;> exact ⟨rfl, rfl⟩
  | input other act =>
    unfold InputView.act
    dsimp only
    split
    · cases act with
      | latch | setLatched command | plug level sensor => exact ⟨rfl, rfl⟩
      | enable on | force classification | request command | drive role drive => cases hact
    · exact ⟨rfl, rfl⟩
  | output other act => exact ⟨rfl, rfl⟩

/-- A port on its way back: the gate is open, detection is on, and the invariant holds. -/
structure Underway (view : InputView) : Prop where
  color : view.config.colorTimeoutTicks.toNat < 65535
  running : view.startup = .running
  enabled : view.state.enabled = true
  sound : view.Sound

theorem underway_act (h : view.Underway) {act : Act} (hact : act.ofUser = false) :
    (view.act port act).Underway := by
  have hsound : (view.act port act).Sound :=
    sound_act h.color h.sound (Act.not_drivesPin_of_not_ofUser hact)
  have hcolor : (view.act port act).config.colorTimeoutTicks.toNat < 65535 := by
    rw [config_act]
    exact h.color
  by_cases htick : act = .tick
  · subst htick
    refine ⟨hcolor, ?_, ?_, hsound⟩
    · rw [act_tick h.running]
      exact h.running
    · rw [act_tick h.running]
      exact (PortState.enabled_tick _ _ _ _).trans h.enabled
  · obtain ⟨hwatch, hstartup⟩ := @watch_act port view act hact htick
    refine ⟨hcolor, hstartup.trans h.running, ?_, hsound⟩
    rw [PortState.enabled, hwatch]
    exact h.enabled

/-- The ticks that are left for a port. -/
def ticksLeft (view : InputView) : Nat := view.state.ticksLeft view.config

theorem ticksLeft_tick (h : view.Underway) (hreturning : view.Returning) :
    (view.act port .tick).ticksLeft ≤ view.ticksLeft - 1 := by
  have hnearer := @PortState.nearer_tick view.config port view.pin1 view.state h.color h.enabled
    h.sound
  rw [act_tick h.running]
  exact hnearer.2 hreturning.1 hreturning.2

theorem ticksLeft_act {act : Act} (hact : act.ofUser = false) (htick : act ≠ .tick) :
    (view.act port act).ticksLeft = view.ticksLeft := by
  rw [ticksLeft, ticksLeft, config_act, PortState.ticksLeft, PortState.ticksLeft, PortState.stage,
    (watch_act hact htick).1]
  rfl

/-- A port that has no ticks left is back at the watch for the next plug, and says nothing. -/
theorem empty_of_ticksLeft_eq_zero (h : view.Sound) (hzero : view.ticksLeft = 0) :
    view.state.stage = .floating ∧ view.state.connected = false ∧ view.state.verdict = .none := by
  have hstage : view.state.stage = .floating :=
    DetectionConfig.stage_of_inputTicksLeft_eq_zero h.timely hzero
  have hundetected : view.state.stage.undetected = true := by rw [hstage]; rfl
  exact ⟨hstage, h.consistent.unconnected hundetected, h.consistent.unpublished hundetected⟩

end InputView

/-! ## One output port -/

namespace OutputView

variable {port : Port} {view : OutputView}

/-- The invariant of a port with the thresholds that it goes by. -/
def Sound (view : OutputView) : Prop := view.state.Sound view.config

theorem sound_act (hlow : view.config.lowTicks.toNat < 65535) (h : view.Sound)
    {act : Act} (hact : act.drivesPin = false) : (view.act port act).Sound := by
  unfold Sound
  rw [config_act]
  cases act with
  | tick =>
    unfold OutputView.act
    dsimp only
    split
    · exact OutputState.sound_tick h hlow
    · exact h
  | testMode on => exact OutputState.sound_reset h
  | sample slot counts =>
    unfold OutputView.act
    dsimp only
    split <;> exact h
  | output other act =>
    unfold OutputView.act
    dsimp only
    split
    · refine OutputState.sound_onPort h fun role drive heq => ?_
      subst heq
      cases hact
    · exact h
  | linkTick => exact h
  | input other act => exact h

/-- A port on its way back: the gate is open, and the invariant holds. -/
structure Underway (view : OutputView) : Prop where
  low : view.config.lowTicks.toNat < 65535
  running : view.startup = .running
  sound : view.Sound

theorem underway_act (h : view.Underway) {act : Act} (hact : act.ofUser = false) :
    (view.act port act).Underway := by
  have hlow : (view.act port act).config.lowTicks.toNat < 65535 := by
    rw [config_act]
    exact h.low
  refine ⟨hlow, ?_, sound_act h.low h.sound (Act.not_drivesPin_of_not_ofUser hact)⟩
  by_cases htick : act = .tick
  · subst htick
    rw [act_tick h.running]
    exact h.running
  · exact (watch_act htick (Act.ne_testMode_of_not_ofUser hact)).1.trans h.running

/-- The ticks that are left for a port. -/
def ticksLeft (view : OutputView) : Nat := view.state.ticksLeft view.config

theorem ticksLeft_tick (h : view.Underway) (hvacant : view.state.Vacant view.pin5) :
    (view.act port .tick).ticksLeft ≤ view.ticksLeft - 1 := by
  have hnearer := @OutputState.nearer_tick view.config port view.pin5 view.state h.sound h.low
  rw [act_tick h.running]
  exact hnearer.left hvacant

theorem ticksLeft_act {act : Act} (hact : act.ofUser = false) (htick : act ≠ .tick) :
    (view.act port act).ticksLeft = view.ticksLeft := by
  rw [ticksLeft, ticksLeft, config_act, OutputState.ticksLeft, OutputState.ticksLeft,
    OutputState.stage, (watch_act htick (Act.ne_testMode_of_not_ofUser hact)).2]
  rfl

/-- A port that has no ticks left is back at the watch for the next plug, and says nothing. -/
theorem empty_of_ticksLeft_eq_zero (h : view.Sound) (hzero : view.ticksLeft = 0) :
    view.state.stage = .floating ∧ view.state.connected = false ∧ view.state.verdict = .none := by
  have hstage : view.state.stage = .floating :=
    DetectionConfig.stage_of_outputTicksLeft_eq_zero h.timely hzero
  exact ⟨hstage, h.consistent.measuring (by rw [hstage]; rfl)⟩

end OutputView

/-! ## All ports -/

/-- The ticks after which every port is back at the watch for the next plug. -/
def unplugTicks (config : DetectionConfig) : Nat :=
  10 + config.floatTicks.toNat + config.touchTicks.toNat + config.colorTimeoutTicks.toNat +
    config.releaseTicks.toNat + 2 * config.lowTicks.toNat

/-- The first tick of a run counts as well, though it may find a command that was not taken over. -/
theorem inputTicksLeft_lt_unplugTicks (config : DetectionConfig) (stage : Stage) (timer : Nat) :
    config.inputTicksLeft stage timer < unplugTicks config := by
  have hmost := config.inputTicksLeft_le stage timer
  unfold DetectionConfig.releaseTicksLeft span at hmost
  unfold unplugTicks
  omega

theorem outputTicksLeft_lt_unplugTicks (config : DetectionConfig) (stage : Stage) (timer : Nat) :
    config.outputTicksLeft stage timer < unplugTicks config := by
  have hmost := config.outputTicksLeft_le stage timer
  unfold span at hmost
  unfold unplugTicks
  omega

namespace Detector

/-- Nothing is plugged into any port. -/
def Vacant (state : Detector) : Prop :=
  ∀ port, (Manager.portState state port).Vacant (state.2.board.samples.inPin1 port) ∧
    (Manager.outputState state port).Vacant (state.2.board.samples.outPin5 port)

instance (state : Detector) : Decidable state.Vacant :=
  decidable_of_iff
    (∀ port ∈ Port.all, (Manager.portState state port).Vacant (state.2.board.samples.inPin1 port) ∧
      (Manager.outputState state port).Vacant (state.2.board.samples.outPin5 port))
    ⟨fun h port => h port (Port.mem_all port), fun h port _ => h port⟩

/-- Every command that is asked for is taken over. -/
def Latched (state : Detector) : Prop :=
  ∀ port, (Manager.portState state port).handshake.settled = true

instance (state : Detector) : Decidable state.Latched :=
  decidable_of_iff (∀ port ∈ Port.all, (Manager.portState state port).handshake.settled = true)
    ⟨fun h port => h port (Port.mem_all port), fun h port _ => h port⟩

/-- A run in which nothing is plugged into any port. User space stays out of it, and between two ticks
every command that is asked for is taken over. -/
structure Unplugged (start : Detector) (run : List Act) : Prop where
  untouched : ∀ act ∈ run, act.ofUser = false
  vacant : ∀ before, before <+: run → (start.acts before).Vacant
  latched : ∀ before, before ++ [.tick] <+: run → .tick ∈ before → (start.acts before).Latched

/-- The ticks of a run in which nothing is plugged in are ticks that an input port does not have left
any more. -/
theorem input_unplugged {start : Detector} {run : List Act} (port : Port)
    (hrun : ∀ act ∈ run, act.ofUser = false)
    (hready : ∀ before, before ++ [.tick] <+: run → ((start.acts before).inputView port).Returning)
    (h : (start.inputView port).Underway) :
    ((start.acts run).inputView port).Underway ∧
      ((start.acts run).inputView port).ticksLeft ≤
        (start.inputView port).ticksLeft - run.count .tick := by
  refine measure_acts (fun state => (state.inputView port).Underway)
    (fun state => (state.inputView port).Returning) (fun state => (state.inputView port).ticksLeft)
    ?_ ?_ ?_ run hrun h hready
  · intro state act h hact
    rw [inputView_act]
    exact InputView.underway_act h hact
  · intro state h hreturning
    rw [inputView_act]
    exact InputView.ticksLeft_tick h hreturning
  · intro state act hact htick
    rw [inputView_act]
    exact InputView.ticksLeft_act hact htick

/-- The ticks of a run in which nothing is plugged in are ticks that an output port does not have left
any more. -/
theorem output_unplugged {start : Detector} {run : List Act} (port : Port)
    (hrun : ∀ act ∈ run, act.ofUser = false)
    (hready : ∀ before, before ++ [.tick] <+: run →
      ((start.acts before).outputView port).state.Vacant ((start.acts before).outputView port).pin5)
    (h : (start.outputView port).Underway) :
    ((start.acts run).outputView port).Underway ∧
      ((start.acts run).outputView port).ticksLeft ≤
        (start.outputView port).ticksLeft - run.count .tick := by
  refine measure_acts (fun state => (state.outputView port).Underway)
    (fun state => (state.outputView port).state.Vacant (state.outputView port).pin5)
    (fun state => (state.outputView port).ticksLeft) ?_ ?_ ?_ run hrun h hready
  · intro state act h hact
    rw [outputView_act]
    exact OutputView.underway_act h hact
  · intro state h hvacant
    rw [outputView_act]
    exact OutputView.ticksLeft_tick h hvacant
  · intro state act hact htick
    rw [outputView_act]
    exact OutputView.ticksLeft_act hact htick

/-- Without a hand on the pins, a new detector keeps the invariants of its ports. -/
theorem sound_fresh {config : DetectionConfig} {link : Option ColorLink}
    (hcolor : config.colorTimeoutTicks.toNat < 65535) (hlow : config.lowTicks.toNat < 65535)
    {history : List Act} (hhistory : ∀ act ∈ history, act.drivesPin = false) (port : Port) :
    let state := (fresh config link).acts history
    state.1.config = config ∧ (state.inputView port).Sound ∧ (state.outputView port).Sound := by
  have hinput : ((fresh config link).inputView port).Sound :=
    ⟨.of_free (by cases port <;> rfl) (by cases port <;> rfl),
      by cases port <;> exact nofun, by cases port <;> rfl,
      by cases port <;> exact config.inputDwell_pos _⟩
  have houtput : ((fresh config link).outputView port).Sound :=
    ⟨.of_init (by cases port <;> rfl), by cases port <;> rfl,
      by cases port <;> exact config.outputDwell_pos _⟩
  refine @acts_preserves (fun state => state.1.config = config ∧ (state.inputView port).Sound ∧
    (state.outputView port).Sound) history ?_ _ ⟨rfl, hinput, houtput⟩
  rintro state ⟨hconfig, hinput, houtput⟩ act hmem
  refine ⟨(state.config_act act).trans hconfig, ?_, ?_⟩
  · rw [inputView_act]
    exact InputView.sound_act (by rw [inputView, hconfig]; exact hcolor) hinput (hhistory act hmem)
  · rw [outputView_act]
    exact OutputView.sound_act (by rw [outputView, hconfig]; exact hlow) houtput (hhistory act hmem)

/-- An input port in an empty run is back at the watch for the next plug after a number of ticks. The
first tick may find a command that was not taken over, so it is not one of those that are counted. -/
theorem input_empty {start : Detector} {run : List Act} {port : Port} (hrun : start.Unplugged run)
    (h : (start.inputView port).Underway) (hn : unplugTicks start.1.config ≤ run.count .tick) :
    let input := Manager.portState (start.acts run) port
    input.stage = .floating ∧ input.connected = false ∧ input.verdict = .none := by
  have htick : .tick ∈ run := List.count_pos_iff.mp (by unfold unplugTicks at hn; omega)
  obtain ⟨before, after, rfl, hfirst⟩ := List.eq_append_cons_of_mem htick
  rw [List.count_append, List.count_eq_zero.mpr hfirst, List.count_cons_self] at hn
  have hsplit : before ++ .tick :: after = before ++ [.tick] ++ after := by simp
  rw [hsplit] at hrun ⊢
  have hunderway : ((start.acts (before ++ [.tick])).inputView port).Underway := by
    refine @acts_preserves (fun state => (state.inputView port).Underway) _ ?_ _ h
    intro state hunderway act hmem
    rw [inputView_act]
    exact InputView.underway_act hunderway (hrun.untouched act (List.mem_append_left after hmem))
  have hready : ∀ earlier, earlier ++ [.tick] <+: after →
      (((start.acts (before ++ [.tick])).acts earlier).inputView port).Returning := by
    intro earlier hearlier
    have hinit : before ++ [.tick] ++ earlier ++ [.tick] <+: before ++ [.tick] ++ after := by
      rw [List.append_assoc]
      exact (List.prefix_append_right_inj _).mpr hearlier
    have hvacant := hrun.vacant _ ((List.prefix_append _ _).trans hinit) port
    have hlatched := hrun.latched _ hinit (by simp) port
    rw [acts_append] at hvacant hlatched
    exact ⟨hvacant.1, hlatched⟩
  obtain ⟨hend, hleft⟩ := input_unplugged port
    (fun act hmem => hrun.untouched act (List.mem_append_right _ hmem)) hready hunderway
  rw [acts_append]
  refine InputView.empty_of_ticksLeft_eq_zero hend.sound ?_
  have hmost : ((start.acts (before ++ [.tick])).inputView port).ticksLeft <
      unplugTicks (start.acts (before ++ [.tick])).1.config :=
    inputTicksLeft_lt_unplugTicks _ _ _
  rw [config_acts] at hmost
  omega

/-- An output port in an empty run is back at the watch for the next plug after a number of ticks. -/
theorem output_empty {start : Detector} {run : List Act} {port : Port} (hrun : start.Unplugged run)
    (h : (start.outputView port).Underway) (hn : unplugTicks start.1.config ≤ run.count .tick) :
    let output := Manager.outputState (start.acts run) port
    output.stage = .floating ∧ output.connected = false ∧ output.verdict = .none := by
  obtain ⟨hend, hleft⟩ := output_unplugged port hrun.untouched
    (fun before hbefore => (hrun.vacant before ((List.prefix_append _ _).trans hbefore) port).2) h
  refine OutputView.empty_of_ticksLeft_eq_zero hend.sound ?_
  have hmost : (start.outputView port).ticksLeft < unplugTicks start.1.config :=
    outputTicksLeft_lt_unplugTicks _ _ _
  omega

/-- **Unplugging always leads back to an empty port.** Let the time-out of colour sessions and the
settle time of the measurements not fill a timer. Take any state that a new detector, with a colour link
or without, can get to while user space drives no pin, with the gate open; and from there a run in which
every port is empty and user space stays out of it. Then once the run has a number of ticks, and from
then on, every output port and every input port whose detection is on is watched for the next plug, not
connected, and publishes nothing. -/
theorem unplugged_ports_get_empty {config : DetectionConfig} {link : Option ColorLink}
    (hcolor : config.colorTimeoutTicks.toNat < 65535) (hlow : config.lowTicks.toNat < 65535)
    {history run : List Act} (hhistory : ∀ act ∈ history, act.drivesPin = false)
    (hrunning : ((fresh config link).acts history).1.isRunning = true)
    (hrun : ((fresh config link).acts history).Unplugged run)
    (hn : unplugTicks config ≤ run.count .tick) (port : Port) :
    let start := (fresh config link).acts history
    let input := Manager.portState (start.acts run) port
    let output := Manager.outputState (start.acts run) port
    ((Manager.portState start port).enabled = true →
        input.stage = .floating ∧ input.connected = false ∧ input.verdict = .none) ∧
      output.stage = .floating ∧ output.connected = false ∧ output.verdict = .none := by
  intro start input output
  obtain ⟨hconfig, hinput, houtput⟩ := @sound_fresh config link hcolor hlow history hhistory port
  have hstartup : start.1.startup = .running := start.1.isRunning_iff.mp hrunning
  rw [← hconfig] at hcolor hlow hn
  constructor
  · intro henabled
    exact input_empty hrun ⟨hcolor, hstartup, henabled, hinput⟩ hn
  · exact output_empty hrun ⟨hlow, hstartup, houtput⟩ hn

/-- Ports that are unplugged while a colour session runs on the first one and drives its clock line, and
while devices are connected to all the others, are empty after twelve ticks. -/
theorem unplugged_ports_get_empty_session :
    let config : DetectionConfig :=
      { resetMs := 0, floatMs := 0, lowMs := 0, touchMs := 0, connectMs := 0, releaseMs := 20
        colorTimeoutMs := 20, pin2Detection := true }
    let history : List Act :=
      .input .p1 (.plug ⟨true, false, true, false, false⟩ none) :: List.replicate 10 .tick ++
        List.replicate 2 .linkTick ++
        .input .p1 (.plug InputLines.emptyLevel none) :: Port.all.flatMap fun port =>
          [.sample (.inPin1 port) 4095, .sample (.outPin5 port) 2048]
    let run : List Act := (List.replicate 14 [Act.linkTick, .tick]).flatten
    let start := (fresh config (some {})).acts history
    (unplugTicks config = 14 ∧ start.Unplugged run ∧
        (Manager.portState start .p1).stage = .nxtColorBusy ∧
        (Manager.portState start .p1).lines.drive.get .pin5 = .high ∧
        (Manager.outputState start .p1).connected = true) ∧
      (Manager.portState (start.acts run) .p1).stage = .floating ∧
        (Manager.outputState (start.acts run) .p1).stage = .floating := by
  intro config history run start
  have hticks : unplugTicks config = 14 := by decide +kernel
  have hinits : ∀ n ≤ run.length,
      (start.acts (run.take n)).Vacant ∧ (start.acts (run.take n)).Latched := by
    decide +kernel
  have hinit : ∀ before, before <+: run →
      (start.acts before).Vacant ∧ (start.acts before).Latched := by
    intro before hbefore
    rw [List.prefix_iff_eq_take.mp hbefore]
    exact hinits before.length hbefore.length_le
  have hrun : start.Unplugged run :=
    ⟨by decide +kernel, fun before hbefore => (hinit before hbefore).1,
      fun before hbefore _ => (hinit before ((List.prefix_append _ _).trans hbefore)).2⟩
  have hempty := @unplugged_ports_get_empty config (some {}) (by decide +kernel) (by decide +kernel)
    history run (by decide +kernel) (by decide +kernel) hrun (by decide +kernel) .p1
  refine ⟨⟨hticks, hrun, by decide +kernel, by decide +kernel, by decide +kernel⟩, ?_, hempty.2.1⟩
  exact (hempty.1 (by decide +kernel)).1

end Detector

end PlugWatch
