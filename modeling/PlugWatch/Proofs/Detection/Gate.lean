import PlugWatch.Proofs.Detection.Detector
import PlugWatch.Proofs.Detection.InputTick
/-!
# The power-up gate

Where the gate of the manager stands is a function of two things: whether the last switch of test mode
turned it on, and how many ticks there have been since then. What else happens does not count, and
neither does where the gate stood when test mode was switched. While the gate is closed a tick moves
the gate and nothing else; once it is open, every tick is one tick of each port.

## Main Definitions

* `Startup.after` : the position of the gate after a number of ticks without test mode.
* `Detector.testModeAfter`, `Detector.ticksAfter` : whether a history leaves test mode on, and how many
  ticks it has behind its last switch.
* `Detector.GatedBy` : a detector whose gate stands where mode and ticks put it.

## Main Statements

* `Manager.tick_of_closed` : what a tick does while the gate is closed.
* `Detector.gatedBy_act`, `Detector.gatedBy_acts` : every act, and so every history, keeps the gate
  where mode and ticks put it.
* `Detector.gate_holds_then_opens` : how long the gate holds the ports, and what a tick is then.
-/

namespace PlugWatch

/-! ## The hold-off -/

namespace Startup

/-- The position of the gate after a number of ticks without test mode. -/
def after (config : DetectionConfig) : Nat → Startup
  | 0 => .waitTestMode
  | 1 => .reset
  | k + 2 => if k < span config.resetTicks then .holdoff (UInt16.ofNat k) else .running

/-- The number of ticks after which the gate is open. -/
def ticksToOpen (config : DetectionConfig) : Nat := 2 + span config.resetTicks

theorem next_after (config : DetectionConfig) (n : Nat) :
    (after config n).next config false = after config (n + 1) := by
  have hspan := span_pos config.resetTicks
  match n with
  | 0 => rfl
  | 1 => exact (if_pos hspan).symm
  | k + 2 =>
    show (if k < span config.resetTicks then Startup.holdoff (UInt16.ofNat k) else .running).next
      config false = if k + 1 < span config.resetTicks then .holdoff (UInt16.ofNat (k + 1)) else .running
    by_cases hk : k < span config.resetTicks
    · have hlimit := config.resetTicks.toNat_lt
      have hbound : k + 1 < 2 ^ 16 := by
        unfold span at hk
        omega
      have hk16 : (UInt16.ofNat k).toNat = k := by
        rw [UInt16.toNat_ofNat', Nat.mod_eq_of_lt (by omega)]
      have htimer : (UInt16.ofNat k).toNat < span config.resetTicks := by rw [hk16]; exact hk
      rw [if_pos hk]
      show (if config.resetTicks ≤ UInt16.ofNat k + 1 then Startup.running
        else .holdoff (UInt16.ofNat k + 1)) = _
      rcases span_cases htimer with ⟨hover, hlast⟩ | ⟨hrest, hnext, hlt⟩
      · rw [if_pos hover, if_neg (by omega)]
      · rw [if_neg hrest, if_pos (by omega)]
        congr 1
        rw [← UInt16.toNat_inj, hnext, hk16, UInt16.toNat_ofNat', Nat.mod_eq_of_lt hbound]
    · rw [if_neg hk, if_neg (by omega)]
      rfl

theorem after_eq_running {config : DetectionConfig} {n : Nat} :
    after config n = .running ↔ ticksToOpen config ≤ n := by
  have hspan := span_pos config.resetTicks
  unfold ticksToOpen
  match n with
  | 0 => exact ⟨nofun, fun h => by omega⟩
  | 1 => exact ⟨nofun, fun h => by omega⟩
  | k + 2 =>
    show (if k < span config.resetTicks then Startup.holdoff (UInt16.ofNat k) else .running) =
      .running ↔ _
    by_cases hk : k < span config.resetTicks
    · rw [if_pos hk]
      exact ⟨nofun, fun h => by omega⟩
    · rw [if_neg hk]
      exact ⟨fun _ => by omega, fun _ => rfl⟩

end Startup

namespace Manager

/-- While the gate is closed a tick moves the gate, reports when it opens, and does nothing else. -/
theorem tick_of_closed {manager : Manager} (hclosed : manager.isRunning = false)
    (shared : Shared ColorLink) :
    manager.tick shared =
      ({ manager with startup := manager.startup.next manager.config manager.testMode },
        { shared with
          journal :=
            if manager.startup.next manager.config manager.testMode = .running then
              shared.journal.push .managerRunning
            else shared.journal }) := by
  obtain ⟨config, startup, testMode, inputs, outputs⟩ := manager
  unfold tick
  cases startup with
  | waitTestMode => cases testMode <;> rfl
  | reset => rfl
  | holdoff elapsed =>
    dsimp only [Startup.next]
    split <;> rfl
  | running => cases hclosed

end Manager

/-! ## Histories -/

namespace Act

/-- Whether test mode is on after an act. -/
def modeAfter (on : Bool) : Act → Bool
  | .testMode switched => switched
  | _ => on

/-- The ticks since test mode was switched, after an act. -/
def ticksAfter (n : Nat) : Act → Nat
  | .tick => n + 1
  | .testMode _ => 0
  | _ => n

end Act

namespace Detector

/-- Whether a history leaves test mode on. In the beginning it is off. -/
def testModeAfter (run : List Act) : Bool := run.foldl Act.modeAfter false

/-- The ticks of a history since test mode was switched last, or since the beginning. -/
def ticksAfter (run : List Act) : Nat := run.foldl Act.ticksAfter 0

/-- A detector whose gate stands where it belongs: with test mode on it waits, and with test mode off
it is where the ticks since the last switch have moved it. -/
structure GatedBy (config : DetectionConfig) (on : Bool) (n : Nat) (state : Detector) : Prop where
  thresholds : state.1.config = config
  testMode : state.1.testMode = on
  startup : state.1.startup = if on then .waitTestMode else .after config n

variable {config : DetectionConfig} {on : Bool} {n : Nat} {state : Detector}

/-- An act that is neither a tick nor a switch of test mode leaves the gate alone. -/
theorem GatedBy.of_view (h : state.GatedBy config on n) {after : Detector} {port : Port}
    {pin1 : UInt16} {changed : PortState}
    (hview : after.inputView port = { state.inputView port with pin1 := pin1, state := changed }) :
    after.GatedBy config on n := by
  have hconfig : after.1.config = state.1.config := congrArg InputView.config hview
  have hmode : after.1.testMode = state.1.testMode := congrArg InputView.testMode hview
  have hstartup : after.1.startup = state.1.startup := congrArg InputView.startup hview
  exact ⟨hconfig.trans h.thresholds, hmode.trans h.testMode, hstartup.trans h.startup⟩

/-- Every act moves the gate as it moves mode and ticks. -/
theorem gatedBy_act (h : state.GatedBy config on n) (act : Act) :
    (state.act act).GatedBy config (act.modeAfter on) (act.ticksAfter n) := by
  cases act with
  | tick =>
    obtain ⟨hstartup, hmode⟩ := Manager.gate_tick state.1 state.2
    have hconfig := (Manager.sameFrame_tick state.1 state.2).config
    refine ⟨hconfig.trans h.thresholds, hmode.trans h.testMode, hstartup.trans ?_⟩
    rw [h.thresholds, h.testMode, h.startup]
    cases on with
    | true => rfl
    | false => exact Startup.next_after config n
  | testMode switched => exact ⟨h.thresholds, rfl, by cases switched <;> rfl⟩
  | linkTick => exact h.of_view (state.inputView_act .linkTick .p1)
  | sample slot counts => exact ⟨h.thresholds, h.testMode, h.startup⟩
  | input port act =>
    have hview := state.inputView_act (.input port act) port
    simp only [InputView.act, if_true] at hview
    exact h.of_view hview
  | output port act => exact h.of_view (state.inputView_act (.output port act) port)

theorem gatedBy_acts (h : state.GatedBy config on n) (run : List Act) :
    (state.acts run).GatedBy config (run.foldl Act.modeAfter on) (run.foldl Act.ticksAfter n) := by
  induction run generalizing on n state with
  | nil => exact h
  | cons act rest ih => exact ih (gatedBy_act h act)

theorem GatedBy.isRunning_iff (h : state.GatedBy config on n) :
    state.1.isRunning = true ↔ on = false ∧ Startup.ticksToOpen config ≤ n := by
  rw [Manager.isRunning_iff, h.startup]
  cases on with
  | true => simp
  | false => simpa using Startup.after_eq_running

/-- **The gate holds every port until its time is up, and no port any longer.** Take any thresholds, a
new manager with any board and sessions, and any history, in which test mode may be switched as often
as one likes and wherever the gate then stands.

* While test mode is on, a tick does nothing at all.
* While test mode is off, the first ticks since the last switch, or since the beginning, move the gate
  and nothing else. They are two and the hold-off, which lasts one tick at least; with the last of them
  the manager reports that it runs.
* Every later tick is one tick of each input port and of each output port, with the sample that the
  port looks at. -/
theorem gate_holds_then_opens (config : DetectionConfig) (shared : Shared ColorLink)
    (run : List Act) :
    let state := acts ({ config := config }, shared) run
    let gate := 2 + max 1 config.resetTicks.toNat
    (testModeAfter run = true → state.act .tick = state) ∧
      (testModeAfter run = false → ticksAfter run < gate →
        state.act .tick =
          ({ state.1 with startup := .after config (ticksAfter run + 1) },
            { state.2 with
              journal :=
                if ticksAfter run + 1 = gate then state.2.journal.push .managerRunning
                else state.2.journal })) ∧
      (testModeAfter run = false → gate ≤ ticksAfter run →
        ∀ port,
          Manager.portState (state.act .tick) port =
              (Manager.portState state port).tick config port
                (state.2.board.samples.inPin1 port) ∧
            Manager.outputState (state.act .tick) port =
              (Manager.outputState state port).tick config port
                (state.2.board.samples.outPin5 port)) := by
  intro state gate
  have hstart : GatedBy config false 0 ({ config := config }, shared) := ⟨rfl, rfl, rfl⟩
  have hgate : state.GatedBy config (testModeAfter run) (ticksAfter run) := gatedBy_acts hstart run
  have hrunning := hgate.isRunning_iff
  refine ⟨fun hon => ?_, fun hoff hearly => ?_, fun hoff hlate port => ?_⟩
  · have hstartup : state.1.startup = .waitTestMode := by
      rw [hgate.startup, hon]
      rfl
    have hmode : state.1.testMode = true := hgate.testMode.trans hon
    show state.1.tick state.2 = state
    unfold Manager.tick
    rw [hstartup, hmode]
    rfl
  · have hclosed : state.1.isRunning = false := by
      rw [← Bool.not_eq_true, hrunning]
      exact fun hopen => Nat.not_le_of_lt hearly hopen.2
    have hnext : state.1.startup.next state.1.config state.1.testMode =
        .after config (ticksAfter run + 1) := by
      rw [hgate.startup, hgate.thresholds, hgate.testMode, hoff]
      exact Startup.next_after config _
    have hlast : Startup.after config (ticksAfter run + 1) = .running ↔ ticksAfter run + 1 = gate := by
      rw [Startup.after_eq_running]
      show gate ≤ _ ↔ _
      omega
    show state.1.tick state.2 = _
    rw [Manager.tick_of_closed hclosed, hnext]
    simp only [hlast]
  · have hopen : state.1.isRunning = true := hrunning.mpr ⟨hoff, hlate⟩
    refine ⟨?_, ?_⟩
    · have hport := Manager.portState_tick state.1 state.2 port
      rw [if_pos hopen, hgate.thresholds] at hport
      exact hport
    · have hport := Manager.outputState_tick state.1 state.2 port
      rw [if_pos hopen, hgate.thresholds] at hport
      exact hport

/-- A hold-off of two ticks. Test mode is switched off again in the middle of it: four ticks go by
before the watches start. Then test mode is switched on, and the ticks do nothing. -/
theorem gate_holds_then_opens_switched :
    let config : DetectionConfig := { resetMs := 20 }
    let start : Detector := ({ config := config }, { link := some {} })
    let gate := 2 + max 1 config.resetTicks.toNat
    let closing := List.replicate 3 Act.tick ++ .testMode false :: List.replicate 3 .tick
    let opened := closing ++ [.tick]
    let held := opened ++ .testMode true :: List.replicate 9 .tick
    gate = 4 ∧
      (testModeAfter closing = false ∧ ticksAfter closing < gate ∧
        ((start.acts closing).act .tick).1 = { (start.acts closing).1 with startup := .running }) ∧
      (testModeAfter opened = false ∧ gate ≤ ticksAfter opened ∧
        (Manager.portState (start.acts opened) .p1).stage = .init ∧
        (Manager.portState ((start.acts opened).act .tick) .p1).stage = .floatingDelay) ∧
      testModeAfter held = true ∧ (start.acts held).act .tick = start.acts held := by
  intro config start gate closing opened held
  have hclosing : testModeAfter closing = false ∧ ticksAfter closing < gate := by decide
  have hopened : testModeAfter opened = false ∧ gate ≤ ticksAfter opened := by decide
  have hheld : testModeAfter held = true := by decide
  have hlast : Startup.after config (ticksAfter closing + 1) = .running :=
    Startup.after_eq_running.mpr (by decide)
  refine ⟨by decide, ⟨hclosing.1, hclosing.2, ?_⟩, ⟨hopened.1, hopened.2, by decide +kernel, ?_⟩,
    hheld, ?_⟩
  · rw [(gate_holds_then_opens config { link := some {} } closing).2.1 hclosing.1 hclosing.2, hlast]
  · rw [((gate_holds_then_opens config { link := some {} } opened).2.2 hopened.1 hopened.2 .p1).1]
    decide +kernel
  · exact (gate_holds_then_opens config { link := some {} } held).1 hheld

end Detector

end PlugWatch
