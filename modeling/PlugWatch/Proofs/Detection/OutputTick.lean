import PlugWatch.Proofs.Detection.Undetected
/-!
# What a tick does to an output port

The watch of an output port is given the journal, but what a tick does to the port depends on the port
and the sample of its pin 5 only. This file says stage by stage what that is.

## Main Definitions

* `OutputState.tick` : a tick of the watch, with nothing but the port at hand.
* `OutputState.carryOut` : the port once a rule has decided.

## Main Statements

* `OutputState.ofScene_tick` : the tick of a scene is the tick of its port alone.
* `OutputState.tick_init` and its neighbours : what a tick does in each stage.
* `OutputState.stage_tick` : the stages in which a tick can leave a port.
* `Manager.outputState_tick` : a tick of the manager is a tick of every output port alone, or nothing
  to them while the gate is closed.
-/

namespace PlugWatch

/-- The stages that can follow a stage of an output port. A stage of input ports leads back to the
first one. -/
def Stage.outputNext : Stage → List Stage
  | init => [floatingDelay]
  | floatingDelay => [floatingDelay, floating]
  | floating => [floating, waitingForPin6Low]
  | waitingForPin6Low => [waitingForPin6Low, connection]
  | connection => [connectedWaitingForPortOpen, waitingForPin5Low]
  | waitingForPin5Low => [waitingForPin5Low, connectedWaitingForPortOpen]
  | connectedWaitingForPortOpen => [connectedWaitingForPortOpen, init]
  | _ => [init]

theorem OutputScene.unbalanced_eq (counts : UInt16) :
    unbalanced counts =
      !decide (countsOfMillivolts 2400 ≤ counts ∧ counts ≤ countsOfMillivolts 2600) := by
  rw [Bool.decide_and]
  rfl

namespace OutputState

variable (config : DetectionConfig) (port : Port) (pin5 : UInt16)

/-- One tick of the watch, with nothing but its own port at hand. -/
def tick (state : OutputState) : OutputState :=
  ofScene ((state.scene #[]).tick config port pin5)

/-! ## Small steps -/

/-- Goes on to a stage with the timer at a value. -/
def arrive (state : OutputState) (stage : Stage) (timer : UInt16) : OutputState :=
  { state with watch := { state.watch with stage := stage, timer := timer } }

/-- Stays for one more tick. -/
def wait (state : OutputState) : OutputState := state.arrive state.stage (state.watch.timer + 1)

/-- Changes the lines of the port. -/
def mapLines (state : OutputState) (f : OutputLines → OutputLines) : OutputState :=
  { state with socket := { state.socket with lines := f state.socket.lines } }

/-- The conditions on the released port. -/
def conditionsNow (state : OutputState) : Conditions := (state.scene #[]).conditionsNow pin5

/-- Takes note of conditions; conditions that are new start the count anew. -/
def see (state : OutputState) (seen : Conditions) : OutputState :=
  { state with
    watch := { state.watch with
      conditions := seen
      timer := if seen = state.watch.conditions then state.watch.timer else 0 } }

/-- What the two measurements tell about the port. -/
def probe (state : OutputState) : OutputProbe :=
  ⟨state.watch.floatMv, state.watch.lowMv, state.watch.conditions.pin6Low⟩

/-- The port once a verdict of the output rules is carried out. -/
def carryOut (state : OutputState) : OutputVerdict → OutputState
  | .connect classification =>
    { watch := { state.watch with
        stage := .connectedWaitingForPortOpen, connected := true, timer := 0 }
      socket := { state.socket with verdict := classification } }
  | .actuator sample =>
    { watch := { state.watch with
        stage := .connectedWaitingForPortOpen, connected := true, timer := 0 }
      socket := { state.socket with
        verdict := ⟨.unknown, .outputDumb⟩, actuatorMv := sample.of state.probe } }
  | .probeDriven =>
    (state.arrive .waitingForPin5Low 0).mapLines fun lines => lines.driveTo .pin5Write .high

/-- The stage that is reached is remembered. -/
def remember (state : OutputState) : OutputState :=
  { state with watch := { state.watch with lastStage := state.watch.stage } }

/-! ## Stages of a scene -/

section Scenes

variable (scene : OutputScene)

theorem ofScene_onFloatingDelay :
    ofScene (scene.onFloatingDelay config) =
      if config.floatTicks ≤ (ofScene scene).watch.timer + 1 then
        (ofScene scene).arrive .floating 0
      else (ofScene scene).wait := by
  unfold OutputScene.onFloatingDelay
  exact apply_ite ofScene _ _ _

theorem ofScene_onFloating :
    ofScene (scene.onFloating config port pin5) =
      let state := (ofScene scene).see ((ofScene scene).conditionsNow pin5)
      if ((ofScene scene).conditionsNow pin5).isEmpty then state
      else if config.connectTicks ≤ state.watch.timer + 1 then
        { state with watch := { state.watch with
            floatMv := millivoltsOfCounts pin5, timer := 0, stage := .waitingForPin6Low } }.mapLines
          fun lines => lines.driveTo .pin6 .float
      else state.wait := by
  obtain ⟨⟨stage, lastStage, connected, timer, conditions, floatMv, lowMv⟩, socket, journal⟩ := scene
  have hnow : OutputScene.conditionsNow pin5 ⟨⟨stage, lastStage, connected, timer, conditions,
      floatMv, lowMv⟩, socket, journal⟩ =
    (OutputState.mk ⟨stage, lastStage, connected, timer, conditions, floatMv, lowMv⟩
      socket).conditionsNow pin5 := rfl
  unfold OutputScene.onFloating ofScene
  dsimp only
  rw [hnow]
  generalize (OutputState.mk _ socket).conditionsNow pin5 = seen
  by_cases hsame : seen = conditions
  · subst hsame
    simp only [if_true, see]
    split
    · rfl
    · split <;> rfl
  · simp only [if_neg hsame, see]
    split
    · rfl
    · split <;> rfl

theorem ofScene_onSecondMeasurement :
    ofScene (scene.onSecondMeasurement config pin5) =
      if config.lowTicks ≤ (ofScene scene).watch.timer + 1 then
        { (ofScene scene).wait with watch := { (ofScene scene).wait.watch with
            lowMv := millivoltsOfCounts pin5, stage := .connection } }.mapLines
          fun lines => lines.driveTo .pin6 .float
      else (ofScene scene).wait := by
  unfold OutputScene.onSecondMeasurement
  exact apply_ite ofScene _ _ _

/-- The rules for output ports always decide. -/
theorem exists_outputRule (probe : OutputProbe) :
    ∃ rule ∈ outputRules, firstMatch outputRules probe = some rule :=
  firstMatch_of_mem outputRules probe
    (List.mem_of_getLast? (show outputRules.getLast? = some _ from rfl)) rfl

theorem ofScene_onConnection {rule : Rule OutputProbe OutputVerdict}
    (hrule : firstMatch outputRules (ofScene scene).probe = some rule) :
    ofScene (scene.onConnection port) = (ofScene scene).carryOut rule.verdict := by
  obtain ⟨⟨stage, lastStage, connected, timer, conditions, floatMv, lowMv⟩, socket, journal⟩ := scene
  obtain ⟨name, holds, verdict⟩ := rule
  have hrule' : firstMatch outputRules ⟨floatMv, lowMv, conditions.pin6Low⟩ =
    some ⟨name, holds, verdict⟩ := hrule
  unfold OutputScene.onConnection
  dsimp only [OutputScene.goTo]
  rw [hrule']
  cases verdict with
  | connect classification => rfl
  | actuator sample => rfl
  | probeDriven => cases connected <;> rfl

/-- The rules for driven output ports always decide. -/
theorem exists_drivenRule (probe : DrivenProbe) :
    ∃ rule ∈ drivenRules, firstMatch drivenRules probe = some rule :=
  firstMatch_of_mem drivenRules probe
    (List.mem_of_getLast? (show drivenRules.getLast? = some _ from rfl)) rfl

theorem ofScene_onThirdMeasurement {rule : Rule DrivenProbe Classification}
    (hrule : firstMatch drivenRules ⟨millivoltsOfCounts pin5⟩ = some rule) :
    ofScene (scene.onThirdMeasurement config port pin5) =
      if config.lowTicks ≤ (ofScene scene).watch.timer + 1 then
        { watch := { (ofScene scene).wait.watch with
            lowMv := millivoltsOfCounts pin5
            connected := true
            stage := .connectedWaitingForPortOpen }
          socket := { (ofScene scene).socket with
            lines := (ofScene scene).socket.lines.driveTo .pin5Write .low
            verdict := rule.verdict } }
      else (ofScene scene).wait := by
  unfold OutputScene.onThirdMeasurement
  dsimp only
  rw [hrule]
  exact apply_ite ofScene _ _ _

/-- Whether an output port looks like a device is plugged. -/
def loaded (state : OutputState) : Bool :=
  OutputScene.unbalanced pin5 || !state.socket.lines.read .pin6

theorem ofScene_onPortOpen :
    ofScene (scene.onPortOpen config port pin5) =
      let timer := (if (ofScene scene).loaded pin5 then 0 else (ofScene scene).watch.timer) + 1
      if config.releaseTicks ≤ timer then
        { (ofScene scene) with
          watch := { (ofScene scene).watch with timer := timer, connected := false, stage := .init } }
      else (ofScene scene).arrive (ofScene scene).stage timer := by
  unfold OutputScene.onPortOpen
  exact apply_ite ofScene _ _ _

/-- What a stage does to the port depends on the port alone. -/
theorem ofScene_act {scene other : OutputScene} (h : ofScene scene = ofScene other) :
    ofScene (scene.act config port pin5) = ofScene (other.act config port pin5) := by
  have hstage : scene.watch.stage = other.watch.stage := congrArg OutputState.stage h
  unfold OutputScene.act
  rw [hstage]
  cases other.watch.stage with
  | init => exact congrArg (fun state => OutputState.mk
      { state.watch with
        connected := false, timer := 0, conditions := .none, stage := .floatingDelay }
      { state.socket with lines := state.socket.lines.release, verdict := .none }) h
  | floatingDelay =>
    dsimp only
    rw [ofScene_onFloatingDelay, ofScene_onFloatingDelay, h]
  | floating =>
    dsimp only
    rw [ofScene_onFloating, ofScene_onFloating, h]
  | waitingForPin6Low =>
    dsimp only
    rw [ofScene_onSecondMeasurement, ofScene_onSecondMeasurement, h]
  | connection =>
    obtain ⟨rule, -, hrule⟩ := exists_outputRule (ofScene other).probe
    dsimp only
    rw [ofScene_onConnection port _ (by rw [h]; exact hrule), ofScene_onConnection port _ hrule, h]
  | waitingForPin5Low =>
    obtain ⟨rule, -, hrule⟩ := exists_drivenRule ⟨millivoltsOfCounts pin5⟩
    dsimp only
    rw [ofScene_onThirdMeasurement config port pin5 _ hrule,
      ofScene_onThirdMeasurement config port pin5 _ hrule, h]
  | connectedWaitingForPortOpen =>
    dsimp only
    rw [ofScene_onPortOpen, ofScene_onPortOpen, h]
  | _ => exact congrArg (fun state : OutputState => OutputState.mk
      { state.watch with stage := .init } state.socket) h

theorem ofScene_settle : ofScene (scene.settle port) = (ofScene scene).remember := by
  obtain ⟨⟨stage, lastStage⟩, socket, journal⟩ := scene
  unfold OutputScene.settle
  dsimp only
  split
  · rename_i h
    subst h
    rfl
  · rfl

/-- The tick of a scene is the tick of its port alone. -/
theorem ofScene_tick (state : OutputState) (journal : Journal) :
    ofScene ((state.scene journal).tick config port pin5) = state.tick config port pin5 := by
  unfold tick OutputScene.tick
  rw [ofScene_settle, ofScene_settle]
  exact congrArg remember (ofScene_act config port pin5 rfl)

end Scenes

/-! ## Stages of a port -/

section Stages

variable {state : OutputState}

/-- A tick is what the stage does, with the stage remembered. -/
theorem tick_eq (state : OutputState) :
    state.tick config port pin5 =
      (ofScene ((state.scene #[]).act config port pin5)).remember :=
  ofScene_settle port _

theorem tick_init (hstage : state.stage = .init) :
    state.tick config port pin5 =
      { watch := { state.watch with
          connected := false, timer := 0, conditions := .none, stage := .floatingDelay
          lastStage := .floatingDelay }
        socket := { state.socket with lines := state.socket.lines.release, verdict := .none } } := by
  rw [tick_eq, OutputScene.act, show (state.scene #[]).watch.stage = .init from hstage]
  rfl

theorem tick_floatingDelay (hstage : state.stage = .floatingDelay) :
    state.tick config port pin5 =
      (if config.floatTicks ≤ state.watch.timer + 1 then state.arrive .floating 0
        else state.wait).remember := by
  rw [tick_eq, OutputScene.act, show (state.scene #[]).watch.stage = .floatingDelay from hstage]
  dsimp only
  rw [ofScene_onFloatingDelay]
  rfl

theorem tick_floating (hstage : state.stage = .floating) :
    state.tick config port pin5 =
      (let seen := state.conditionsNow pin5
        if seen.isEmpty then state.see seen
        else if config.connectTicks ≤ (state.see seen).watch.timer + 1 then
          { state.see seen with watch := { (state.see seen).watch with
              floatMv := millivoltsOfCounts pin5
              timer := 0
              stage := .waitingForPin6Low } }.mapLines fun lines => lines.driveTo .pin6 .float
        else (state.see seen).wait).remember := by
  rw [tick_eq, OutputScene.act, show (state.scene #[]).watch.stage = .floating from hstage]
  dsimp only
  rw [ofScene_onFloating]
  rfl

theorem tick_waitingForPin6Low (hstage : state.stage = .waitingForPin6Low) :
    state.tick config port pin5 =
      (if config.lowTicks ≤ state.watch.timer + 1 then
        { state.wait with watch := { state.wait.watch with
            lowMv := millivoltsOfCounts pin5, stage := .connection } }.mapLines
          fun lines => lines.driveTo .pin6 .float
      else state.wait).remember := by
  rw [tick_eq, OutputScene.act,
    show (state.scene #[]).watch.stage = .waitingForPin6Low from hstage]
  dsimp only
  rw [ofScene_onSecondMeasurement]
  rfl

theorem tick_connection (hstage : state.stage = .connection)
    {rule : Rule OutputProbe OutputVerdict}
    (hrule : firstMatch outputRules state.probe = some rule) :
    state.tick config port pin5 = (state.carryOut rule.verdict).remember := by
  rw [tick_eq, OutputScene.act, show (state.scene #[]).watch.stage = .connection from hstage]
  dsimp only
  rw [ofScene_onConnection port (state.scene #[]) hrule]
  rfl

theorem tick_waitingForPin5Low (hstage : state.stage = .waitingForPin5Low)
    {rule : Rule DrivenProbe Classification}
    (hrule : firstMatch drivenRules ⟨millivoltsOfCounts pin5⟩ = some rule) :
    state.tick config port pin5 =
      (if config.lowTicks ≤ state.watch.timer + 1 then
        { watch := { state.wait.watch with
            lowMv := millivoltsOfCounts pin5
            connected := true
            stage := .connectedWaitingForPortOpen }
          socket := { state.socket with
            lines := state.socket.lines.driveTo .pin5Write .low
            verdict := rule.verdict } }
      else state.wait).remember := by
  rw [tick_eq, OutputScene.act,
    show (state.scene #[]).watch.stage = .waitingForPin5Low from hstage]
  dsimp only
  rw [ofScene_onThirdMeasurement config port pin5 (state.scene #[]) hrule]
  rfl

theorem tick_connectedWaitingForPortOpen (hstage : state.stage = .connectedWaitingForPortOpen) :
    state.tick config port pin5 =
      (let timer := (if state.loaded pin5 then 0 else state.watch.timer) + 1
        if config.releaseTicks ≤ timer then
          { state with
            watch := { state.watch with timer := timer, connected := false, stage := .init } }
        else state.arrive .connectedWaitingForPortOpen timer).remember := by
  rw [tick_eq, OutputScene.act,
    show (state.scene #[]).watch.stage = .connectedWaitingForPortOpen from hstage]
  dsimp only
  rw [ofScene_onPortOpen]
  dsimp only
  rw [show (ofScene (state.scene #[])).stage = .connectedWaitingForPortOpen from hstage]
  rfl

/-- A stage that no output port is meant to be in leads back to the first one. -/
theorem tick_of_foreign (hmeasuring : state.stage.measuring = false)
    (hopen : state.stage ≠ .connectedWaitingForPortOpen) (hinit : state.stage ≠ .init) :
    state.tick config port pin5 = (state.arrive .init state.watch.timer).remember := by
  rw [tick_eq, OutputScene.act]
  cases hstage : (state.scene #[]).watch.stage with
  | init => exact absurd hstage hinit
  | connectedWaitingForPortOpen => exact absurd hstage hopen
  | floatingDelay | floating | waitingForPin6Low | connection | waitingForPin5Low =>
    rw [show state.stage = _ from hstage] at hmeasuring
    cases hmeasuring
  | _ => rfl

/-- The stages in which a tick can leave a port. -/
theorem stage_tick (state : OutputState) :
    (state.tick config port pin5).stage ∈ state.stage.outputNext := by
  cases hstage : state.stage with
  | init =>
    rw [tick_init config port pin5 hstage]
    exact List.mem_cons_self
  | floatingDelay =>
    rw [tick_floatingDelay config port pin5 hstage]
    split
    · exact List.mem_cons_of_mem _ List.mem_cons_self
    · exact List.mem_cons.mpr (.inl hstage)
  | floating =>
    rw [tick_floating config port pin5 hstage]
    dsimp only
    split
    · exact List.mem_cons.mpr (.inl hstage)
    · split
      · exact List.mem_cons_of_mem _ List.mem_cons_self
      · exact List.mem_cons.mpr (.inl hstage)
  | waitingForPin6Low =>
    rw [tick_waitingForPin6Low config port pin5 hstage]
    split
    · exact List.mem_cons_of_mem _ List.mem_cons_self
    · exact List.mem_cons.mpr (.inl hstage)
  | connection =>
    obtain ⟨rule, -, hrule⟩ := exists_outputRule state.probe
    rw [tick_connection config port pin5 hstage hrule]
    cases rule.verdict with
    | connect classification | actuator sample => exact List.mem_cons_self
    | probeDriven => exact List.mem_cons_of_mem _ List.mem_cons_self
  | waitingForPin5Low =>
    obtain ⟨rule, -, hrule⟩ := exists_drivenRule ⟨millivoltsOfCounts pin5⟩
    rw [tick_waitingForPin5Low config port pin5 hstage hrule]
    split
    · exact List.mem_cons_of_mem _ List.mem_cons_self
    · exact List.mem_cons.mpr (.inl hstage)
  | connectedWaitingForPortOpen =>
    rw [tick_connectedWaitingForPortOpen config port pin5 hstage]
    generalize (if state.loaded pin5 then 0 else state.watch.timer) = count
    dsimp only
    split
    · exact List.mem_cons_of_mem _ List.mem_cons_self
    · exact List.mem_cons_self
  | _ =>
    rw [tick_of_foreign config port pin5 (by rw [hstage]; rfl) (by rw [hstage]; nofun)
      (by rw [hstage]; nofun)]
    exact List.mem_cons_self

end Stages

end OutputState

namespace Manager

/-- A tick of the manager is a tick of every output port alone, or nothing to them while the gate is
closed. -/
theorem outputState_tick (manager : Manager) (shared : Shared ColorLink) (port : Port) :
    outputState (manager.tick shared) port =
      if manager.isRunning then
        (outputState (manager, shared) port).tick manager.config port
          (shared.board.samples.outPin5 port)
      else outputState (manager, shared) port := by
  cases hrunning : manager.isRunning with
  | true =>
    obtain ⟨journal, h⟩ := outputState_tickWatches (manager, shared) port
    rw [tick_of_running hrunning, h, OutputState.ofScene_tick]
    rfl
  | false =>
    obtain ⟨startup, journal, htick⟩ := exists_tick_of_closed hrunning shared
    rw [htick]
    rfl

end Manager

end PlugWatch
