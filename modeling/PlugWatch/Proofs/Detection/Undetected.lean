import PlugWatch.Proofs.Detection.OutputState
import PlugWatch.Proofs.Detection.PortEvent
/-!
# Undetected ports publish nothing

What is known about a port stands in four places: the stage and the connected flag of its watch, the
verdict and the handshake in its socket, and the session of the link. They are written in different
stages and by requests that arrive between ticks. This file says what the stage says about the rest.

## Main Definitions

* `PortState.Consistent`, `OutputState.Consistent` : the invariant of a port of either side.
* `Stage.measuring` : the stages in front of the identification of an output device.

## Main Statements

* `PortState.consistent_tick`, `Controller.consistent_step` : no tick and no other step breaks the
  invariant of an input port.
* `OutputState.consistent_tick`, `Controller.outputConsistent_step` : the same for an output port.
* `Controller.undetected_publishes_nothing` : a port on which nothing has been detected is not
  connected and publishes nothing.
-/

namespace PlugWatch

/-! ## Input ports -/

namespace PortState

/-- What the stage of an input port says about the rest of it. Before a device is detected the port
is not connected, publishes nothing, is not in colour mode and has no session in use; once one is
detected the port is connected. -/
structure Consistent (state : PortState) : Prop where
  unconnected : state.stage.undetected = true → state.connected = false
  unpublished : state.stage.undetected = true → state.verdict = .none
  inactive : state.stage.undetected = true → state.handshake.active = false
  unused : state.stage.undetected = true → ∀ session ∈ state.session, session.inUse = false
  engaged : state.stage.engaged = true → state.connected = true

/-- A stage in which nothing is said about the port. -/
theorem Consistent.of_free {state : PortState} (hundetected : state.stage.undetected = false)
    (hengaged : state.stage.engaged = false) : state.Consistent := by
  have hnever : state.stage.undetected ≠ true := by simp [hundetected]
  exact ⟨fun h => absurd h hnever, fun h => absurd h hnever, fun h => absurd h hnever,
    fun h => absurd h hnever, fun h => absurd h (by simp [hengaged])⟩

/-- A connected port in a stage behind the detection. -/
theorem Consistent.of_connected {state : PortState} (hundetected : state.stage.undetected = false)
    (hconnected : state.connected = true) : state.Consistent := by
  have hnever : state.stage.undetected ≠ true := by simp [hundetected]
  exact ⟨fun h => absurd h hnever, fun h => absurd h hnever, fun h => absurd h hnever,
    fun h => absurd h hnever, fun _ => hconnected⟩

/-- A port on which nothing is detected and nothing said. -/
theorem Consistent.of_silent {state : PortState} (hengaged : state.stage.engaged = false)
    (hconnected : state.connected = false) (hverdict : state.verdict = .none)
    (hactive : state.handshake.active = false)
    (hsession : ∀ session ∈ state.session, session.inUse = false) : state.Consistent :=
  ⟨fun _ => hconnected, fun _ => hverdict, fun _ => hactive, fun _ => hsession,
    fun h => absurd h (by simp [hengaged])⟩

/-- No progress breaks the invariant. -/
theorem consistent_progress {before after : PortState} (progress : Progress before after)
    (h : before.Consistent) : after.Consistent := by
  cases progress with
  | restart hbefore hafter hconnected hverdict hactive hsession =>
    refine .of_silent (by rw [hafter]; rfl) hconnected hverdict hactive ?_
    rw [hsession]
    exact fun session hmem => not_inUse_of_mem_stop hmem
  | search hbefore hafter hconnected hverdict hhandshake hsession =>
    have hundetected := Stage.undetected_of_searching hbefore
    rcases hafter with hafter | hafter
    · refine .of_silent (Stage.engaged_of_undetected hafter) ?_ ?_ ?_ ?_
      · rw [hconnected, h.unconnected hundetected]
      · rw [hverdict, h.unpublished hundetected]
      · rw [hhandshake, h.inactive hundetected]
      · rw [hsession]
        exact h.unused hundetected
    · exact .of_free (by rw [hafter]; rfl) (by rw [hafter]; rfl)
  | identify hbefore hafter hconnected hverdict =>
    refine .of_connected ?_ hconnected
    rcases hafter with hafter | hafter
    · exact Stage.undetected_of_engaged (Stage.engaged_of_settled hafter)
    · rw [hafter]
      rfl
  | suspect hbefore hafter hconnected hverdict =>
    exact .of_connected (by rw [hafter]; rfl) hconnected
  | confirm hbefore hafter hconnected hverdict =>
    refine .of_connected (by rw [hafter]; rfl) ?_
    rw [hconnected, h.engaged (by rw [hbefore]; rfl)]
  | stay hbefore hafter hconnected hverdict =>
    refine .of_connected ?_ (by rw [hconnected, h.engaged hbefore])
    rcases hafter with hafter | ⟨-, hafter | hafter⟩
    · rw [hafter, Stage.undetected_of_engaged hbefore]
    · exact Stage.undetected_of_engaged (Stage.engaged_of_inColorSession hafter)
    · rw [hafter]
      rfl
  | disconnect hbefore hafter hconnected hverdict =>
    exact .of_free (by rw [hafter]; rfl) (by rw [hafter]; rfl)
  | resume hbefore hafter hconnected hverdict =>
    exact .of_free (by rw [hafter]; rfl) (by rw [hafter]; rfl)

/-- No tick breaks the invariant, whether detection is on or off. -/
theorem consistent_tick (config : DetectionConfig) (port : Port) (pin1 : UInt16)
    {state : PortState} (h : state.Consistent) : (state.tick config port pin1).Consistent := by
  cases henabled : state.enabled with
  | true => exact consistent_progress (progress_tick config port pin1 henabled) h
  | false =>
    obtain ⟨hstage, -, -⟩ := tick_of_off config port pin1 henabled
    exact .of_free (by rw [hstage]; rfl) (by rw [hstage]; rfl)

/-- What keeps all that the watch decides keeps the invariant. -/
theorem Consistent.of_undisturbed {before after : PortState} (h : before.Consistent)
    (hsame : Undisturbed before after) : after.Consistent := by
  refine ⟨?_, ?_, ?_, ?_, ?_⟩
  · rw [hsame.stage, hsame.connected]
    exact h.unconnected
  · rw [hsame.stage, hsame.verdict]
    exact h.unpublished
  · rw [hsame.stage, hsame.active]
    exact h.inactive
  · -- a session in use behind the step was in use in front of it
    rw [hsame.stage]
    intro hundetected session hmem
    have hinUse : (some session).map Session.inUse = before.session.map Session.inUse := by
      rw [← hsame.inUse, Option.mem_def.mp hmem]
    obtain ⟨earlier, hearlier, heq⟩ := Option.map_eq_some_iff.mp hinUse.symm
    rw [← heq]
    exact h.unused hundetected earlier hearlier
  · rw [hsame.stage, hsame.connected]
    exact h.engaged

end PortState

/-! ## Output ports -/

/-- How an output device, or a fault, is published. -/
def Connection.ofOutput : List Connection := [.error, .outputDumb, .outputIntelligent, .outputTacho]

/-- Whether a verdict on an output port publishes an output device or a fault, if anything. -/
def OutputVerdict.publishesOutput : OutputVerdict → Bool
  | .connect classification => classification.connection ∈ Connection.ofOutput
  | .actuator _ => true
  | .probeDriven => true

theorem outputRules_publish {rule : Rule OutputProbe OutputVerdict} (h : rule ∈ outputRules) :
    rule.verdict.publishesOutput = true := by
  have hall : ∀ verdict ∈ outputRules.map Rule.verdict, verdict.publishesOutput = true := by decide
  exact hall _ (List.mem_map_of_mem h)

theorem drivenRules_publish {rule : Rule DrivenProbe Classification} (h : rule ∈ drivenRules) :
    rule.verdict.connection ∈ Connection.ofOutput := by
  have hall : ∀ verdict ∈ drivenRules.map Rule.verdict,
      verdict.connection ∈ Connection.ofOutput := by decide
  exact hall _ (List.mem_map_of_mem h)

/-- Whether no device has been identified on an output port so far. -/
def Stage.measuring : Stage → Bool
  | floatingDelay | floating | waitingForPin6Low | connection | waitingForPin5Low => true
  | _ => false

namespace OutputState

/-- What the stage of an output port says about the rest of it. Before a device is identified the port
is not connected and publishes nothing; while it is waited for to go, the port is connected and
publishes an output device or a fault. -/
structure Consistent (state : OutputState) : Prop where
  measuring : state.stage.measuring = true → state.connected = false ∧ state.verdict = .none
  identified : state.stage = .connectedWaitingForPortOpen →
    state.connected = true ∧ state.verdict.connection ∈ Connection.ofOutput

theorem Consistent.of_measuring {state : OutputState} (hstage : state.stage.measuring = true)
    (h : state.connected = false ∧ state.verdict = .none) : state.Consistent := by
  refine ⟨fun _ => h, fun hopen => ?_⟩
  rw [hopen] at hstage
  cases hstage

theorem Consistent.of_identified {state : OutputState}
    (hstage : state.stage = .connectedWaitingForPortOpen) (hconnected : state.connected = true)
    (hverdict : state.verdict.connection ∈ Connection.ofOutput) : state.Consistent := by
  refine ⟨fun hmeasuring => ?_, fun _ => ⟨hconnected, hverdict⟩⟩
  rw [hstage] at hmeasuring
  cases hmeasuring

theorem Consistent.of_init {state : OutputState} (hstage : state.stage = .init) :
    state.Consistent := by
  refine ⟨fun hmeasuring => ?_, fun hopen => ?_⟩
  · rw [hstage] at hmeasuring
    cases hmeasuring
  · rw [hstage] at hopen
    cases hopen

section Handlers

variable {scene : OutputScene} (config : DetectionConfig) (port : Port) (pin5 : UInt16)

theorem silent_of_stage (h : (ofScene scene).Consistent) {stage : Stage}
    (hstage : scene.watch.stage = stage) (hmeasuring : stage.measuring = true) :
    (ofScene scene).stage.measuring = true ∧
      (ofScene scene).connected = false ∧ (ofScene scene).verdict = .none := by
  have hnow : (ofScene scene).stage.measuring = true := by
    rw [OutputState.stage, ofScene, hstage, hmeasuring]
  exact ⟨hnow, h.measuring hnow⟩

theorem consistent_onFloatingDelay (h : (ofScene scene).Consistent)
    (hstage : scene.watch.stage = .floatingDelay) :
    (ofScene (scene.onFloatingDelay config)).Consistent := by
  obtain ⟨hmeasuring, hsilent⟩ := silent_of_stage h hstage rfl
  unfold OutputScene.onFloatingDelay
  dsimp only
  split
  · exact .of_measuring rfl hsilent
  · exact .of_measuring hmeasuring hsilent

theorem consistent_onFloating (h : (ofScene scene).Consistent)
    (hstage : scene.watch.stage = .floating) :
    (ofScene (scene.onFloating config port pin5)).Consistent := by
  obtain ⟨hmeasuring, hsilent⟩ := silent_of_stage h hstage rfl
  unfold OutputScene.onFloating
  dsimp only
  split <;> split
  · exact .of_measuring hmeasuring hsilent
  · exact .of_measuring hmeasuring hsilent
  · split
    · exact .of_measuring rfl hsilent
    · exact .of_measuring hmeasuring hsilent
  · split
    · exact .of_measuring rfl hsilent
    · exact .of_measuring hmeasuring hsilent

theorem consistent_onSecondMeasurement (h : (ofScene scene).Consistent)
    (hstage : scene.watch.stage = .waitingForPin6Low) :
    (ofScene (scene.onSecondMeasurement config pin5)).Consistent := by
  obtain ⟨hmeasuring, hsilent⟩ := silent_of_stage h hstage rfl
  unfold OutputScene.onSecondMeasurement
  dsimp only
  split
  · exact .of_measuring rfl hsilent
  · exact .of_measuring hmeasuring hsilent

/-- Carrying a verdict out publishes an output device or a fault and takes it to be connected, or goes
on to the third measurement. -/
theorem consistent_applyVerdict (probe : OutputProbe) {verdict : OutputVerdict}
    (hstage : scene.watch.stage = .connectedWaitingForPortOpen)
    (hsilent : (ofScene scene).connected = false ∧ (ofScene scene).verdict = .none)
    (hpublish : verdict.publishesOutput = true) :
    (ofScene (scene.applyVerdict probe verdict)).Consistent := by
  cases verdict with
  | connect classification => exact .of_identified hstage rfl (of_decide_eq_true hpublish)
  | actuator sample =>
    exact .of_identified hstage rfl (show Connection.outputDumb ∈ Connection.ofOutput by decide)
  | probeDriven => exact .of_measuring rfl hsilent

theorem consistent_onConnection (h : (ofScene scene).Consistent)
    (hstage : scene.watch.stage = .connection) :
    (ofScene (scene.onConnection port)).Consistent := by
  obtain ⟨-, hsilent⟩ := silent_of_stage h hstage rfl
  -- the last row of the table always holds, so there is a decision
  obtain ⟨rule, hmem, hrule⟩ := firstMatch_of_mem outputRules
    ⟨scene.watch.floatMv, scene.watch.lowMv, scene.watch.conditions.pin6Low⟩
    (List.mem_of_getLast? (show outputRules.getLast? = some _ from rfl)) rfl
  have happlied : (ofScene (((scene.goTo .connectedWaitingForPortOpen).note
      (.ruleApplied .output port rule.name)).applyVerdict
        ⟨scene.watch.floatMv, scene.watch.lowMv, scene.watch.conditions.pin6Low⟩
        rule.verdict)).Consistent :=
    consistent_applyVerdict _ rfl hsilent (outputRules_publish hmem)
  unfold OutputScene.onConnection
  dsimp only [OutputScene.goTo] at happlied ⊢
  rw [hrule]
  dsimp only
  split <;> exact ⟨happlied.measuring, happlied.identified⟩

theorem consistent_onThirdMeasurement (h : (ofScene scene).Consistent)
    (hstage : scene.watch.stage = .waitingForPin5Low) :
    (ofScene (scene.onThirdMeasurement config port pin5)).Consistent := by
  obtain ⟨hmeasuring, hsilent⟩ := silent_of_stage h hstage rfl
  obtain ⟨rule, hmem, hrule⟩ := firstMatch_of_mem drivenRules ⟨millivoltsOfCounts pin5⟩
    (List.mem_of_getLast? (show drivenRules.getLast? = some _ from rfl)) rfl
  unfold OutputScene.onThirdMeasurement
  dsimp only
  split
  · rw [hrule]
    exact .of_identified rfl rfl (drivenRules_publish hmem)
  · exact .of_measuring hmeasuring hsilent

theorem consistent_onPortOpen (h : (ofScene scene).Consistent) :
    (ofScene (scene.onPortOpen config port pin5)).Consistent := by
  unfold OutputScene.onPortOpen
  dsimp only
  split <;> split
  · exact .of_init rfl
  · exact ⟨h.measuring, h.identified⟩
  · exact .of_init rfl
  · exact ⟨h.measuring, h.identified⟩

theorem consistent_act (h : (ofScene scene).Consistent) :
    (ofScene (scene.act config port pin5)).Consistent := by
  unfold OutputScene.act
  cases hstage : scene.watch.stage with
  | init => exact .of_measuring rfl ⟨rfl, rfl⟩
  | floatingDelay => exact consistent_onFloatingDelay config h hstage
  | floating => exact consistent_onFloating config port pin5 h hstage
  | waitingForPin6Low => exact consistent_onSecondMeasurement config pin5 h hstage
  | connection => exact consistent_onConnection port h hstage
  | waitingForPin5Low => exact consistent_onThirdMeasurement config port pin5 h hstage
  | connectedWaitingForPortOpen => exact consistent_onPortOpen config port pin5 h
  | _ => exact .of_init rfl

/-- No tick breaks the invariant. -/
theorem consistent_tick (h : (ofScene scene).Consistent) :
    (ofScene (scene.tick config port pin5)).Consistent := by
  have hact := consistent_act config port pin5 h
  unfold OutputScene.tick OutputScene.settle
  split
  · exact hact
  · exact ⟨hact.measuring, hact.identified⟩

end Handlers

end OutputState

/-! ## The controller -/

namespace Controller

variable {α ε : Type} [Converter α ε]

/-- No step breaks the invariant of an input port. -/
theorem consistent_step {c : Controller α} {port : Port} (step : Step α)
    (h : (c.portState port).Consistent) : ((c.step step).portState port).Consistent := by
  cases c.event_step step port with
  | rest hsame => exact h.of_undisturbed hsame
  | tick hstep hrunning hafter =>
    rw [hafter]
    exact PortState.consistent_tick _ _ _ h
  | enable on hstep hafter =>
    rw [hafter]
    exact ⟨h.unconnected, h.unpublished, h.inactive, h.unused, h.engaged⟩
  | force classification hstep hoff hconnected hafter =>
    -- a port that is taken to be connected is not in front of the detection
    rw [hafter]
    refine .of_connected ?_ hconnected
    cases hundetected : (c.portState port).stage.undetected with
    | true =>
      rw [h.unconnected hundetected] at hconnected
      cases hconnected
    | false => exact hundetected
  | command command hstep hconnected hafter =>
    rw [hafter]
    exact .of_connected rfl hconnected
  | restart on hstep hafter =>
    rw [hafter]
    exact .of_free rfl rfl

/-- In a fresh controller every input port is about to begin. -/
theorem consistent_new {adc : α} {board : Board} {config : Config} {c : Controller α}
    (h : Controller.new adc board config = .ok c) (port : Port) :
    (c.portState port).Consistent := by
  have hstage : (c.portState port).stage = .init :=
    congrArg InputWatch.stage (portState_new h port).1
  exact .of_free (by rw [hstage]; rfl) (by rw [hstage]; rfl)

theorem Reachable.consistent {c : Controller α} (h : c.Reachable) (port : Port) :
    (c.portState port).Consistent := by
  induction h with
  | new h => exact consistent_new h port
  | step _ step ih => exact consistent_step step ih

/-- No step breaks the invariant of an output port. -/
theorem outputConsistent_step {c : Controller α} {port : Port} (step : Step α)
    (h : (c.outputState port).Consistent) : ((c.step step).outputState port).Consistent := by
  rcases outputState_step c step port with ⟨hwatch, hverdict⟩ | ⟨journal, htick⟩ | hinit
  · refine ⟨?_, ?_⟩
    · rw [OutputState.stage, OutputState.connected, hwatch, hverdict]
      exact h.measuring
    · rw [OutputState.stage, OutputState.connected, hwatch, hverdict]
      exact h.identified
  · rw [htick]
    exact OutputState.consistent_tick _ _ _ h
  · exact .of_init hinit

theorem outputConsistent_new {adc : α} {board : Board} {config : Config} {c : Controller α}
    (h : Controller.new adc board config = .ok c) (port : Port) :
    (c.outputState port).Consistent := .of_init (stage_output_new h port)

theorem Reachable.outputConsistent {c : Controller α} (h : c.Reachable) (port : Port) :
    (c.outputState port).Consistent := by
  induction h with
  | new h => exact outputConsistent_new h port
  | step _ step ih => exact outputConsistent_step step ih

/-- **Undetected ports publish nothing.** In a reachable controller, an input port on which no device
has been identified so far is not connected, publishes nothing, is not in colour mode and has no
session in use. An output port that is still being measured is not connected and publishes nothing;
one whose device is waited for to go is connected and publishes an output device or a fault. -/
theorem undetected_publishes_nothing {c : Controller α} (h : c.Reachable) (port : Port) :
    let input := c.portState port
    let output := c.outputState port
    (input.stage.undetected = true →
        input.connected = false ∧ input.verdict = .none ∧ input.handshake.active = false ∧
          c.sessionInUse port = false) ∧
      (output.stage.measuring = true → output.connected = false ∧ output.verdict = .none) ∧
      (output.stage = .connectedWaitingForPortOpen → output.connected = true ∧
        output.verdict.connection ∈ [.error, .outputDumb, .outputIntelligent, .outputTacho]) := by
  intro input output
  have hinput := h.consistent port
  have houtput := h.outputConsistent port
  refine ⟨fun hundetected => ?_, houtput.measuring, houtput.identified⟩
  refine ⟨hinput.unconnected hundetected, hinput.unpublished hundetected,
    hinput.inactive hundetected, ?_⟩
  have hunused : ∀ session ∈ ColorLink.session? c.link port, session.inUse = false :=
    hinput.unused hundetected
  unfold sessionInUse
  cases hlink : ColorLink.session? c.link port with
  | none => rfl
  | some session => exact hunused session hlink

/-- On a board with a loaded pin 1, after seven ticks of the manager the first input port is about to
be identified, and so is the first output port; neither publishes anything. -/
theorem undetected_publishes_nothing_loaded :
    ∃ fresh : Controller Multiplexer,
      Controller.new {} {} {
        detection := { resetMs := 0, floatMs := 0, lowMs := 0, connectMs := 0 } } = .ok fresh ∧
      let c := fresh.steps (List.replicate 7 .manage)
      (c.portState .p1).stage = .pin1Loaded ∧ (c.portState .p1).connected = false ∧
        (c.portState .p1).verdict = .none ∧ c.sessionInUse .p1 = false ∧
        (c.outputState .p1).stage = .connection ∧ (c.outputState .p1).connected = false ∧
        (c.outputState .p1).verdict = .none := by
  refine ⟨_, rfl, ?_⟩
  intro c
  have hnew : Controller.new ({} : Multiplexer) {} {
      detection := { resetMs := 0, floatMs := 0, lowMs := 0, connectMs := 0 } } = .ok _ := rfl
  have hreachable : c.Reachable := (Reachable.new hnew).steps _
  have hinput : (c.portState .p1).stage = .pin1Loaded := rfl
  have houtput : (c.outputState .p1).stage = .connection := rfl
  obtain ⟨hsilent, hmeasuring, -⟩ := undetected_publishes_nothing hreachable .p1
  obtain ⟨hconnected, hverdict, -, hsession⟩ := hsilent (by rw [hinput]; rfl)
  obtain ⟨hconnected', hverdict'⟩ := hmeasuring (by rw [houtput]; rfl)
  exact ⟨hinput, hconnected, hverdict, hsession, houtput, hconnected', hverdict'⟩

end Controller

end PlugWatch
