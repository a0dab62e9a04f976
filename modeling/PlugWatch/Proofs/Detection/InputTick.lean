import PlugWatch.Proofs.Detection.Progress
/-!
# What a tick does to an input port

Stage by stage, a tick of the watch of an input port as an equation between states of the port. Unlike
the moves and the progress of a port these say all that a tick does, the timer included, which is what
an argument about the time that something takes goes by.

## Main Definitions

* `PortState.released` : whether the device that is waited for seems to be gone.
* `span` : the number of ticks that a delay takes.

## Main Statements

* `PortState.tick_init` and its neighbours : what a tick does in each stage.
* `span_cases` : a delay runs out in its last tick and not before.
-/

namespace PlugWatch

/-! ## Delays -/

/-- The number of ticks that a delay takes: a delay of nothing takes a tick as well. -/
def span (limit : UInt16) : Nat := max 1 limit.toNat

theorem span_pos (limit : UInt16) : 0 < span limit := Nat.le_max_left 1 _

/-- A timer that is not full counts on. -/
theorem toNat_add_one {timer : UInt16} (h : timer.toNat < 65535) :
    (timer + 1).toNat = timer.toNat + 1 := by
  rw [UInt16.toNat_add, show (1 : UInt16).toNat = 1 from rfl]
  omega

/-- A count that is below its limit with one more tick leaves room for another. -/
theorem toNat_add_one_le_of_rest {limit timer : UInt16} (hrest : ¬limit ≤ timer + 1) :
    (timer + 1).toNat ≤ 65534 := by
  have hlimit := limit.toNat_lt
  rw [UInt16.le_iff_toNat_le] at hrest
  omega

/-- A delay that has not run out either runs out in this tick, which then is the last one, or gets a
tick on. -/
theorem span_cases {limit timer : UInt16} (h : timer.toNat < span limit) :
    (limit ≤ timer + 1 ∧ timer.toNat + 1 = span limit) ∨
      (¬limit ≤ timer + 1 ∧ (timer + 1).toNat = timer.toNat + 1 ∧
        timer.toNat + 1 < span limit) := by
  have hlimit := limit.toNat_lt
  unfold span at h ⊢
  rw [UInt16.le_iff_toNat_le, toNat_add_one (show timer.toNat < 65535 by omega)]
  omega

namespace PortState

variable (config : DetectionConfig) (port : Port) (pin1 : UInt16)

/-! ## Small steps -/

/-- Goes on to a stage with the timer at a value. -/
def arrive (state : PortState) (stage : Stage) (timer : UInt16) : PortState :=
  { state with watch := { state.watch with stage := stage, timer := timer } }

/-- The level seen on a pin of the port. -/
def sees (state : PortState) (role : InputRole) : Bool := state.lines.read role

/-- The conditions on the released port. -/
def conditionsNow (state : PortState) : Conditions := state.scene.conditionsNow config pin1

/-- Takes note of conditions; conditions that are new start the count anew. -/
def see (state : PortState) (seen : Conditions) : PortState :=
  { state with
    watch := { state.watch with
      conditions := seen
      timer := if seen = state.watch.conditions then state.watch.timer else 0 } }

/-- Publishes a classification and takes the device to be connected. -/
def identify (state : PortState) (classification : Classification) : PortState :=
  { state with
    watch := { state.watch with connected := true }
    socket := { state.socket with verdict := classification } }

/-- The stage that is reached is remembered. -/
def remember (state : PortState) : PortState :=
  { state with watch := { state.watch with lastStage := state.watch.stage } }

/-- Whether the device that a settled port waits for seems to be gone. -/
def released (state : PortState) : Bool :=
  match state.stage with
  | .connectedWaitingForPin2High => !config.pin2Detection || state.sees .pin2
  | .connectedWaitingForPin1ToFloat => countsOfMillivolts Threshold.in1Near5V < pin1
  | .connectedWaitingForPin6Low => !state.sees .pin6
  | .connectedWaitingForPin5High => state.sees .pin5
  | _ => false

/-! ## Scenes -/

section Scenes

variable (scene : InputScene Session)

theorem ofScene_settle_eq : ofScene (scene.settle port) = (ofScene scene).remember := by
  obtain ⟨⟨stage, lastStage⟩, socket, link, journal⟩ := scene
  unfold InputScene.settle
  dsimp only
  split
  · rename_i h
    subst h
    rfl
  · rfl

theorem ofScene_onFloating :
    ofScene (scene.onFloating config port pin1) =
      let seen := (ofScene scene).conditionsNow config pin1
      let state := (ofScene scene).see seen
      if seen.isEmpty then state
      else
        state.arrive
          (if config.connectTicks ≤ state.watch.timer + 1 then .connection else .floating)
          (state.watch.timer + 1) := by
  obtain ⟨⟨stage, lastStage, connected, enabled, command, timer, conditions, touchLevel⟩, socket,
    link, journal⟩ := scene
  have hnow : InputScene.conditionsNow config pin1 ⟨⟨stage, lastStage, connected, enabled, command,
      timer, conditions, touchLevel⟩, socket, link, journal⟩ =
    (PortState.mk ⟨stage, lastStage, connected, enabled, command, timer, conditions, touchLevel⟩
      socket link).conditionsNow config pin1 := rfl
  unfold InputScene.onFloating ofScene
  dsimp only
  rw [hnow]
  generalize (PortState.mk _ socket link).conditionsNow config pin1 = seen
  by_cases hsame : seen = conditions
  · subst hsame
    simp only [if_true, see]
    split <;> rfl
  · simp only [if_neg hsame, see]
    split <;> rfl

theorem ofScene_awaitRelease (limit : UInt16) (gone : Bool) :
    ofScene (scene.awaitRelease port limit gone) =
      if gone then
        if limit ≤ scene.watch.timer + 1 then
          { ofScene scene with
            watch := { scene.watch with
              timer := scene.watch.timer + 1, connected := false, stage := .init } }
        else (ofScene scene).arrive scene.watch.stage (scene.watch.timer + 1)
      else (ofScene scene).arrive scene.watch.stage 0 := by
  unfold InputScene.awaitRelease
  cases gone with
  | false => rfl
  | true =>
    simp only [if_true]
    exact apply_ite ofScene _ _ _

/-- The rules for legacy sensors always decide. -/
theorem exists_legacyRule (probe : LegacyProbe) :
    ∃ rule ∈ legacyRules, firstMatch legacyRules probe = some rule :=
  firstMatch_of_mem legacyRules probe
    (List.mem_of_getLast? (show legacyRules.getLast? = some _ from rfl)) rfl

theorem ofScene_onPin2Low {rule : Rule LegacyProbe LegacyVerdict}
    (hrule : firstMatch legacyRules ⟨scene.watch.conditions, pin1⟩ = some rule) :
    ofScene (scene.onPin2Low port pin1) =
      let verdict := InputScene.withoutLink scene.link.isSome rule.verdict
      { watch := { scene.watch with
          connected := true
          timer := 0
          touchLevel := if verdict.next = .nxtTouchCheck then pin1 else scene.watch.touchLevel
          stage := verdict.next }
        socket := { scene.socket with
          lines := scene.socket.lines.release
          verdict := verdict.classification.getD scene.socket.verdict }
        session := scene.link } := by
  obtain ⟨watch, socket, link, journal⟩ := scene
  unfold InputScene.onPin2Low
  dsimp only [InputScene.connect, InputScene.mapLines] at hrule ⊢
  rw [hrule]
  rcases hverdict : InputScene.withoutLink link.isSome rule.verdict with ⟨classification, next⟩
  simp only [InputScene.note, hverdict]
  by_cases htouch : next = .nxtTouchCheck
  · simp only [if_pos htouch]
    cases classification <;> rfl
  · simp only [if_neg htouch]
    cases classification <;> rfl

/-- The rules for devices that load pin 1 always decide. -/
theorem exists_loadedRule (probe : LoadedProbe) :
    ∃ rule ∈ loadedRules, firstMatch loadedRules probe = some rule :=
  firstMatch_of_mem loadedRules probe
    (List.mem_of_getLast? (show loadedRules.getLast? = some _ from rfl)) rfl

/-- A tick of a colour session waits for one more tick and leaves the session alone, or stops it and
ends the wait. -/
theorem onColorBusy_cases (hstage : scene.watch.stage = .nxtColorBusy) :
    let after := ofScene (scene.onColorBusy config port)
    (after.stage = .nxtColorBusy ∧ after.session = scene.link ∧
        after.watch.timer = scene.watch.timer + 1 ∧
        ¬config.colorTimeoutTicks < scene.watch.timer + 1) ∨
      (after.stage = .connectedWaitingForPin2High ∧ after.session = scene.link.map Session.stop ∧
        after.watch.timer ∈ [0, 1, scene.watch.timer]) := by
  have hnow : (0 : UInt16) ∈ [0, 1, scene.watch.timer] := List.mem_cons_self
  unfold InputScene.onColorBusy
  dsimp only
  split
  · rename_i hlink
    refine .inr ⟨rfl, ?_, List.mem_cons_of_mem _ (List.mem_cons_of_mem _ List.mem_cons_self)⟩
    show scene.link = scene.link.map Session.stop
    rw [hlink]
    rfl
  · rename_i session hlink
    by_cases hready : ColorProtocol.ready session port = true
    · obtain ⟨journal, hcollect⟩ := collect_eq port scene (ColorProtocol.response session port)
      rw [if_pos hready, hcollect]
      split
      · -- an answer that comes late is collected all the same, and the session is stopped twice
        rw [ofScene_giveUp]
        exact .inr ⟨rfl, map_stop_map_stop _, hnow⟩
      · exact .inr ⟨rfl, rfl, List.mem_cons_of_mem _ List.mem_cons_self⟩
    · rw [if_neg hready]
      split
      · rw [ofScene_giveUp]
        exact .inr ⟨rfl, rfl, hnow⟩
      · rename_i hrest
        exact .inl ⟨hstage, rfl, rfl, hrest⟩

theorem ofScene_onInit :
    ofScene (scene.onInit port) =
      { watch := { scene.watch with
          connected := false, timer := 0, conditions := .none, stage := .floatingDelay }
        socket := { scene.socket with
          lines := scene.socket.lines.release
          verdict := .none
          handshake := { scene.socket.handshake with active := false } }
        session := scene.link.map Session.stop } := by
  obtain ⟨journal, hstop⟩ := stopSession_eq port
    (scene.mapHandshake fun handshake => { handshake with active := false })
  unfold InputScene.onInit
  dsimp only
  rw [hstop]
  rfl

end Scenes

/-! ## Ticks with detection on -/

section Stages

variable {state : PortState}

/-- With detection on, a tick is what the stage does, with the stage remembered. -/
theorem tick_of_on (hon : state.enabled = true) :
    state.tick config port pin1 = (ofScene (state.scene.act config port pin1)).remember := by
  have hgate : state.scene.gate = state.scene := if_pos hon
  show ofScene ((state.scene.gate.act config port pin1).settle port) = _
  rw [ofScene_settle_eq, hgate]

variable (hon : state.enabled = true)
include hon

theorem tick_init (hstage : state.stage = .init) :
    state.tick config port pin1 =
      { watch := { state.watch with
          connected := false, timer := 0, conditions := .none, stage := .floatingDelay
          lastStage := .floatingDelay }
        socket := { state.socket with
          lines := state.lines.release
          verdict := .none
          handshake := { state.handshake with active := false } }
        session := state.session.map Session.stop } := by
  rw [tick_of_on config port pin1 hon, InputScene.act,
    show state.scene.watch.stage = .init from hstage]
  dsimp only
  rw [ofScene_onInit]
  rfl

theorem tick_floatingDelay (hstage : state.stage = .floatingDelay) :
    state.tick config port pin1 =
      (if config.floatTicks ≤ state.watch.timer + 1 then state.arrive .floating 0
        else state.arrive .floatingDelay (state.watch.timer + 1)).remember := by
  rw [tick_of_on config port pin1 hon, InputScene.act,
    show state.scene.watch.stage = .floatingDelay from hstage]
  dsimp only
  rw [← hstage]
  exact congrArg remember (apply_ite ofScene _ _ _)

theorem tick_floating (hstage : state.stage = .floating) :
    state.tick config port pin1 =
      (let seen := state.conditionsNow config pin1
        if seen.isEmpty then state.see seen
        else
          (state.see seen).arrive
            (if config.connectTicks ≤ (state.see seen).watch.timer + 1 then .connection
              else .floating)
            ((state.see seen).watch.timer + 1)).remember := by
  rw [tick_of_on config port pin1 hon, InputScene.act,
    show state.scene.watch.stage = .floating from hstage]
  dsimp only
  rw [ofScene_onFloating]
  rfl

theorem tick_connection (hstage : state.stage = .connection) :
    state.tick config port pin1 =
      (PortState.arrive
        { state with socket := { state.socket with log := state.socket.log.reset } }
        (InputScene.stageOf state.watch.conditions) state.watch.timer).remember := by
  rw [tick_of_on config port pin1 hon, InputScene.act,
    show state.scene.watch.stage = .connection from hstage]
  rfl

theorem tick_pin2Low (hstage : state.stage = .pin2Low) {rule : Rule LegacyProbe LegacyVerdict}
    (hrule : firstMatch legacyRules ⟨state.watch.conditions, pin1⟩ = some rule) :
    state.tick config port pin1 =
      let verdict := InputScene.withoutLink state.session.isSome rule.verdict
      remember
        { watch := { state.watch with
            connected := true
            timer := 0
            touchLevel := if verdict.next = .nxtTouchCheck then pin1 else state.watch.touchLevel
            stage := verdict.next }
          socket := { state.socket with
            lines := state.lines.release
            verdict := verdict.classification.getD state.verdict }
          session := state.session } := by
  rw [tick_of_on config port pin1 hon, InputScene.act,
    show state.scene.watch.stage = .pin2Low from hstage]
  dsimp only
  rw [ofScene_onPin2Low port pin1 state.scene hrule]
  rfl

theorem tick_nxtTouchCheck (hstage : state.stage = .nxtTouchCheck) :
    state.tick config port pin1 =
      (if config.touchTicks ≤ state.watch.timer + 1 then
        { state.arrive .connectedWaitingForPin2High 0 with
          socket := { state.socket with
            verdict := InputScene.touchOrSound state.watch.touchLevel pin1 } }
      else state.arrive .nxtTouchCheck (state.watch.timer + 1)).remember := by
  rw [tick_of_on config port pin1 hon, InputScene.act,
    show state.scene.watch.stage = .nxtTouchCheck from hstage]
  dsimp only
  rw [← hstage]
  exact congrArg remember (apply_ite ofScene _ _ _)

theorem tick_pin1Loaded (hstage : state.stage = .pin1Loaded)
    {rule : Rule LoadedProbe Classification} (hrule : firstMatch loadedRules ⟨pin1⟩ = some rule) :
    state.tick config port pin1 =
      ((state.identify rule.verdict).arrive .connectedWaitingForPin1ToFloat 0).remember := by
  rw [tick_of_on config port pin1 hon, InputScene.act,
    show state.scene.watch.stage = .pin1Loaded from hstage]
  dsimp only [InputScene.onPin1Loaded]
  rw [hrule]
  rfl

theorem tick_pin6High (hstage : state.stage = .pin6High) :
    state.tick config port pin1 =
      ((state.identify ⟨.nxtIic, .nxtIic⟩).arrive .connectedWaitingForPin6Low 0).remember := by
  rw [tick_of_on config port pin1 hon, InputScene.act,
    show state.scene.watch.stage = .pin6High from hstage]
  rfl

theorem tick_pin5Low (hstage : state.stage = .pin5Low) :
    state.tick config port pin1 =
      ((state.identify .error).arrive .connectedWaitingForPin5High 0).remember := by
  rw [tick_of_on config port pin1 hon, InputScene.act,
    show state.scene.watch.stage = .pin5Low from hstage]
  rfl

theorem tick_settled (hsettled : state.stage.settled = true) :
    state.tick config port pin1 =
      (if state.released config pin1 then
        if config.releaseTicks ≤ state.watch.timer + 1 then
          { state with
            watch := { state.watch with
              timer := state.watch.timer + 1, connected := false, stage := .init } }
        else state.arrive state.stage (state.watch.timer + 1)
      else state.arrive state.stage 0).remember := by
  rw [tick_of_on config port pin1 hon, InputScene.act, released]
  have hawait := fun gone => ofScene_awaitRelease port state.scene config.releaseTicks gone
  cases hstage : state.stage with
  | connectedWaitingForPin2High | connectedWaitingForPin1ToFloat | connectedWaitingForPin6Low
  | connectedWaitingForPin5High =>
    rw [show state.scene.watch.stage = _ from hstage]
    dsimp only
    rw [hawait, show state.scene.watch.stage = _ from hstage]
    rfl
  | _ =>
    rw [hstage] at hsettled
    cases hsettled

theorem tick_nxtColorInit (hstage : state.stage = .nxtColorInit) :
    state.tick config port pin1 =
      (arrive
        { state with
          socket := { state.socket with handshake := { state.handshake with command := 0 } }
          session := state.session.map Session.stop }
        (if state.session.isSome then .nxtColorWait else .connectedWaitingForPin2High)
        0).remember := by
  rw [tick_of_on config port pin1 hon, InputScene.act,
    show state.scene.watch.stage = .nxtColorInit from hstage]
  dsimp only [InputScene.onColorInit]
  obtain ⟨journal, hstop⟩ := stopSession_eq port
    (state.scene.mapHandshake fun handshake => { handshake with command := 0 })
  rw [hstop]
  obtain ⟨watch, socket, session⟩ := state
  cases session <;> rfl

theorem tick_nxtColorWait (hstage : state.stage = .nxtColorWait) :
    state.tick config port pin1 =
      (match state.session with
        | none => state.arrive .connectedWaitingForPin2High state.watch.timer
        | some session =>
          if state.handshake.settled then
            arrive { state with session := some (session.start state.watch.command) }
              .nxtColorBusy state.watch.timer
          else state).remember := by
  rw [tick_of_on config port pin1 hon, InputScene.act,
    show state.scene.watch.stage = .nxtColorWait from hstage]
  dsimp only [InputScene.onColorWait]
  obtain ⟨watch, socket, session⟩ := state
  cases session with
  | none => rfl
  | some session => exact congrArg remember (apply_ite ofScene _ _ _)

/-- A tick of a colour session waits for one more tick, or is the end of the session: then the answer
was collected, or the time is up, or there is no link. -/
theorem tick_nxtColorBusy (hstage : state.stage = .nxtColorBusy) :
    ((state.tick config port pin1).stage = .nxtColorBusy ∧
        (state.tick config port pin1).session = state.session ∧
        (state.tick config port pin1).watch.timer = state.watch.timer + 1 ∧
        ¬config.colorTimeoutTicks < state.watch.timer + 1) ∨
      ((state.tick config port pin1).stage = .connectedWaitingForPin2High ∧
        (state.tick config port pin1).session = state.session.map Session.stop ∧
        (state.tick config port pin1).watch.timer ∈ [0, 1, state.watch.timer]) := by
  rw [tick_of_on config port pin1 hon, InputScene.act,
    show state.scene.watch.stage = .nxtColorBusy from hstage]
  exact onColorBusy_cases config port state.scene hstage

/-- A port that is out of detection, or in a stage that no input port is meant to be in, starts over. -/
theorem tick_of_foreign (hstage : state.stage = .disabled ∨ state.stage.ofOutput = true) :
    (state.tick config port pin1).stage = .init := by
  rw [tick_of_on config port pin1 hon, InputScene.act]
  rcases hstage with hstage | hstage
  · rw [show state.scene.watch.stage = .disabled from hstage]
    dsimp only [InputScene.onDisabled]
    rw [if_pos (show state.scene.watch.enabled = true from hon)]
    rfl
  · cases houtput : state.scene.watch.stage with
    | waitingForPin5Low | waitingForPin6Low | connectedWaitingForPortOpen => rfl
    | _ =>
      rw [show state.stage = _ from houtput] at hstage
      cases hstage

end Stages

end PortState

end PlugWatch
