import PlugWatch.Proofs.Detection.Detector
import PlugWatch.Proofs.Detection.InputTick
/-!
# The way back of an output port

An output port from which everything is unplugged gets back to the watch for the next plug, from
whatever stage it is in. The brick never drives pin 6, so an empty port shows its own level there, and
the ticks that are left are a measure that every tick lowers.

## Main Definitions

* `OutputState.Sound` : the invariant.
* `DetectionConfig.outputTicksLeft` : the most ticks that the way back takes.
* `OutputState.Vacant` : an output port with nothing plugged in.

## Main Statements

* `OutputState.nearer_tick` : a tick keeps the invariant, and brings a vacant port nearer to the watch
  for the next plug.
-/

namespace PlugWatch

/-! ## Time -/

namespace DetectionConfig

variable (config : DetectionConfig)

/-- The values that the timer of an output port has in a stage lie below this. -/
def outputDwell : Stage → Nat
  | .floatingDelay => span config.floatTicks
  | .waitingForPin6Low | .waitingForPin5Low => span config.lowTicks
  | .connectedWaitingForPortOpen => 65535
  | _ => 65536

theorem outputDwell_pos (stage : Stage) : 0 < config.outputDwell stage := by
  have hfloat := span_pos config.floatTicks
  have hlow := span_pos config.lowTicks
  unfold outputDwell
  split <;> omega

/-- The most ticks that an output port needs to get back to the watch for the next plug once it is
unplugged, by its stage and timer. -/
def outputTicksLeft (stage : Stage) (timer : Nat) : Nat :=
  let release := span config.releaseTicks + 1 + span config.floatTicks
  match stage with
  | .floating => 0
  | .floatingDelay => span config.floatTicks - timer
  | .init => 1 + span config.floatTicks
  | .connectedWaitingForPortOpen =>
    max 1 (span config.releaseTicks - timer) + 1 + span config.floatTicks
  | .waitingForPin5Low => span config.lowTicks - timer + release
  | .connection => 1 + span config.lowTicks + release
  | .waitingForPin6Low => span config.lowTicks - timer + 1 + span config.lowTicks + release
  | _ => 2 + span config.floatTicks

theorem outputTicksLeft_le (stage : Stage) (timer : Nat) :
    config.outputTicksLeft stage timer ≤
      2 * span config.lowTicks + 2 + span config.releaseTicks + span config.floatTicks := by
  have hrelease := span_pos config.releaseTicks
  unfold outputTicksLeft
  dsimp only
  split <;> omega

variable {config} {stage : Stage}

theorem stage_of_outputTicksLeft_eq_zero {timer : Nat} (htimely : timer < config.outputDwell stage)
    (h : config.outputTicksLeft stage timer = 0) : stage = .floating := by
  cases stage with
  | floating => rfl
  | floatingDelay =>
    simp only [outputTicksLeft, outputDwell] at h htimely
    omega
  | _ =>
    simp only [outputTicksLeft] at h
    omega

end DetectionConfig

namespace OutputState

variable {config : DetectionConfig} {port : Port} {pin5 : UInt16} {state : OutputState}

/-- The lines of the port. -/
def lines (state : OutputState) : OutputLines := state.socket.lines

variable (config) in
/-- What holds of a port unless user space drives its pins. -/
structure Sound (state : OutputState) : Prop where
  consistent : state.Consistent
  pin6 : state.lines.drive.get .pin6 = .float
  timely : state.watch.timer.toNat < config.outputDwell state.stage

/-! ## Vacant ports -/

variable (pin5) in
/-- Nothing is plugged into a port: pin 5 is in balance, and the far side of the lines shows the levels
of an empty port. -/
def Vacant (state : OutputState) : Prop :=
  (countsOfMillivolts 2400 ≤ pin5 ∧ pin5 ≤ countsOfMillivolts 2600) ∧
    state.lines.level = OutputLines.emptyLevel

instance (pin5 : UInt16) (state : OutputState) : Decidable (state.Vacant pin5) :=
  inferInstanceAs (Decidable (_ ∧ _))

theorem not_unbalanced_of_vacant (hvacant : state.Vacant pin5) :
    OutputScene.unbalanced pin5 = false := by
  rw [OutputScene.unbalanced_eq, decide_eq_true hvacant.1]
  rfl

theorem reads_pin6_of_vacant (h : Sound config state) (hvacant : state.Vacant pin5) :
    state.socket.lines.read .pin6 = true := by
  show (state.lines.drive.get .pin6).resolve (state.lines.level.get .pin6) = true
  rw [h.pin6, hvacant.2]
  rfl

/-- A vacant port that is watched for a plug shows no conditions. -/
theorem conditionsNow_of_vacant (h : Sound config state) (hvacant : state.Vacant pin5) :
    (state.conditionsNow pin5).isEmpty = true := by
  unfold OutputState.conditionsNow OutputScene.conditionsNow
  rw [not_unbalanced_of_vacant hvacant,
    show (state.scene #[]).socket.lines.read .pin6 = true from reads_pin6_of_vacant h hvacant]
  rfl

/-- A vacant port does not look as if a device were plugged. -/
theorem not_loaded_of_vacant (h : Sound config state) (hvacant : state.Vacant pin5) :
    state.loaded pin5 = false := by
  unfold loaded
  rw [not_unbalanced_of_vacant hvacant, reads_pin6_of_vacant h hvacant]
  rfl

/-! ## Ticks on the way back -/

variable (config) in
/-- The most ticks that a port needs to get back to the watch for the next plug once it is
unplugged. -/
def ticksLeft (state : OutputState) : Nat :=
  config.outputTicksLeft state.stage state.watch.timer.toNat

variable (config pin5) in
/-- What a tick does to pin 6, to the timer and to the ticks that are left: pin 6 stays released, the
timer keeps to the stage, and a vacant port gets nearer to the watch for the next plug. -/
structure Nearer (state after : OutputState) : Prop where
  pin6 : after.lines.drive.get .pin6 = .float
  timely : after.watch.timer.toNat < config.outputDwell after.stage
  left : state.Vacant pin5 → after.ticksLeft config ≤ state.ticksLeft config - 1

/-- A tick to a stage with the timer at a value. -/
theorem Nearer.of_eq {after : OutputState} (stage : Stage) (timer : UInt16)
    (hstage : after.stage = stage) (htimer : after.watch.timer = timer)
    (hpin6 : after.lines.drive.get .pin6 = .float)
    (htimely : timer.toNat < config.outputDwell stage)
    (hleft : state.Vacant pin5 →
      config.outputTicksLeft stage timer.toNat ≤ state.ticksLeft config - 1) :
    Nearer config pin5 state after := by
  subst hstage htimer
  exact ⟨hpin6, htimely, hleft⟩

theorem ticksLeft_of_stage {stage : Stage} (hstage : state.stage = stage) :
    state.ticksLeft config = config.outputTicksLeft stage state.watch.timer.toNat := by
  rw [ticksLeft, hstage]

theorem nearer_init (hstage : state.stage = .init) :
    Nearer config pin5 state (state.tick config port pin5) := by
  rw [tick_init config port pin5 hstage]
  refine .of_eq .floatingDelay 0 rfl rfl rfl (span_pos _) fun _ => ?_
  rw [ticksLeft_of_stage hstage]
  simp [DetectionConfig.outputTicksLeft]

section Stages

variable (h : Sound config state)
include h

theorem nearer_floatingDelay (hstage : state.stage = .floatingDelay) :
    Nearer config pin5 state (state.tick config port pin5) := by
  have htimely := h.timely
  rw [hstage] at htimely
  rw [tick_floatingDelay config port pin5 hstage]
  rcases span_cases htimely with ⟨hover, -⟩ | ⟨hrest, hnext, hlt⟩
  · rw [if_pos hover]
    exact .of_eq .floating 0 rfl rfl h.pin6 (config.outputDwell_pos _) fun _ => Nat.zero_le _
  · rw [if_neg hrest]
    refine .of_eq .floatingDelay (state.watch.timer + 1) hstage rfl h.pin6 (hnext ▸ hlt) fun _ => ?_
    rw [ticksLeft_of_stage hstage]
    simp only [DetectionConfig.outputTicksLeft, hnext]
    omega

/-- A vacant port stays watched. -/
theorem nearer_floating (hstage : state.stage = .floating) :
    Nearer config pin5 state (state.tick config port pin5) := by
  rw [tick_floating config port pin5 hstage]
  dsimp only
  split
  · exact .of_eq .floating _ hstage rfl h.pin6 (UInt16.toNat_lt _) fun _ => Nat.zero_le _
  · rename_i hseen
    have hnever : ¬state.Vacant pin5 := fun hvacant => hseen (conditionsNow_of_vacant h hvacant)
    split
    · exact .of_eq .waitingForPin6Low 0 rfl rfl rfl (span_pos _) fun hvacant => absurd hvacant hnever
    · exact .of_eq .floating _ hstage rfl h.pin6 (UInt16.toNat_lt _)
        fun hvacant => absurd hvacant hnever

theorem nearer_waitingForPin6Low (hstage : state.stage = .waitingForPin6Low) :
    Nearer config pin5 state (state.tick config port pin5) := by
  have htimely := h.timely
  rw [hstage] at htimely
  have hmost := @ticksLeft_of_stage config state _ hstage
  simp only [DetectionConfig.outputTicksLeft] at hmost
  rw [tick_waitingForPin6Low config port pin5 hstage]
  rcases span_cases htimely with ⟨hover, hlast⟩ | ⟨hrest, hnext, hlt⟩
  · rw [if_pos hover]
    refine .of_eq .connection (state.watch.timer + 1) rfl rfl rfl (UInt16.toNat_lt _) fun _ => ?_
    simp only [DetectionConfig.outputTicksLeft]
    omega
  · rw [if_neg hrest]
    refine .of_eq .waitingForPin6Low (state.watch.timer + 1) hstage rfl h.pin6 (hnext ▸ hlt)
      fun _ => ?_
    simp only [DetectionConfig.outputTicksLeft, hnext]
    omega

theorem nearer_connection (hstage : state.stage = .connection) :
    Nearer config pin5 state (state.tick config port pin5) := by
  have hmost := @ticksLeft_of_stage config state _ hstage
  have hlow := span_pos config.lowTicks
  have hrelease := span_pos config.releaseTicks
  simp only [DetectionConfig.outputTicksLeft] at hmost
  obtain ⟨rule, -, hrule⟩ := exists_outputRule state.probe
  rw [tick_connection config port pin5 hstage hrule]
  cases rule.verdict with
  | connect classification =>
    refine .of_eq .connectedWaitingForPortOpen 0 rfl rfl h.pin6 (config.outputDwell_pos _)
      fun _ => ?_
    simp only [DetectionConfig.outputTicksLeft, show (0 : UInt16).toNat = 0 from rfl]
    omega
  | actuator sample =>
    refine .of_eq .connectedWaitingForPortOpen 0 rfl rfl h.pin6 (config.outputDwell_pos _)
      fun _ => ?_
    simp only [DetectionConfig.outputTicksLeft, show (0 : UInt16).toNat = 0 from rfl]
    omega
  | probeDriven =>
    refine .of_eq .waitingForPin5Low 0 rfl rfl h.pin6 (span_pos _) fun _ => ?_
    simp only [DetectionConfig.outputTicksLeft, show (0 : UInt16).toNat = 0 from rfl]
    omega

/-- The ticks of the third measurement count towards the release, which is why they may not fill the
timer. -/
theorem nearer_waitingForPin5Low (hlow : config.lowTicks.toNat < 65535)
    (hstage : state.stage = .waitingForPin5Low) :
    Nearer config pin5 state (state.tick config port pin5) := by
  have htimely := h.timely
  rw [hstage] at htimely
  have hmost := @ticksLeft_of_stage config state _ hstage
  simp only [DetectionConfig.outputTicksLeft] at hmost
  obtain ⟨rule, -, hrule⟩ := exists_drivenRule ⟨millivoltsOfCounts pin5⟩
  rw [tick_waitingForPin5Low config port pin5 hstage hrule]
  have htimer : state.watch.timer.toNat < 65535 := by
    have hlt : state.watch.timer.toNat < span config.lowTicks := htimely
    unfold span at hlt
    omega
  have hnext := toNat_add_one htimer
  have hrelease := span_pos config.releaseTicks
  rcases span_cases htimely with ⟨hover, hlast⟩ | ⟨hrest, -, hlt⟩
  · rw [if_pos hover]
    refine .of_eq .connectedWaitingForPortOpen (state.watch.timer + 1) rfl rfl h.pin6 ?_ fun _ => ?_
    · show (state.watch.timer + 1).toNat < 65535
      unfold span at hlast
      omega
    · simp only [DetectionConfig.outputTicksLeft, hnext]
      omega
  · rw [if_neg hrest]
    refine .of_eq .waitingForPin5Low (state.watch.timer + 1) hstage rfl h.pin6 (hnext ▸ hlt)
      fun _ => ?_
    simp only [DetectionConfig.outputTicksLeft, hnext]
    omega

theorem nearer_connectedWaitingForPortOpen (hstage : state.stage = .connectedWaitingForPortOpen) :
    Nearer config pin5 state (state.tick config port pin5) := by
  have htimely : state.watch.timer.toNat < 65535 := by
    have htimely := h.timely
    rwa [hstage] at htimely
  have hmost := @ticksLeft_of_stage config state _ hstage
  simp only [DetectionConfig.outputTicksLeft] at hmost
  rw [tick_connectedWaitingForPortOpen config port pin5 hstage]
  -- the timer counts on, or starts anew at one
  have hcount : (if state.loaded pin5 then 0 else state.watch.timer).toNat < 65535 := by
    split
    · decide
    · exact htimely
  have hcount' : state.Vacant pin5 →
      (if state.loaded pin5 then 0 else state.watch.timer) = state.watch.timer := by
    intro hvacant
    rw [not_loaded_of_vacant h hvacant]
    rfl
  generalize (if state.loaded pin5 then 0 else state.watch.timer) = count at hcount hcount' ⊢
  have hnext := toNat_add_one hcount
  dsimp only
  split
  · refine .of_eq .init (count + 1) rfl rfl h.pin6 (UInt16.toNat_lt _) fun _ => ?_
    simp only [DetectionConfig.outputTicksLeft]
    omega
  · rename_i hrest
    rw [UInt16.le_iff_toNat_le, hnext] at hrest
    have hlimit := config.releaseTicks.toNat_lt
    refine .of_eq .connectedWaitingForPortOpen (count + 1) rfl rfl h.pin6 ?_ fun hvacant => ?_
    · rw [hnext]
      show count.toNat + 1 < 65535
      omega
    · rw [← hcount' hvacant] at hmost
      simp only [DetectionConfig.outputTicksLeft, hnext]
      unfold span at hmost ⊢
      omega

theorem nearer_foreign (hmeasuring : state.stage.measuring = false)
    (hopen : state.stage ≠ .connectedWaitingForPortOpen) (hinit : state.stage ≠ .init) :
    Nearer config pin5 state (state.tick config port pin5) := by
  have hmost : state.ticksLeft config = 2 + span config.floatTicks := by
    unfold ticksLeft
    cases hstage : state.stage with
    | init => exact absurd hstage hinit
    | connectedWaitingForPortOpen => exact absurd hstage hopen
    | floatingDelay | floating | waitingForPin6Low | connection | waitingForPin5Low =>
      rw [hstage] at hmeasuring
      cases hmeasuring
    | _ => rfl
  rw [tick_of_foreign config port pin5 hmeasuring hopen hinit]
  refine .of_eq .init state.watch.timer rfl rfl h.pin6 (UInt16.toNat_lt _) fun _ => ?_
  simp only [DetectionConfig.outputTicksLeft]
  omega

/-- **A tick of a vacant port brings it nearer to the watch for the next plug**, and any tick leaves
pin 6 released and the timer in step with the stage. -/
theorem nearer_tick (hlow : config.lowTicks.toNat < 65535) :
    Nearer config pin5 state (state.tick config port pin5) := by
  cases hstage : state.stage with
  | init => exact nearer_init hstage
  | floatingDelay => exact nearer_floatingDelay h hstage
  | floating => exact nearer_floating h hstage
  | waitingForPin6Low => exact nearer_waitingForPin6Low h hstage
  | connection => exact nearer_connection h hstage
  | waitingForPin5Low => exact nearer_waitingForPin5Low h hlow hstage
  | connectedWaitingForPortOpen => exact nearer_connectedWaitingForPortOpen h hstage
  | _ => exact nearer_foreign h (by rw [hstage]; rfl) (by rw [hstage]; nofun) (by rw [hstage]; nofun)

/-- **No tick breaks the invariant.** -/
theorem sound_tick (hlow : config.lowTicks.toNat < 65535) :
    Sound config (state.tick config port pin5) where
  consistent := @consistent_tick (state.scene #[]) config port pin5 h.consistent
  pin6 := (nearer_tick h hlow).pin6
  timely := (nearer_tick h hlow).timely

/-! ## What else happens to a port -/

/-- Switching test mode starts the port over, so the invariant says nothing new. -/
theorem sound_reset : Sound config { state with watch := state.watch.reset } where
  consistent := .of_init rfl
  pin6 := h.pin6
  timely := config.outputDwell_pos _

/-- Nothing that is done to a port breaks the invariant, but for driving its pins. -/
theorem sound_onPort {act : OutputAct} (hdrive : ∀ role drive, act ≠ .drive role drive) :
    Sound config (act.onPort state) := by
  cases act with
  | plug level => exact ⟨⟨h.consistent.measuring, h.consistent.identified⟩, h.pin6, h.timely⟩
  | drive role drive => exact absurd rfl (hdrive role drive)

end Stages

end OutputState

end PlugWatch
