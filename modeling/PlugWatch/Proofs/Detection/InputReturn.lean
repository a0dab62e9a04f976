import PlugWatch.Proofs.Detection.Detector
import PlugWatch.Proofs.Detection.InputTick
import PlugWatch.Proofs.Detection.TestMode
/-!
# The way back of an input port

An input port from which everything is unplugged gets back to the watch for the next plug, from
whatever stage it is in. What could keep it from that are the pins that the brick drives itself and the
timers that may wrap around. An invariant rules both out, and the ticks that are left are a measure that
every tick lowers.

## Main Definitions

* `Stage.bare` : the stages in which the brick drives no digital pin of the port.
* `PortState.Sound` : the invariant.
* `DetectionConfig.inputTicksLeft` : the most ticks that the way back takes.
* `PortState.Vacant` : an input port with nothing plugged in.

## Main Statements

* `PortState.nearer_tick` : a tick of a vacant port brings it nearer to the watch for the next plug.
* `PortState.sound_tick` : no tick breaks the invariant.
-/

namespace PlugWatch

namespace Stage

/-- Whether the brick drives no digital pin of an input port: nothing has been identified so far, or
what has been is not a legacy sensor. -/
def bare : Stage → Bool
  | connectedWaitingForPin1ToFloat | connectedWaitingForPin6Low | connectedWaitingForPin5High => true
  | stage => stage.undetected

theorem bare_of_undetected {stage : Stage} (h : stage.undetected = true) : stage.bare = true := by
  cases stage <;> first | rfl | cases h

theorem not_bare_of_inColorSession {stage : Stage} (h : stage.inColorSession = true) :
    stage.bare = false := by
  cases stage <;> first | rfl | cases h

end Stage

/-! ## Time -/

namespace DetectionConfig

variable (config : DetectionConfig)

/-- The values that the timer of an input port has in a stage lie below this. -/
def inputDwell : Stage → Nat
  | .floatingDelay => span config.floatTicks
  | .nxtTouchCheck => span config.touchTicks
  | .nxtColorWait => 1
  | .nxtColorBusy => config.colorTimeoutTicks.toNat + 1
  | .connectedWaitingForPin2High | .connectedWaitingForPin1ToFloat | .connectedWaitingForPin6Low
  | .connectedWaitingForPin5High => 65535
  | _ => 65536

theorem inputDwell_pos (stage : Stage) : 0 < config.inputDwell stage := by
  have hfloat := span_pos config.floatTicks
  have htouch := span_pos config.touchTicks
  unfold inputDwell
  split <;> omega

/-- The ticks from the loss of a device to the watch for the next one, if the loss is new. -/
def releaseTicksLeft : Nat := span config.releaseTicks + 1 + span config.floatTicks

/-- The most ticks that an input port needs to get back to the watch for the next plug once it is
unplugged, by its stage and timer. -/
def inputTicksLeft (stage : Stage) (timer : Nat) : Nat :=
  match stage with
  | .floating => 0
  | .floatingDelay => span config.floatTicks - timer
  | .init => 1 + span config.floatTicks
  | .connectedWaitingForPin2High | .connectedWaitingForPin1ToFloat | .connectedWaitingForPin6Low
  | .connectedWaitingForPin5High =>
    max 1 (span config.releaseTicks - timer) + 1 + span config.floatTicks
  | .nxtTouchCheck => span config.touchTicks - timer + config.releaseTicksLeft
  | .nxtColorBusy => config.colorTimeoutTicks.toNat + 1 - timer + config.releaseTicksLeft
  | .nxtColorWait => config.colorTimeoutTicks.toNat + 2 + config.releaseTicksLeft
  | .nxtColorInit => config.colorTimeoutTicks.toNat + 3 + config.releaseTicksLeft
  | .pin2Low | .pin1Loaded | .pin6High | .pin5Low =>
    span config.touchTicks + config.colorTimeoutTicks.toNat + 3 + config.releaseTicksLeft
  | .connection =>
    span config.touchTicks + config.colorTimeoutTicks.toNat + 4 + config.releaseTicksLeft
  | .disabled | .waitingForPin5Low | .waitingForPin6Low | .connectedWaitingForPortOpen =>
    2 + span config.floatTicks

theorem inputTicksLeft_le (stage : Stage) (timer : Nat) :
    config.inputTicksLeft stage timer ≤
      span config.touchTicks + config.colorTimeoutTicks.toNat + 4 + config.releaseTicksLeft := by
  have hrelease := span_pos config.releaseTicks
  unfold inputTicksLeft releaseTicksLeft
  split <;> omega

variable {config} {stage : Stage}

theorem stage_of_inputTicksLeft_eq_zero {timer : Nat} (htimely : timer < config.inputDwell stage)
    (h : config.inputTicksLeft stage timer = 0) : stage = .floating := by
  cases stage with
  | floating => rfl
  | floatingDelay =>
    simp only [inputTicksLeft, inputDwell] at h htimely
    omega
  | _ =>
    simp only [inputTicksLeft, releaseTicksLeft] at h
    omega

theorem inputTicksLeft_of_settled (h : stage.settled = true) (timer : Nat) :
    config.inputDwell stage = 65535 ∧ config.inputTicksLeft stage timer =
      max 1 (span config.releaseTicks - timer) + 1 + span config.floatTicks := by
  cases stage with
  | connectedWaitingForPin2High | connectedWaitingForPin1ToFloat | connectedWaitingForPin6Low
  | connectedWaitingForPin5High => exact ⟨rfl, rfl⟩
  | _ => cases h

/-- A device that was found takes at most the ticks of a release. -/
theorem inputTicksLeft_le_of_settled (h : stage.settled = true) (timer : Nat) :
    config.inputTicksLeft stage timer ≤ config.releaseTicksLeft := by
  have hrelease := span_pos config.releaseTicks
  rw [(inputTicksLeft_of_settled h timer).2, releaseTicksLeft]
  omega

theorem inputTicksLeft_of_probing (h : stage.probing = true) (timer : Nat) :
    config.inputDwell stage = 65536 ∧ config.inputTicksLeft stage timer =
      span config.touchTicks + config.colorTimeoutTicks.toNat + 3 + config.releaseTicksLeft := by
  cases stage with
  | pin2Low | pin1Loaded | pin6High | pin5Low => exact ⟨rfl, rfl⟩
  | _ => cases h

end DetectionConfig

/-! ## Sessions -/

namespace Session

variable {role : InputRole} (hpin5 : role ≠ .pin5) (hpin6 : role ≠ .pin6)

include hpin5 in
theorem drive_advance_ne (delay : UInt16) (session : Session) (lines : InputLines) :
    (session.advance delay lines).2.drive.get role = lines.drive.get role := by
  have hdrive : ∀ drive, (lines.driveTo .pin5 drive).drive.get role = lines.drive.get role := by
    intro drive
    rw [InputLines.drive_driveTo, InputPins.get_set_ne _ _ hpin5]
  unfold advance
  split
  case h_3 =>
    split
    · rfl
    · exact hdrive _
  case h_7 | h_8 => split <;> rfl
  case h_1 | h_6 | h_9 => rfl
  all_goals exact hdrive _

include hpin5 hpin6

theorem drive_clockBit_ne (session : Session) (lines : InputLines) :
    (session.clockBit lines).2.drive.get role = lines.drive.get role := by
  have hclock : ∀ (lines : InputLines) (drive : Drive),
      (lines.driveTo .pin5 drive).drive.get role = lines.drive.get role := by
    intro lines drive
    rw [InputLines.drive_driveTo, InputPins.get_set_ne _ _ hpin5]
  have hdata : ∀ drive, (lines.driveTo .pin6 drive).drive.get role = lines.drive.get role := by
    intro drive
    rw [InputLines.drive_driveTo, InputPins.get_set_ne _ _ hpin6]
  unfold clockBit
  split
  · split
    · unfold lowerClock
      dsimp only
      split
      · exact hclock lines _
      · split <;> exact hclock lines _
    · unfold raiseClock
      split
      · exact (hclock _ _).trans (hdata _)
      · exact (hclock _ _).trans (hdata _)
  · split <;> rfl

/-- A session drives no pins but pins 5 and 6. -/
theorem drive_step_ne (delay : UInt16) (session : Session) (lines : InputLines) :
    (session.step delay lines).2.drive.get role = lines.drive.get role := by
  unfold step
  split
  · rfl
  · dsimp only
    rw [drive_clockBit_ne hpin5 hpin6, drive_advance_ne hpin5]

end Session

namespace PortState

theorem drive_colorTick_ne (delay : UInt16) (state : PortState) {role : InputRole}
    (hpin5 : role ≠ .pin5) (hpin6 : role ≠ .pin6) :
    (state.colorTick delay).lines.drive.get role = state.lines.drive.get role := by
  unfold colorTick
  split
  · rfl
  · split
    · exact Session.drive_step_ne hpin5 hpin6 delay _ _
    · rfl

/-! ## The invariant -/

/-- A port whose digital pins the brick does not drive, and that has no session in use. -/
structure Bare (state : PortState) : Prop where
  pin5 : state.lines.drive.get .pin5 = .float
  pin6 : state.lines.drive.get .pin6 = .float
  unused : ∀ session ∈ state.session, session.inUse = false

/-- What holds of a port unless user space drives its pins. -/
structure Sound (config : DetectionConfig) (state : PortState) : Prop where
  consistent : state.Consistent
  bare : state.stage.bare = true → state.Bare
  pin2 : state.lines.drive.get .pin2 = .float
  timely : state.watch.timer.toNat < config.inputDwell state.stage

variable {config : DetectionConfig} {port : Port} {pin1 : UInt16} {state : PortState}

/-- A port gets bare in the first stage only. -/
theorem bare_of_progress {before after : PortState} (progress : Progress before after)
    (hbare : after.stage.bare = true) : before.stage.bare = true ∨ before.stage = .init := by
  have hno : ∀ {stage : Stage}, after.stage = stage → stage.bare = false →
      before.stage.bare = true ∨ before.stage = .init := by
    intro stage hstage hnot
    rw [hstage, hnot] at hbare
    cases hbare
  cases progress with
  | restart hbefore => exact .inr hbefore
  | search hbefore => exact .inl (Stage.bare_of_undetected (Stage.undetected_of_searching hbefore))
  | identify hbefore => exact .inl (Stage.bare_of_undetected (Stage.undetected_of_probing hbefore))
  | suspect hbefore hafter | confirm hbefore hafter | disconnect hbefore hafter
  | resume hbefore hafter => exact hno hafter rfl
  | stay hbefore hafter =>
    rcases hafter with hafter | ⟨-, hafter | hafter⟩
    · exact .inl (hafter ▸ hbare)
    · exact hno rfl (Stage.not_bare_of_inColorSession hafter)
    · exact hno hafter rfl

theorem Bare.of_release {before after : PortState} (hlines : after.lines = before.lines.release)
    (hunused : ∀ session ∈ after.session, session.inUse = false) : after.Bare := by
  obtain ⟨hpin5, hpin6, -⟩ := InputLines.drive_release before.lines
  exact ⟨hlines ▸ hpin5, hlines ▸ hpin6, hunused⟩

theorem Bare.of_lines {before after : PortState} (h : before.Bare)
    (hlines : after.lines = before.lines)
    (hunused : ∀ session ∈ after.session, session.inUse = false) : after.Bare :=
  ⟨hlines ▸ h.pin5, hlines ▸ h.pin6, hunused⟩

/-- A bare port stays bare from one bare stage to the next, and a port that starts over gets bare. -/
theorem bare_tick (h : state.stage.bare = true → state.Bare)
    (hbare : (state.tick config port pin1).stage.bare = true) :
    (state.tick config port pin1).Bare := by
  cases hon : state.enabled with
  | false =>
    rw [(tick_of_off config port pin1 hon).1] at hbare
    cases hbare
  | true =>
    rcases bare_of_progress (progress_tick config port pin1 hon) hbare with hbefore | hinit
    · have hwas := h hbefore
      have hstopped : (state.tick config port pin1).session = state.session.map Session.stop →
          ∀ session ∈ (state.tick config port pin1).session, session.inUse = false := by
        intro hsession
        rw [hsession]
        exact fun _ hmem => not_inUse_of_mem_stop hmem
      cases move_tick config port pin1 state with
      | look hlines hhandshake hsession => exact hwas.of_lines hlines (hsession ▸ hwas.unused)
      | release hlines hhandshake hsession => exact .of_release hlines (hsession ▸ hwas.unused)
      | restart hlines hhandshake hsession => exact .of_release hlines (hstopped hsession)
      | prepare hlines hhandshake hsession => exact hwas.of_lines hlines (hstopped hsession)
      | abandon hlines hhandshake hsession => exact hwas.of_lines hlines (hstopped hsession)
      | start hlines hhandshake hsession hstage | collect hlines hhandshake hsession hstage =>
        rw [hstage] at hbefore
        cases hbefore
    · rw [tick_init config port pin1 hon hinit]
      exact Bare.of_release rfl fun _ hmem => not_inUse_of_mem_stop hmem

theorem pin2_tick : (state.tick config port pin1).lines.drive.get .pin2 =
    state.lines.drive.get .pin2 := by
  have hrelease : state.lines.release.drive.get .pin2 = state.lines.drive.get .pin2 := by
    unfold InputLines.release
    simp only [InputLines.drive_driveTo]
    rfl
  cases move_tick config port pin1 state with
  | look hlines | prepare hlines | start hlines | collect hlines | abandon hlines => rw [hlines]
  | release hlines | restart hlines => rw [hlines, hrelease]

/-! ## Vacant ports -/

variable (pin1) in
/-- Nothing is plugged into a port: pin 1 is pulled up all the way, and the far side of the lines shows
the levels of an empty port. -/
def Vacant (state : PortState) : Prop :=
  pin1 = fullScale ∧ state.lines.level = InputLines.emptyLevel

instance (pin1 : UInt16) (state : PortState) : Decidable (state.Vacant pin1) :=
  inferInstanceAs (Decidable (_ ∧ _))

/-- What a vacant port shows on the pins that the brick does not drive. -/
theorem sees_of_vacant (hvacant : state.Vacant pin1) {role : InputRole}
    (hfloat : state.lines.drive.get role = .float) :
    state.sees role = InputLines.emptyLevel.get role := by
  show (state.lines.drive.get role).resolve (state.lines.level.get role) = _
  rw [hfloat, hvacant.2]
  rfl

/-- A vacant port looks as if its device were gone, whatever the device was. -/
theorem released_of_vacant (h : Sound config state) (hsettled : state.stage.settled = true)
    (hvacant : state.Vacant pin1) : state.released config pin1 = true := by
  unfold released
  cases hstage : state.stage with
  | connectedWaitingForPin2High =>
    dsimp only
    rw [sees_of_vacant hvacant h.pin2]
    exact Bool.or_true _
  | connectedWaitingForPin1ToFloat =>
    rw [hvacant.1]
    exact decide_eq_true (show countsOfMillivolts Threshold.in1Near5V < fullScale by decide)
  | connectedWaitingForPin6Low =>
    dsimp only
    rw [sees_of_vacant hvacant (h.bare (by rw [hstage]; rfl)).pin6]
    rfl
  | connectedWaitingForPin5High =>
    dsimp only
    rw [sees_of_vacant hvacant (h.bare (by rw [hstage]; rfl)).pin5]
    rfl
  | _ =>
    rw [hstage] at hsettled
    cases hsettled

/-- A vacant port that is watched for a plug shows no conditions. -/
theorem conditionsNow_of_vacant (h : Sound config state) (hstage : state.stage = .floating)
    (hvacant : state.Vacant pin1) : (state.conditionsNow config pin1).isEmpty = true := by
  have hbare := h.bare (by rw [hstage]; rfl)
  unfold PortState.conditionsNow InputScene.conditionsNow
  rw [show state.scene.sees .pin2 = _ from sees_of_vacant hvacant h.pin2,
    show state.scene.sees .pin5 = _ from sees_of_vacant hvacant hbare.pin5,
    show state.scene.sees .pin6 = _ from sees_of_vacant hvacant hbare.pin6, hvacant.1]
  cases config.pin2Detection <;> decide

/-! ## Ticks on the way back -/

variable (config) in
/-- The most ticks that a port needs to get back to the watch for the next plug once it is
unplugged. -/
def ticksLeft (state : PortState) : Nat :=
  config.inputTicksLeft state.stage state.watch.timer.toNat

variable (config pin1) in
/-- What a tick does to the timer and to the ticks that are left: the timer keeps to the stage, and a
port that is vacant and has its command taken over gets nearer to the watch for the next plug. -/
def Nearer (state after : PortState) : Prop :=
  after.watch.timer.toNat < config.inputDwell after.stage ∧
    (state.Vacant pin1 → state.handshake.settled = true →
      after.ticksLeft config ≤ state.ticksLeft config - 1)

/-- A tick to a stage with the timer at a value. -/
theorem Nearer.of_eq {after : PortState} (stage : Stage) (timer : UInt16)
    (hstage : after.stage = stage) (htimer : after.watch.timer = timer)
    (htimely : timer.toNat < config.inputDwell stage)
    (hleft : state.Vacant pin1 → state.handshake.settled = true →
      config.inputTicksLeft stage timer.toNat ≤ state.ticksLeft config - 1) :
    Nearer config pin1 state after := by
  subst hstage htimer
  exact ⟨htimely, hleft⟩

/-- A tick to a stage with the timer at zero. -/
theorem Nearer.of_zero {after : PortState} (stage : Stage) (hstage : after.stage = stage)
    (htimer : after.watch.timer = 0)
    (hleft : config.inputTicksLeft stage 0 ≤ state.ticksLeft config - 1) :
    Nearer config pin1 state after :=
  .of_eq stage 0 hstage htimer (config.inputDwell_pos stage) fun _ _ => hleft

/-- A device that is found is waited for to go. -/
theorem Nearer.of_found {after : PortState} (stage : Stage) (hstage : after.stage = stage)
    (hsettled : stage.settled = true) (htimer : after.watch.timer = 0)
    (hleft : config.releaseTicksLeft + 1 ≤ state.ticksLeft config) :
    Nearer config pin1 state after := by
  refine .of_zero stage hstage htimer ?_
  have hrelease := @DetectionConfig.inputTicksLeft_le_of_settled config stage hsettled 0
  omega

theorem ticksLeft_of_stage {stage : Stage} (hstage : state.stage = stage) :
    state.ticksLeft config = config.inputTicksLeft stage state.watch.timer.toNat := by
  rw [ticksLeft, hstage]

/-- A port on which something is to be identified has the ticks of a release left, and more. -/
theorem releaseTicksLeft_lt_of_probing (hprobing : state.stage.probing = true) :
    config.releaseTicksLeft + 1 ≤ state.ticksLeft config := by
  rw [ticksLeft, (DetectionConfig.inputTicksLeft_of_probing hprobing _).2]
  omega

section Stages

variable (hon : state.enabled = true)
include hon

theorem nearer_init (hstage : state.stage = .init) :
    Nearer config pin1 state (state.tick config port pin1) := by
  rw [tick_init config port pin1 hon hstage]
  refine .of_zero .floatingDelay rfl rfl ?_
  rw [ticksLeft_of_stage hstage]
  simp [DetectionConfig.inputTicksLeft]

theorem nearer_floatingDelay (htimely : state.watch.timer.toNat < span config.floatTicks)
    (hstage : state.stage = .floatingDelay) :
    Nearer config pin1 state (state.tick config port pin1) := by
  rw [tick_floatingDelay config port pin1 hon hstage]
  rcases span_cases htimely with ⟨hover, -⟩ | ⟨hrest, hnext, hlt⟩
  · rw [if_pos hover]
    exact .of_zero .floating rfl rfl (Nat.zero_le _)
  · rw [if_neg hrest]
    refine .of_eq .floatingDelay (state.watch.timer + 1) rfl rfl (hnext ▸ hlt) fun _ _ => ?_
    rw [ticksLeft_of_stage hstage]
    simp only [DetectionConfig.inputTicksLeft, hnext]
    omega

/-- A vacant port stays watched. -/
theorem nearer_floating (h : Sound config state) (hstage : state.stage = .floating) :
    Nearer config pin1 state (state.tick config port pin1) := by
  rw [tick_floating config port pin1 hon hstage]
  dsimp only
  split
  · exact .of_eq .floating _ hstage rfl (UInt16.toNat_lt _) fun _ _ => Nat.zero_le _
  · rename_i hseen
    refine .of_eq (if _ then .connection else .floating) _ rfl rfl ?_ fun hvacant _ => ?_
    · split <;> exact UInt16.toNat_lt _
    · exact absurd (conditionsNow_of_vacant h hstage hvacant) hseen

theorem nearer_connection (hstage : state.stage = .connection) :
    Nearer config pin1 state (state.tick config port pin1) := by
  rw [tick_connection config port pin1 hon hstage]
  have hnext := InputScene.stageOf_cases state.watch.conditions
  have htimer := state.watch.timer.toNat_lt
  refine .of_eq (InputScene.stageOf state.watch.conditions) state.watch.timer rfl rfl ?_
    fun _ _ => ?_ <;> rcases hnext with hnext | hnext
  · rw [(DetectionConfig.inputTicksLeft_of_probing hnext 0).1]
    exact htimer
  · rw [hnext]
    exact htimer
  · rw [(DetectionConfig.inputTicksLeft_of_probing hnext _).2, ticksLeft_of_stage hstage]
    simp only [DetectionConfig.inputTicksLeft]
    omega
  · rw [hnext, ticksLeft_of_stage hstage]
    simp only [DetectionConfig.inputTicksLeft, DetectionConfig.releaseTicksLeft]
    omega

theorem nearer_pin2Low (hstage : state.stage = .pin2Low) :
    Nearer config pin1 state (state.tick config port pin1) := by
  have hprobing : state.stage.probing = true := by rw [hstage]; rfl
  obtain ⟨rule, hmem, hrule⟩ := exists_legacyRule ⟨state.watch.conditions, pin1⟩
  rw [tick_pin2Low config port pin1 hon hstage hrule]
  rcases legacyRules_decide hmem state.session.isSome with ⟨hnext | hnext, -⟩ | ⟨hnext, -⟩
  · exact .of_found _ rfl hnext rfl (releaseTicksLeft_lt_of_probing hprobing)
  · refine .of_zero .nxtColorInit hnext rfl ?_
    have htouch := span_pos config.touchTicks
    rw [ticksLeft_of_stage hstage]
    simp only [DetectionConfig.inputTicksLeft]
    omega
  · refine .of_zero .nxtTouchCheck hnext rfl ?_
    rw [ticksLeft_of_stage hstage]
    simp only [DetectionConfig.inputTicksLeft]
    omega

theorem nearer_pin1Loaded (hstage : state.stage = .pin1Loaded) :
    Nearer config pin1 state (state.tick config port pin1) := by
  obtain ⟨rule, -, hrule⟩ := exists_loadedRule ⟨pin1⟩
  rw [tick_pin1Loaded config port pin1 hon hstage hrule]
  exact .of_found _ rfl rfl rfl (releaseTicksLeft_lt_of_probing (by rw [hstage]; rfl))

theorem nearer_nxtTouchCheck (htimely : state.watch.timer.toNat < span config.touchTicks)
    (hstage : state.stage = .nxtTouchCheck) :
    Nearer config pin1 state (state.tick config port pin1) := by
  rw [tick_nxtTouchCheck config port pin1 hon hstage]
  rcases span_cases htimely with ⟨hover, -⟩ | ⟨hrest, hnext, hlt⟩
  · rw [if_pos hover]
    refine .of_found .connectedWaitingForPin2High rfl rfl rfl ?_
    rw [ticksLeft_of_stage hstage]
    simp only [DetectionConfig.inputTicksLeft]
    omega
  · rw [if_neg hrest]
    refine .of_eq .nxtTouchCheck (state.watch.timer + 1) rfl rfl (hnext ▸ hlt) fun _ _ => ?_
    rw [ticksLeft_of_stage hstage]
    simp only [DetectionConfig.inputTicksLeft, hnext]
    omega

theorem nearer_pin6High (hstage : state.stage = .pin6High) :
    Nearer config pin1 state (state.tick config port pin1) := by
  rw [tick_pin6High config port pin1 hon hstage]
  exact .of_found .connectedWaitingForPin6Low rfl rfl rfl
    (releaseTicksLeft_lt_of_probing (by rw [hstage]; rfl))

theorem nearer_pin5Low (hstage : state.stage = .pin5Low) :
    Nearer config pin1 state (state.tick config port pin1) := by
  rw [tick_pin5Low config port pin1 hon hstage]
  exact .of_found .connectedWaitingForPin5High rfl rfl rfl
    (releaseTicksLeft_lt_of_probing (by rw [hstage]; rfl))

theorem nearer_settled (h : Sound config state) (hsettled : state.stage.settled = true) :
    Nearer config pin1 state (state.tick config port pin1) := by
  have hleft := @DetectionConfig.inputTicksLeft_of_settled config state.stage hsettled
  rw [tick_settled config port pin1 hon hsettled]
  split
  · -- a timer that has not run out does not wrap around
    have htimer := h.timely
    rw [(hleft 0).1] at htimer
    have hnext := toNat_add_one htimer
    split
    · refine .of_eq .init (state.watch.timer + 1) rfl rfl (UInt16.toNat_lt _) fun _ _ => ?_
      rw [ticksLeft, (hleft _).2]
      simp only [DetectionConfig.inputTicksLeft]
      omega
    · rename_i hrest
      rw [UInt16.le_iff_toNat_le, hnext] at hrest
      have hlimit := config.releaseTicks.toNat_lt
      refine .of_eq state.stage (state.watch.timer + 1) rfl rfl ?_ fun _ _ => ?_
      · rw [(hleft 0).1, hnext]
        omega
      · rw [ticksLeft, (hleft _).2, (hleft _).2, hnext, span]
        omega
  · rename_i hstays
    refine .of_eq state.stage 0 rfl rfl (config.inputDwell_pos _) fun hvacant _ => ?_
    exact absurd (released_of_vacant h hsettled hvacant) hstays

theorem nearer_nxtColorInit (hstage : state.stage = .nxtColorInit) :
    Nearer config pin1 state (state.tick config port pin1) := by
  rw [tick_nxtColorInit config port pin1 hon hstage]
  cases state.session.isSome with
  | true =>
    refine .of_zero .nxtColorWait rfl rfl ?_
    rw [ticksLeft_of_stage hstage]
    simp only [DetectionConfig.inputTicksLeft]
    omega
  | false =>
    refine .of_found .connectedWaitingForPin2High rfl rfl rfl ?_
    rw [ticksLeft_of_stage hstage]
    simp only [DetectionConfig.inputTicksLeft]
    omega

theorem nearer_nxtColorWait (htimely : state.watch.timer.toNat < 1)
    (hstage : state.stage = .nxtColorWait) :
    Nearer config pin1 state (state.tick config port pin1) := by
  have hzero : state.watch.timer = 0 := UInt16.toNat_inj.mp (Nat.lt_one_iff.mp htimely)
  have hmost := @ticksLeft_of_stage config state _ hstage
  simp only [DetectionConfig.inputTicksLeft] at hmost
  rw [tick_nxtColorWait config port pin1 hon hstage]
  split
  · exact .of_found .connectedWaitingForPin2High rfl rfl hzero (by omega)
  · split
    · refine .of_zero .nxtColorBusy rfl hzero ?_
      simp only [DetectionConfig.inputTicksLeft]
      omega
    · rename_i hstays
      exact .of_eq .nxtColorWait 0 hstage hzero Nat.one_pos fun _ hsettled => absurd hsettled hstays

theorem nearer_nxtColorBusy (hcolor : config.colorTimeoutTicks.toNat < 65535)
    (htimely : state.watch.timer.toNat < config.colorTimeoutTicks.toNat + 1)
    (hstage : state.stage = .nxtColorBusy) :
    Nearer config pin1 state (state.tick config port pin1) := by
  have hmost := @ticksLeft_of_stage config state _ hstage
  simp only [DetectionConfig.inputTicksLeft] at hmost
  have htimer : state.watch.timer.toNat < 65535 := by omega
  have hnext := toNat_add_one htimer
  rcases tick_nxtColorBusy config port pin1 hon hstage with
    ⟨hstays, -, htimer, hrest⟩ | ⟨hend, -, htimer⟩
  · rw [UInt16.lt_iff_toNat_lt, hnext] at hrest
    refine .of_eq .nxtColorBusy _ hstays htimer ?_ fun _ _ => ?_
    · simp only [DetectionConfig.inputDwell, hnext]
      omega
    · simp only [DetectionConfig.inputTicksLeft, hnext]
      omega
  · refine .of_eq .connectedWaitingForPin2High _ hend rfl ?_ fun _ _ => ?_
    · simp only [List.mem_cons, List.not_mem_nil, or_false] at htimer
      show _ < 65535
      rcases htimer with htimer | htimer | htimer <;> rw [htimer]
      · decide
      · decide
      · omega
    · have hrelease := @DetectionConfig.inputTicksLeft_le_of_settled config
        .connectedWaitingForPin2High rfl (state.tick config port pin1).watch.timer.toNat
      omega

theorem nearer_foreign (hstage : state.stage = .disabled ∨ state.stage.ofOutput = true) :
    Nearer config pin1 state (state.tick config port pin1) := by
  have hafter := tick_of_foreign config port pin1 hon hstage
  refine .of_eq .init _ hafter rfl (UInt16.toNat_lt _) fun _ _ => ?_
  have hmost : state.ticksLeft config = 2 + span config.floatTicks := by
    unfold ticksLeft
    cases hnow : state.stage with
    | disabled | waitingForPin5Low | waitingForPin6Low | connectedWaitingForPortOpen => rfl
    | _ =>
      rw [hnow] at hstage
      rcases hstage with hstage | hstage <;> cases hstage
  simp only [DetectionConfig.inputTicksLeft]
  omega

end Stages

/-- **A tick of a vacant port brings it nearer to the watch for the next plug**, and any tick leaves
the timer in step with the stage. -/
theorem nearer_tick (hcolor : config.colorTimeoutTicks.toNat < 65535) (hon : state.enabled = true)
    (h : Sound config state) : Nearer config pin1 state (state.tick config port pin1) := by
  have htimely := h.timely
  cases hstage : state.stage with
  | init => exact nearer_init hon hstage
  | floatingDelay => exact nearer_floatingDelay hon (by rwa [hstage] at htimely) hstage
  | floating => exact nearer_floating hon h hstage
  | connection => exact nearer_connection hon hstage
  | pin2Low => exact nearer_pin2Low hon hstage
  | nxtTouchCheck => exact nearer_nxtTouchCheck hon (by rwa [hstage] at htimely) hstage
  | nxtColorInit => exact nearer_nxtColorInit hon hstage
  | nxtColorWait => exact nearer_nxtColorWait hon (by rwa [hstage] at htimely) hstage
  | nxtColorBusy => exact nearer_nxtColorBusy hon hcolor (by rwa [hstage] at htimely) hstage
  | pin1Loaded => exact nearer_pin1Loaded hon hstage
  | pin6High => exact nearer_pin6High hon hstage
  | pin5Low => exact nearer_pin5Low hon hstage
  | connectedWaitingForPin2High | connectedWaitingForPin1ToFloat | connectedWaitingForPin6Low
  | connectedWaitingForPin5High => exact nearer_settled hon h (by rw [hstage]; rfl)
  | disabled => exact nearer_foreign hon (.inl hstage)
  | waitingForPin5Low | waitingForPin6Low | connectedWaitingForPortOpen =>
    exact nearer_foreign hon (.inr (by rw [hstage]; rfl))

/-- **No tick breaks the invariant.** -/
theorem sound_tick (hcolor : config.colorTimeoutTicks.toNat < 65535) (h : Sound config state) :
    Sound config (state.tick config port pin1) where
  consistent := consistent_tick config port pin1 h.consistent
  bare := bare_tick h.bare
  pin2 := pin2_tick.trans h.pin2
  timely := by
    cases hon : state.enabled with
    | true => exact (nearer_tick hcolor hon h).1
    | false =>
      rw [(tick_of_off config port pin1 hon).1]
      exact UInt16.toNat_lt _

/-! ## What else happens to a port -/

theorem sound_colorTick (delay : UInt16) (h : Sound config state) :
    Sound config (state.colorTick delay) := by
  have hwatch := (colorTick_frame delay state).2
  refine ⟨h.consistent.of_undisturbed (undisturbed_colorTick delay state), ?_, ?_, ?_⟩
  · -- a bare port has no session that could make a step
    intro hbare
    rw [stage, hwatch] at hbare
    have hunused := (h.bare hbare).unused
    rw [colorTick_eq_self delay fun session hmem hin => by simp [hunused session hmem] at hin]
    exact h.bare hbare
  · rw [drive_colorTick_ne delay state (by decide) (by decide), h.pin2]
  · rw [stage, hwatch]
    exact h.timely

/-- What changes nothing of a port but what the far side, the sampler and the switch of detection have
a hold of keeps the invariant. -/
theorem Sound.of_frame {after : PortState} (h : Sound config state)
    (hstage : after.stage = state.stage) (hconnected : after.connected = state.connected)
    (htimer : after.watch.timer = state.watch.timer) (hverdict : after.verdict = state.verdict)
    (hactive : after.handshake.active = state.handshake.active)
    (hdrive : after.lines.drive = state.lines.drive) (hsession : after.session = state.session) :
    Sound config after := by
  refine ⟨⟨?_, ?_, ?_, ?_, ?_⟩, ?_, ?_, ?_⟩
  · rw [hstage, hconnected]
    exact h.consistent.unconnected
  · rw [hstage, hverdict]
    exact h.consistent.unpublished
  · rw [hstage, hactive]
    exact h.consistent.inactive
  · rw [hstage, hsession]
    exact h.consistent.unused
  · rw [hstage, hconnected]
    exact h.consistent.engaged
  · intro hbare
    rw [hstage] at hbare
    obtain ⟨hpin5, hpin6, hunused⟩ := h.bare hbare
    exact ⟨hdrive ▸ hpin5, hdrive ▸ hpin6, hsession ▸ hunused⟩
  · rw [hdrive, h.pin2]
  · rw [hstage, htimer]
    exact h.timely

/-- Switching test mode starts the port over, so the invariant says nothing new. -/
theorem sound_reset (h : Sound config state) :
    Sound config { state with watch := state.watch.reset } where
  consistent := .of_free rfl rfl
  bare := nofun
  pin2 := h.pin2
  timely := config.inputDwell_pos _

/-- Nothing that is done to a port breaks the invariant, but for driving its pins. -/
theorem sound_onPort (h : Sound config state) {act : InputAct}
    (hdrive : ∀ role drive, act ≠ .drive role drive) : Sound config (act.onPort state) := by
  cases act with
  | latch | setLatched command | enable on | plug level sensor =>
    exact h.of_frame rfl rfl rfl rfl rfl rfl rfl
  | force classification =>
    unfold InputAct.onPort
    dsimp only
    split
    · -- a port that is taken to be connected is not in front of the detection
      rename_i hmay
      obtain ⟨-, hconnected⟩ := Bool.and_eq_true_iff.mp hmay
      refine ⟨.of_connected ?_ hconnected, ?_, h.pin2, h.timely⟩
      · cases hundetected : state.stage.undetected with
        | false => exact hundetected
        | true =>
          have hnot : state.watch.connected = false := h.consistent.unconnected hundetected
          rw [hnot] at hconnected
          cases hconnected
      · intro hbare
        exact (h.bare hbare).of_lines rfl (h.bare hbare).unused
    · exact h
  | request command =>
    unfold InputAct.onPort
    dsimp only
    split
    · rename_i hconnected
      exact ⟨.of_connected rfl hconnected, nofun, h.pin2, config.inputDwell_pos _⟩
    · exact h
  | drive role drive => exact absurd rfl (hdrive role drive)

end PortState

end PlugWatch
