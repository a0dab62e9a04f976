import PlugWatch.Proofs.Detection.InputTick
import PlugWatch.Proofs.Detection.Independence
/-!
# The verdict on a steady stimulus

While what is plugged into an input port does not change, the watch goes through its stages one after
the other, and the conditions that led it to a verdict never look like a release. So the verdict is a
function of the stimulus, it is there after a number of ticks that the delays say, and it stays.

## Main Definitions

* `steadyVerdict` : the verdict on a stimulus, as a table.
* `steadyTicks` : the number of ticks after which it is there.
* `PortState.Course` : a port on its way to the verdict, with the number of ticks that are left.

## Main Statements

* `PortState.course_tick` : a tick brings the port one tick closer, or leaves it at its verdict.
* `Detector.steady_stimulus_verdict` : a steady stimulus leads to its verdict and keeps it.

## Design Notes

The course does not ask for a detector without colour link: it is enough that none of its stages starts
a session, and only a port whose pin 2 is sensed gets to one that would.
-/

namespace PlugWatch

/-! ## The verdict as a table -/

/-- Whether pin 2 can be read and the device pulls it low. -/
def pin2Pulled (config : DetectionConfig) (level : InputPins Bool) : Bool :=
  config.pin2Detection && !level.pin2

/-- Whether a device that pulls pin 2 low looks like a pressed touch sensor. -/
def looksTouched (pin1 : UInt16) (level : InputPins Bool) : Bool :=
  level.pin5 && !level.pin6 && countsOfMillivolts 850 < pin1 && pin1 < countsOfMillivolts 950

/-- The verdict on an input port with a count on pin 1 and levels of its other pins that do not change,
if there is no colour link. -/
def steadyVerdict (config : DetectionConfig) (pin1 : UInt16) (level : InputPins Bool) :
    Classification :=
  if pin2Pulled config level then
    match level.pin5, level.pin6 with
    | true, true =>
      if pin1 < countsOfMillivolts 100 then ⟨.nxtColor, .nxtDumb⟩ else ⟨.nxtIic, .nxtIic⟩
    | false, true => ⟨.nxtTest, .nxtDumb⟩
    | false, false => ⟨.nxtLight, .nxtDumb⟩
    | true, false =>
      if pin1 < countsOfMillivolts 100 then ⟨.nxtColor, .nxtDumb⟩
      else if countsOfMillivolts 4800 < pin1 then ⟨.nxtTouch, .nxtDumb⟩
      else if countsOfMillivolts 850 < pin1 && pin1 < countsOfMillivolts 950 then
        ⟨.nxtTouch, .nxtDumb⟩
      else ⟨.nxtSound, .nxtDumb⟩
  else if pin1 < countsOfMillivolts 4800 then
    if countsOfMillivolts 3100 < pin1 then .error
    else if pin1 < countsOfMillivolts 100 then ⟨.unknown, .inputUart⟩
    else ⟨.unknown, .inputDumb⟩
  else if level.pin6 then ⟨.nxtIic, .nxtIic⟩
  else if !level.pin5 then .error
  else .none

/-- The ticks that the confirmation of a touch sensor takes, where there is one. -/
def touchSpan (config : DetectionConfig) (pin1 : UInt16) (level : InputPins Bool) : Nat :=
  if pin2Pulled config level && looksTouched pin1 level then span config.touchTicks else 0

/-- The number of ticks after which the verdict is there, counted from the first stage. -/
def steadyTicks (config : DetectionConfig) (pin1 : UInt16) (level : InputPins Bool) : Nat :=
  3 + span config.floatTicks + span config.connectTicks + touchSpan config pin1 level

/-- The conditions that a released port shows. -/
def steadyConditions (config : DetectionConfig) (pin1 : UInt16) (level : InputPins Bool) :
    Conditions where
  pin2Low := pin2Pulled config level
  loaded := pin1 < countsOfMillivolts 4800
  pin5Low := !level.pin5
  pin6High := level.pin6

/-! ## What the tables decide -/

/-- What a rule for devices that load pin 1 says of a steady stimulus. -/
theorem loadedRules_steady {config : DetectionConfig} {pin1 : UInt16} {level : InputPins Bool}
    {rule : Rule LoadedProbe Classification} (hrule : firstMatch loadedRules ⟨pin1⟩ = some rule)
    (hpin2 : pin2Pulled config level = false) (hloaded : pin1 < countsOfMillivolts 4800) :
    rule.verdict = steadyVerdict config pin1 level := by
  rw [steadyVerdict, if_neg (by simp [hpin2]), if_pos hloaded]
  simp only [loadedRules, firstMatch_cons, decide_eq_true_eq, if_true] at hrule
  split at hrule
  · rename_i hsupply
    cases hrule
    exact (if_pos hsupply).symm
  · rename_i hsupply
    rw [if_neg (show ¬countsOfMillivolts 3100 < pin1 from hsupply)]
    split at hrule
    · rename_i hground
      cases hrule
      exact (if_pos hground).symm
    · rename_i hground
      cases hrule
      exact (if_neg hground).symm

/-- A count in the touch window is neither grounded nor unloaded. -/
theorem not_extreme_of_window {pin1 : UInt16} (hlow : countsOfMillivolts 850 < pin1)
    (hhigh : pin1 < countsOfMillivolts 950) :
    ¬pin1 < countsOfMillivolts 100 ∧ ¬countsOfMillivolts 4800 < pin1 := by
  have h100 : countsOfMillivolts 100 ≤ countsOfMillivolts 850 := by decide
  have h950 : countsOfMillivolts 950 ≤ countsOfMillivolts 4800 := by decide
  simp only [UInt16.lt_iff_toNat_lt, UInt16.le_iff_toNat_le] at *
  omega

/-- What a rule for legacy sensors says of a steady stimulus: the verdict, or that a pressed touch
sensor is to be confirmed. -/
theorem legacyRules_steady {config : DetectionConfig} {pin1 : UInt16} {level : InputPins Bool}
    {rule : Rule LegacyProbe LegacyVerdict}
    (hrule : firstMatch legacyRules ⟨steadyConditions config pin1 level, pin1⟩ = some rule)
    (hpin2 : pin2Pulled config level = true) :
    InputScene.withoutLink false rule.verdict =
      if looksTouched pin1 level then ⟨none, .nxtTouchCheck⟩
      else ⟨some (steadyVerdict config pin1 level), .connectedWaitingForPin2High⟩ := by
  rw [steadyVerdict, if_pos hpin2, looksTouched]
  -- the levels of pins 5 and 6 leave a few rows of the table
  cases h5 : level.pin5 <;> cases h6 : level.pin6 <;>
    simp only [legacyRules, firstMatch_cons, steadyConditions, h5, h6, LegacyProbe.grounded,
      LegacyProbe.unloaded, LegacyProbe.inTouchWindow, Bool.not_true, Bool.not_false,
      Bool.true_and, Bool.false_and, Bool.and_false, Bool.and_true, Bool.false_eq_true, if_true,
      if_false, decide_eq_true_eq, Bool.and_eq_true] at hrule ⊢
  case false.false => cases hrule; rfl
  case false.true => cases hrule; rfl
  case true.true =>
    split at hrule
    · rename_i hground
      cases hrule
      rw [if_pos (show pin1 < countsOfMillivolts 100 from hground)]
      rfl
    · rename_i hground
      cases hrule
      rw [if_neg (show ¬pin1 < countsOfMillivolts 100 from hground)]
      rfl
  case true.false =>
    by_cases hwindow : countsOfMillivolts 850 < pin1 ∧ pin1 < countsOfMillivolts 950
    · obtain ⟨hground, hopen⟩ := not_extreme_of_window hwindow.1 hwindow.2
      rw [if_neg (show ¬pin1 < countsOfMillivolts Threshold.in1NearGround from hground),
        if_neg (show ¬countsOfMillivolts Threshold.in1Near5V < pin1 from hopen),
        if_pos (show countsOfMillivolts Threshold.in1TouchLow < pin1 ∧
          pin1 < countsOfMillivolts Threshold.in1TouchHigh from hwindow)] at hrule
      cases hrule
      rw [if_pos hwindow]
      rfl
    · rw [if_neg hwindow, if_neg hwindow]
      split at hrule
      · rename_i hground
        cases hrule
        rw [if_pos (show pin1 < countsOfMillivolts 100 from hground)]
        rfl
      · rename_i hground
        rw [if_neg (show ¬pin1 < countsOfMillivolts 100 from hground)]
        split at hrule
        · rename_i hopen
          cases hrule
          rw [if_pos (show countsOfMillivolts 4800 < pin1 from hopen)]
          rfl
        · rename_i hopen
          rw [if_neg (show ¬(countsOfMillivolts Threshold.in1TouchLow < pin1 ∧
            pin1 < countsOfMillivolts Threshold.in1TouchHigh) from hwindow)] at hrule
          cases hrule
          rw [if_neg (show ¬countsOfMillivolts 4800 < pin1 from hopen)]
          rfl

/-! ## On the way to the verdict -/

namespace PortState

variable (config : DetectionConfig) (port : Port) (pin1 : UInt16) (level : InputPins Bool)

/-- A port with detection on at which the far side of the lines does not change. Its pin 2 is not
driven, and it has no session unless pin 2 cannot be read. -/
structure Held (state : PortState) : Prop where
  enabled : state.enabled = true
  level : state.lines.level = level
  pin2 : state.lines.drive.pin2 = .float
  session : state.session = none ∨ config.pin2Detection = false

/-- Such a port with its digital pins released as well. -/
structure Open (state : PortState) : Prop extends Held config level state where
  pin5 : state.lines.drive.pin5 = .float
  pin6 : state.lines.drive.pin6 = .float

variable {config port pin1 level} {state : PortState}

theorem Open.sees_pin2 (h : Open config level state) : state.sees .pin2 = level.pin2 := by
  show (state.lines.drive.pin2).resolve state.lines.level.pin2 = _
  rw [h.pin2, h.level]
  rfl

theorem Open.sees_pin5 (h : Open config level state) : state.sees .pin5 = level.pin5 := by
  show (state.lines.drive.pin5).resolve state.lines.level.pin5 = _
  rw [h.pin5, h.level]
  rfl

theorem Open.sees_pin6 (h : Open config level state) : state.sees .pin6 = level.pin6 := by
  show (state.lines.drive.pin6).resolve state.lines.level.pin6 = _
  rw [h.pin6, h.level]
  rfl

/-- An open port shows the conditions of its stimulus. -/
theorem Open.conditionsNow (h : Open config level state) :
    state.conditionsNow config pin1 = steadyConditions config pin1 level := by
  unfold PortState.conditionsNow InputScene.conditionsNow
  rw [show state.scene.sees .pin2 = _ from h.sees_pin2,
    show state.scene.sees .pin5 = _ from h.sees_pin5,
    show state.scene.sees .pin6 = _ from h.sees_pin6]
  rfl

/-- Nothing but the watch, the verdict and the log of an open port may change. -/
theorem Open.of_eq (h : Open config level state) {after : PortState}
    (henabled : after.enabled = state.enabled) (hlines : after.lines = state.lines)
    (hsession : after.session = state.session) : Open config level after := by
  refine ⟨⟨henabled.trans h.enabled, ?_, ?_, ?_⟩, ?_, ?_⟩
  · rw [hlines, h.level]
  · rw [hlines, h.pin2]
  · rw [hsession]
    exact h.session
  · rw [hlines, h.pin5]
  · rw [hlines, h.pin6]

/-- A port is open once it is released. -/
theorem Held.open_of_release (h : Held config level state) {after : PortState}
    (henabled : after.enabled = state.enabled) (hlines : after.lines = state.lines.release)
    (hsession : after.session = none ∨ config.pin2Detection = false) : Open config level after := by
  refine ⟨⟨henabled.trans h.enabled, ?_, ?_, hsession⟩, ?_, ?_⟩
  · rw [hlines]
    exact h.level
  · rw [hlines]
    exact h.pin2
  · rw [hlines]
    rfl
  · rw [hlines]
    rfl

variable (config pin1 level) in
/-- The ticks from the first look at the released port to the verdict. -/
def watchTicks : Nat :=
  if (steadyConditions config pin1 level).isEmpty then 0
  else span config.connectTicks + 2 + touchSpan config pin1 level

variable (config pin1 level) in
/-- A port on its way to the verdict, with the number of ticks that are left. -/
inductive Course (n : Nat) (state : PortState) : Prop where
  /-- Detection starts over. -/
  | start (h : Held config level state) (hstage : state.stage = .init)
      (hn : n = 1 + span config.floatTicks + watchTicks config pin1 level)
  /-- The released pins settle. -/
  | settle (h : Open config level state) (hstage : state.stage = .floatingDelay)
      (hverdict : state.verdict = .none) (htimer : state.watch.timer.toNat < span config.floatTicks)
      (hn : n + state.watch.timer.toNat = span config.floatTicks + watchTicks config pin1 level)
  /-- The count of the conditions has not begun. -/
  | watch (h : Open config level state) (hstage : state.stage = .floating)
      (hverdict : state.verdict = .none) (htimer : state.watch.timer = 0)
      (hn : n = watchTicks config pin1 level)
  /-- The conditions of the stimulus have been seen for some ticks. -/
  | hold (h : Open config level state) (hstage : state.stage = .floating)
      (hconditions : state.watch.conditions = steadyConditions config pin1 level)
      (hsome : (steadyConditions config pin1 level).isEmpty = false)
      (htimer : state.watch.timer.toNat < span config.connectTicks)
      (hn : n + state.watch.timer.toNat =
        span config.connectTicks + 2 + touchSpan config pin1 level)
  /-- They are about to be acted on. -/
  | act (h : Open config level state) (hstage : state.stage = .connection)
      (hconditions : state.watch.conditions = steadyConditions config pin1 level)
      (hsome : (steadyConditions config pin1 level).isEmpty = false)
      (hn : n = 2 + touchSpan config pin1 level)
  /-- The device is about to be identified. -/
  | probe (h : Open config level state)
      (hstage : state.stage = InputScene.stageOf (steadyConditions config pin1 level))
      (hconditions : state.watch.conditions = steadyConditions config pin1 level)
      (hsome : (steadyConditions config pin1 level).isEmpty = false)
      (hn : n = 1 + touchSpan config pin1 level)
  /-- A pressed touch sensor is confirmed. -/
  | confirm (h : Open config level state) (hstage : state.stage = .nxtTouchCheck)
      (hlevel : state.watch.touchLevel = pin1) (hpin2 : pin2Pulled config level = true)
      (htouch : looksTouched pin1 level = true)
      (htimer : state.watch.timer.toNat < span config.touchTicks)
      (hn : n + state.watch.timer.toNat = span config.touchTicks)
  /-- The verdict is there, and the stimulus does not look like a release. -/
  | stay (h : Open config level state) (hstage : state.stage.settled = true)
      (hreleased : state.released config pin1 = false)
      (hverdict : state.verdict = steadyVerdict config pin1 level) (hn : n = 0)

/-- A stimulus without conditions has no verdict. -/
theorem steadyVerdict_of_isEmpty (h : (steadyConditions config pin1 level).isEmpty = true) :
    steadyVerdict config pin1 level = .none := by
  have hnone : steadyConditions config pin1 level = .none := of_decide_eq_true h
  have hpin2 : pin2Pulled config level = false := congrArg Conditions.pin2Low hnone
  have hloaded : decide (pin1 < countsOfMillivolts 4800) = false := congrArg Conditions.loaded hnone
  have hpin5 : (!level.pin5) = false := congrArg Conditions.pin5Low hnone
  have hpin6 : level.pin6 = false := congrArg Conditions.pin6High hnone
  rw [steadyVerdict, if_neg (by simp [hpin2]), if_neg (of_decide_eq_false hloaded), if_neg (by simp [hpin6]),
    if_neg (by simp [hpin5])]

/-- At the end of the course stands the verdict. -/
theorem Course.verdict (h : Course config pin1 level 0 state) :
    state.verdict = steadyVerdict config pin1 level := by
  have hfloat := span_pos config.floatTicks
  cases h with
  | start h hstage hn => omega
  | settle h hstage hverdict htimer hn => omega
  | watch h hstage hverdict htimer hn =>
    rw [hverdict]
    unfold watchTicks at hn
    split at hn
    · rename_i hempty
      exact (steadyVerdict_of_isEmpty hempty).symm
    · omega
  | hold h hstage hconditions hsome htimer hn => omega
  | act h hstage hconditions hsome hn => omega
  | probe h hstage hconditions hsome hn => omega
  | confirm h hstage hlevel hpin2 htouch htimer hn => omega
  | stay h hstage hreleased hverdict hn => exact hverdict

/-! ### One tick on the way -/

variable {n : Nat}

theorem course_start (h : Held config level state) (hstage : state.stage = .init)
    (hn : n = 1 + span config.floatTicks + watchTicks config pin1 level) :
    Course config pin1 level (n - 1) (state.tick config port pin1) := by
  have hspan := span_pos config.floatTicks
  have hsession : state.session.map Session.stop = none ∨ config.pin2Detection = false := by
    refine h.session.imp_left fun hnone => ?_
    rw [hnone]
    rfl
  rw [tick_init config port pin1 h.enabled hstage]
  refine .settle (h.open_of_release rfl rfl hsession) rfl rfl hspan ?_
  show n - 1 + 0 = _
  omega

theorem course_settle (h : Open config level state) (hstage : state.stage = .floatingDelay)
    (hverdict : state.verdict = .none) (htimer : state.watch.timer.toNat < span config.floatTicks)
    (hn : n + state.watch.timer.toNat = span config.floatTicks + watchTicks config pin1 level) :
    Course config pin1 level (n - 1) (state.tick config port pin1) := by
  rw [tick_floatingDelay config port pin1 h.enabled hstage]
  rcases span_cases htimer with ⟨hover, hlast⟩ | ⟨hrest, hnext, hlt⟩
  · rw [if_pos hover]
    exact .watch (h.of_eq rfl rfl rfl) rfl hverdict rfl (by omega)
  · rw [if_neg hrest]
    refine .settle (h.of_eq rfl rfl rfl) rfl hverdict ?_ ?_
    · show (state.watch.timer + 1).toNat < _
      omega
    · show n - 1 + (state.watch.timer + 1).toNat = _
      omega

/-- A tick in which the conditions have been seen for a number of ticks that is not the last. -/
theorem course_seen (h : Open config level state) (hstage : state.stage = .floating)
    (hsome : (steadyConditions config pin1 level).isEmpty = false)
    (htimer : (state.see (steadyConditions config pin1 level)).watch.timer.toNat <
      span config.connectTicks)
    (hn : n + (state.see (steadyConditions config pin1 level)).watch.timer.toNat =
      span config.connectTicks + 2 + touchSpan config pin1 level) :
    Course config pin1 level (n - 1) (state.tick config port pin1) := by
  rw [tick_floating config port pin1 h.enabled hstage, h.conditionsNow]
  dsimp only
  rw [if_neg (by simp [hsome])]
  rcases span_cases htimer with ⟨hover, hlast⟩ | ⟨hrest, hnext, hlt⟩
  · rw [if_pos hover]
    exact .act (h.of_eq rfl rfl rfl) rfl rfl hsome (by omega)
  · rw [if_neg hrest]
    refine .hold (h.of_eq rfl rfl rfl) rfl rfl hsome ?_ ?_
    · show ((state.see (steadyConditions config pin1 level)).watch.timer + 1).toNat < _
      omega
    · show n - 1 + ((state.see (steadyConditions config pin1 level)).watch.timer + 1).toNat = _
      omega

theorem course_watch (h : Open config level state) (hstage : state.stage = .floating)
    (hverdict : state.verdict = .none)
    (htimer : state.watch.timer = 0) (hn : n = watchTicks config pin1 level) :
    Course config pin1 level (n - 1) (state.tick config port pin1) := by
  have hspan := span_pos config.connectTicks
  have hsee : (state.see (steadyConditions config pin1 level)).watch.timer = 0 := by
    show (if _ then state.watch.timer else 0) = 0
    rw [htimer, ite_self]
  cases hempty : (steadyConditions config pin1 level).isEmpty with
  | true =>
    rw [watchTicks, if_pos hempty] at hn
    rw [tick_floating config port pin1 h.enabled hstage, h.conditionsNow]
    dsimp only
    rw [if_pos hempty]
    refine .watch (h.of_eq rfl rfl rfl) hstage hverdict hsee ?_
    rw [watchTicks, if_pos hempty, hn]
  | false =>
    rw [watchTicks, if_neg (by simp [hempty])] at hn
    refine course_seen h hstage hempty ?_ ?_ <;> rw [hsee]
    · exact hspan
    · exact hn

theorem course_hold (h : Open config level state) (hstage : state.stage = .floating)
    (hconditions : state.watch.conditions = steadyConditions config pin1 level)
    (hsome : (steadyConditions config pin1 level).isEmpty = false)
    (htimer : state.watch.timer.toNat < span config.connectTicks)
    (hn : n + state.watch.timer.toNat =
      span config.connectTicks + 2 + touchSpan config pin1 level) :
    Course config pin1 level (n - 1) (state.tick config port pin1) := by
  have hsee : (state.see (steadyConditions config pin1 level)).watch.timer = state.watch.timer :=
    if_pos hconditions.symm
  refine course_seen h hstage hsome ?_ ?_ <;> rw [hsee]
  · exact htimer
  · exact hn

/-- A device that pulls pin 2 low does not look like it is gone. -/
theorem Open.not_released_of_pin2Pulled (h : Open config level state)
    (hstage : state.stage = .connectedWaitingForPin2High) (hpin2 : pin2Pulled config level = true) :
    state.released config pin1 = false := by
  obtain ⟨hdetection, hlow⟩ := Bool.and_eq_true_iff.mp hpin2
  rw [released, hstage]
  show (!config.pin2Detection || state.sees .pin2) = false
  rw [hdetection, h.sees_pin2]
  simpa using hlow

/-- A port whose pin 2 is pulled low is identified, or goes on to the confirmation of a touch
sensor. -/
theorem course_pin2Low (h : Open config level state) (hstage : state.stage = .pin2Low)
    (hconditions : state.watch.conditions = steadyConditions config pin1 level)
    (hpin2 : pin2Pulled config level = true) (hn : n = 1 + touchSpan config pin1 level) :
    Course config pin1 level (n - 1) (state.tick config port pin1) := by
  have hdetection := (Bool.and_eq_true_iff.mp hpin2).1
  have hsession : state.session = none := h.session.resolve_right (by simp [hdetection])
  obtain ⟨rule, -, hrule⟩ := exists_legacyRule ⟨steadyConditions config pin1 level, pin1⟩
  have hverdict := legacyRules_steady hrule hpin2
  rw [tick_pin2Low config port pin1 h.enabled hstage (by rw [hconditions]; exact hrule), hsession]
  dsimp only [Option.isSome_none]
  have hopen : ∀ watch verdict, watch.enabled = state.watch.enabled → Open config level
      (remember ⟨watch, { state.socket with lines := state.lines.release, verdict := verdict },
        none⟩) :=
    fun _ _ henabled => h.toHeld.open_of_release henabled rfl (.inl rfl)
  cases htouch : looksTouched pin1 level with
  | true =>
    rw [htouch, if_pos rfl] at hverdict
    rw [touchSpan, hpin2, htouch] at hn
    rw [hverdict]
    refine .confirm (hopen _ _ rfl) rfl rfl hpin2 htouch (span_pos _) ?_
    show n - 1 + 0 = span config.touchTicks
    simp only [Bool.and_self, if_true] at hn
    omega
  | false =>
    rw [htouch, if_neg (by simp)] at hverdict
    rw [touchSpan, htouch, Bool.and_false] at hn
    rw [hverdict]
    have hstays := hopen
      { state.watch with
        connected := true, timer := 0, stage := .connectedWaitingForPin2High }
      (steadyVerdict config pin1 level) rfl
    exact .stay hstays rfl (hstays.not_released_of_pin2Pulled rfl hpin2) rfl (by simp at hn; omega)

/-- A port that something loads is identified by the load. -/
theorem course_pin1Loaded (h : Open config level state) (hstage : state.stage = .pin1Loaded)
    (hpin2 : pin2Pulled config level = false) (hloaded : pin1 < countsOfMillivolts 4800) :
    Course config pin1 level 0 (state.tick config port pin1) := by
  obtain ⟨rule, -, hrule⟩ := exists_loadedRule ⟨pin1⟩
  rw [tick_pin1Loaded config port pin1 h.enabled hstage hrule]
  refine .stay (h.of_eq rfl rfl rfl) rfl ?_ (loadedRules_steady hrule hpin2 hloaded) rfl
  exact decide_eq_false (UInt16.not_lt.mpr (UInt16.le_of_lt hloaded))

theorem course_pin6High (h : Open config level state) (hstage : state.stage = .pin6High)
    (hpin6 : level.pin6 = true)
    (hverdict : steadyVerdict config pin1 level = ⟨.nxtIic, .nxtIic⟩) :
    Course config pin1 level 0 (state.tick config port pin1) := by
  rw [tick_pin6High config port pin1 h.enabled hstage]
  have hstays : Open config level
      ((state.identify ⟨.nxtIic, .nxtIic⟩).arrive .connectedWaitingForPin6Low 0).remember :=
    h.of_eq rfl rfl rfl
  refine .stay hstays rfl ?_ hverdict.symm rfl
  show (!_) = false
  rw [hstays.sees_pin6, hpin6]
  rfl

theorem course_pin5Low (h : Open config level state) (hstage : state.stage = .pin5Low)
    (hpin5 : level.pin5 = false) (hverdict : steadyVerdict config pin1 level = .error) :
    Course config pin1 level 0 (state.tick config port pin1) := by
  rw [tick_pin5Low config port pin1 h.enabled hstage]
  have hstays : Open config level
      ((state.identify .error).arrive .connectedWaitingForPin5High 0).remember :=
    h.of_eq rfl rfl rfl
  refine .stay hstays rfl ?_ hverdict.symm rfl
  show PortState.sees _ .pin5 = false
  rw [hstays.sees_pin5, hpin5]

theorem stageOf_steadyConditions :
    InputScene.stageOf (steadyConditions config pin1 level) =
      if pin2Pulled config level then .pin2Low
      else if pin1 < countsOfMillivolts 4800 then .pin1Loaded
      else if level.pin6 then .pin6High
      else if !level.pin5 then .pin5Low
      else .init := by
  simp [InputScene.stageOf, steadyConditions]

/-- A port that is about to be identified is identified, or goes on to the confirmation of a touch
sensor. -/
theorem course_probe (h : Open config level state)
    (hstage : state.stage = InputScene.stageOf (steadyConditions config pin1 level))
    (hconditions : state.watch.conditions = steadyConditions config pin1 level)
    (hsome : (steadyConditions config pin1 level).isEmpty = false)
    (hn : n = 1 + touchSpan config pin1 level) :
    Course config pin1 level (n - 1) (state.tick config port pin1) := by
  rw [stageOf_steadyConditions] at hstage
  by_cases hpin2 : pin2Pulled config level = true
  · rw [if_pos hpin2] at hstage
    exact course_pin2Low h hstage hconditions hpin2 hn
  rw [if_neg hpin2] at hstage
  have hn' : n - 1 = 0 := by
    rw [touchSpan, Bool.eq_false_iff.mpr hpin2] at hn
    simp at hn
    omega
  rw [hn']
  by_cases hloaded : pin1 < countsOfMillivolts 4800
  · rw [if_pos hloaded] at hstage
    exact course_pin1Loaded h hstage (Bool.eq_false_iff.mpr hpin2) hloaded
  rw [if_neg hloaded] at hstage
  by_cases hpin6 : level.pin6 = true
  · rw [if_pos hpin6] at hstage
    refine course_pin6High h hstage hpin6 ?_
    rw [steadyVerdict, if_neg hpin2, if_neg hloaded, if_pos hpin6]
  rw [if_neg hpin6] at hstage
  by_cases hpin5 : (!level.pin5) = true
  · rw [if_pos hpin5] at hstage
    refine course_pin5Low h hstage (by simpa using hpin5) ?_
    rw [steadyVerdict, if_neg hpin2, if_neg hloaded, if_neg hpin6, if_pos hpin5]
  -- nothing has been seen at all
  simp [Conditions.isEmpty, steadyConditions, Conditions.none, hpin2, hloaded, hpin6, hpin5] at hsome

theorem touchOrSound_self (counts : UInt16) :
    InputScene.touchOrSound counts counts = ⟨.nxtTouch, .nxtDumb⟩ := by
  unfold InputScene.touchOrSound
  rw [show difference counts counts = 0 from Int.sub_self _, if_pos (by decide)]

/-- A device that looks like a pressed touch sensor is one. -/
theorem steadyVerdict_of_looksTouched (hpin2 : pin2Pulled config level = true)
    (htouch : looksTouched pin1 level = true) :
    steadyVerdict config pin1 level = ⟨.nxtTouch, .nxtDumb⟩ := by
  simp only [looksTouched, Bool.and_eq_true, Bool.not_eq_true', decide_eq_true_eq] at htouch
  obtain ⟨⟨⟨hpin5, hpin6⟩, hlow⟩, hhigh⟩ := htouch
  obtain ⟨hground, hopen⟩ := not_extreme_of_window hlow hhigh
  rw [steadyVerdict, if_pos hpin2, hpin5, hpin6]
  dsimp only
  rw [if_neg hground, if_neg hopen, if_pos (by simp [hlow, hhigh])]

theorem course_confirm (h : Open config level state) (hstage : state.stage = .nxtTouchCheck)
    (hlevel : state.watch.touchLevel = pin1) (hpin2 : pin2Pulled config level = true)
    (htouch : looksTouched pin1 level = true)
    (htimer : state.watch.timer.toNat < span config.touchTicks)
    (hn : n + state.watch.timer.toNat = span config.touchTicks) :
    Course config pin1 level (n - 1) (state.tick config port pin1) := by
  rw [tick_nxtTouchCheck config port pin1 h.enabled hstage]
  rcases span_cases htimer with ⟨hover, hlast⟩ | ⟨hrest, hnext, hlt⟩
  · rw [if_pos hover]
    have hstays : Open config level (remember
        { state.arrive .connectedWaitingForPin2High 0 with
          socket := { state.socket with
            verdict := InputScene.touchOrSound state.watch.touchLevel pin1 } }) :=
      h.of_eq rfl rfl rfl
    refine .stay hstays rfl (hstays.not_released_of_pin2Pulled rfl hpin2) ?_ (by omega)
    rw [steadyVerdict_of_looksTouched hpin2 htouch]
    show InputScene.touchOrSound state.watch.touchLevel pin1 = _
    rw [hlevel, touchOrSound_self]
  · rw [if_neg hrest]
    refine .confirm (h.of_eq rfl rfl rfl) rfl hlevel hpin2 htouch ?_ ?_
    · show (state.watch.timer + 1).toNat < _
      omega
    · show n - 1 + (state.watch.timer + 1).toNat = _
      omega

/-- A tick brings a port one tick closer to its verdict, or leaves it there. -/
theorem course_tick (h : Course config pin1 level n state) :
    Course config pin1 level (n - 1) (state.tick config port pin1) := by
  cases h with
  | start h hstage hn => exact course_start h hstage hn
  | settle h hstage hverdict htimer hn =>
    exact course_settle h hstage hverdict htimer hn
  | watch h hstage hverdict htimer hn =>
    exact course_watch h hstage hverdict htimer hn
  | hold h hstage hconditions hsome htimer hn =>
    exact course_hold h hstage hconditions hsome htimer hn
  | act h hstage hconditions hsome hn =>
    rw [tick_connection config port pin1 h.enabled hstage, hconditions]
    exact .probe (h.of_eq rfl rfl rfl) rfl hconditions hsome (by omega)
  | probe h hstage hconditions hsome hn => exact course_probe h hstage hconditions hsome hn
  | confirm h hstage hlevel hpin2 htouch htimer hn =>
    exact course_confirm h hstage hlevel hpin2 htouch htimer hn
  | stay h hstage hreleased hverdict hn =>
    rw [tick_settled config port pin1 h.enabled hstage, if_neg (by simp [hreleased])]
    exact .stay (h.of_eq rfl rfl rfl) hstage hreleased hverdict (by omega)

end PortState

/-! ## The detector -/

namespace Detector

/-- Ticks behind an open gate bring a port as many ticks closer to its verdict. -/
theorem course_ticks (port : Port) {level : InputPins Bool} (n : Nat) :
    ∀ {m : Nat} (view : InputView), view.startup = .running →
      PortState.Course view.config view.pin1 level m view.state →
      PortState.Course view.config view.pin1 level (m - n)
        ((List.replicate n Act.tick).foldl (InputView.act port) view).state := by
  induction n with
  | zero => exact fun _ _ h => h
  | succ n ih =>
    intro m view hrunning h
    have hact : view.act port .tick =
        { view with state := view.state.tick view.config port view.pin1 } := by
      unfold InputView.act
      dsimp only
      rw [if_pos hrunning, hrunning]
      rfl
    have hrest := ih (view.act port .tick) (by rw [hact, hrunning])
      (by rw [hact]; exact PortState.course_tick h)
    rw [List.replicate_succ, List.foldl_cons, Nat.add_comm n 1, ← Nat.sub_sub]
    rw [hact] at hrest ⊢
    exact hrest

/-- **A steady stimulus leads to its verdict and keeps it.** Take a detector without colour link whose
gate is open, and an input port of it whose detection is on and about to start. Let pin 1 have any count
and the far side of the lines any levels, and let pin 2 not be driven. In any run in which nothing but
ticks happens to the port, whatever happens to the others, the port has the verdict of its stimulus
after a number of ticks, and at every later tick: three, those of the float delay and of the connect
delay, at least one each, and those of the confirmation, if a touch sensor looks pressed. -/
theorem steady_stimulus_verdict {start : Detector} {port : Port} {pin1 : UInt16}
    {level : InputPins Bool} (hrunning : start.1.isRunning = true) (hlink : start.2.link = none)
    (henabled : (Manager.portState start port).enabled = true)
    (hstage : (Manager.portState start port).stage = .init)
    (hpin1 : start.2.board.samples.inPin1 port = pin1)
    (hlevel : (Manager.portState start port).lines.level = level)
    (hpin2 : (Manager.portState start port).lines.drive.pin2 = .float)
    {run : List Act} {n : Nat}
    (hrun : run.filter (Act.concernsInput port) = List.replicate n .tick)
    (hn : steadyTicks start.1.config pin1 level ≤ n) :
    (Manager.portState (start.acts run) port).verdict =
      steadyVerdict start.1.config pin1 level := by
  have hsession : (Manager.portState start port).session = none := by
    show ColorLink.session? start.2.link port = none
    rw [hlink]
    rfl
  have hstart : PortState.Course start.1.config pin1 level
      (1 + span start.1.config.floatTicks + PortState.watchTicks start.1.config pin1 level)
      (Manager.portState start port) :=
    .start ⟨henabled, hlevel, hpin2, .inl hsession⟩ hstage rfl
  have hend : PortState.Course start.1.config pin1 level
      (1 + span start.1.config.floatTicks + PortState.watchTicks start.1.config pin1 level - n)
      ((start.acts run).inputView port).state := by
    rw [inputView_acts, hrun]
    have hcourse := course_ticks port n (start.inputView port)
      (start.1.isRunning_iff.mp hrunning) (hpin1 ▸ hstart)
    rw [← hpin1]
    exact hcourse
  have hover : 1 + span start.1.config.floatTicks +
      PortState.watchTicks start.1.config pin1 level - n = 0 := by
    unfold steadyTicks at hn
    unfold PortState.watchTicks
    split <;> omega
  rw [hover] at hend
  exact hend.verdict

/-- A pressed touch sensor on the first input port is taken for one after six ticks, and still is after
ten, while something is plugged into the second one. -/
theorem steady_stimulus_verdict_pressed :
    let config : DetectionConfig :=
      { floatMs := 0, connectMs := 0, touchMs := 10, pin2Detection := true }
    let level : InputPins Bool := ⟨true, false, true, false, false⟩
    let board : Board := Board.setSample
      (Board.modifyInputLines {} .p1 fun lines => { lines with level := level }) 0 750
    let start : Detector :=
      ({ config := config, startup := .running }, { board := board, link := none })
    let run := Act.input .p2 (.plug level none) :: List.replicate 10 .tick
    steadyTicks config 750 level = 6 ∧ start.1.isRunning = true ∧ start.2.link = none ∧
      (Manager.portState start .p1).enabled = true ∧
      (Manager.portState start .p1).stage = .init ∧
      run.filter (Act.concernsInput .p1) = List.replicate 10 .tick ∧
      (Manager.portState (start.acts run) .p1).verdict = ⟨.nxtTouch, .nxtDumb⟩ := by
  intro config level board start run
  have hrun : run.filter (Act.concernsInput .p1) = List.replicate 10 .tick := by decide +kernel
  have hverdict : (Manager.portState (start.acts run) .p1).verdict =
      steadyVerdict config 750 level :=
    steady_stimulus_verdict rfl rfl rfl rfl (by decide +kernel) rfl rfl hrun (by decide +kernel)
  exact ⟨by decide +kernel, rfl, rfl, rfl, rfl, hrun, hverdict.trans (by decide +kernel)⟩

end Detector

end PlugWatch
