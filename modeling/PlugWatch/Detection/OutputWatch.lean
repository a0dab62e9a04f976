import PlugWatch.Board
import PlugWatch.Config
import PlugWatch.Detection.Rules
import PlugWatch.Notice
/-!
# Watching an output port

One tick of the watch of an output port. Pin 5 is measured twice before a device is identified,
and a third time with the pin driven when the first two do not tell.

## Main Definitions

* `OutputWatch` : the state of the watch.
* `OutputScene` : the watch together with all it may change.
* `OutputScene.tick` : one tick.
* `OutputScene.overflows` : whether the count of the watch has no room for the tick.
-/

namespace PlugWatch

/-- The watch of an output port. -/
structure OutputWatch where
  stage : Stage := .init
  /-- The stage at the end of the last tick. -/
  lastStage : Stage := .init
  /-- Whether a device is taken to be connected. -/
  connected : Bool := false
  timer : UInt16 := 0
  /-- The conditions last seen on the released port. -/
  conditions : Conditions := .none
  /-- Pin 5 with the port released, in millivolts. -/
  floatMv : UInt16 := 0
  /-- Pin 5 at its second or third measurement, in millivolts. -/
  lowMv : UInt16 := 0
  deriving DecidableEq, Repr, Inhabited

namespace OutputWatch

/-- Starts over at the first stage. -/
def reset (watch : OutputWatch) : OutputWatch :=
  { watch with stage := .init, timer := 0, conditions := .none }

end OutputWatch

/-- A watch together with all it may change in a tick. -/
structure OutputScene where
  watch : OutputWatch
  socket : OutputSocket
  journal : Journal

namespace OutputScene

/-! ## Small steps -/

/-- Goes on to a stage. -/
def goTo (scene : OutputScene) (stage : Stage) : OutputScene :=
  { scene with watch := { scene.watch with stage := stage } }

/-- Reports something. -/
def note (scene : OutputScene) (notice : Notice) : OutputScene :=
  { scene with journal := scene.journal.push notice }

/-- Publishes a classification and takes the device to be connected. -/
def identify (scene : OutputScene) (classification : Classification) : OutputScene :=
  { scene with
    watch := { scene.watch with connected := true }
    socket := { scene.socket with verdict := classification } }

/-- Changes the lines of the port. -/
def mapLines (scene : OutputScene) (f : OutputLines → OutputLines) : OutputScene :=
  { scene with socket := { scene.socket with lines := f scene.socket.lines } }

/-- Whether a count of pin 5 lies outside the balance band. -/
def unbalanced (pin5 : UInt16) : Bool :=
  !(countsOfMillivolts Threshold.out5BalanceLow ≤ pin5
    && pin5 ≤ countsOfMillivolts Threshold.out5BalanceHigh)

/-- The conditions on the released port. -/
def conditionsNow (pin5 : UInt16) (scene : OutputScene) : Conditions where
  pin6Low := !scene.socket.lines.read .pin6
  loaded := unbalanced pin5

/-! ## One function for each stage -/

/-- Releases the port and forgets what was known about it. -/
def onInit (scene : OutputScene) : OutputScene :=
  let scene := scene.mapLines .release
  { scene with
    watch := { scene.watch with
      connected := false, timer := 0, conditions := .none, stage := .floatingDelay }
    socket := { scene.socket with verdict := .none } }

/-- Waits for the released pins to settle. -/
def onFloatingDelay (config : DetectionConfig) (scene : OutputScene) : OutputScene :=
  let timer := scene.watch.timer + 1
  if config.floatTicks ≤ timer then
    { scene with watch := { scene.watch with timer := 0, stage := .floating } }
  else { scene with watch := { scene.watch with timer := timer } }

/-- Watches for conditions that hold unchanged, then takes the first measurement. -/
def onFloating (config : DetectionConfig) (port : Port) (pin5 : UInt16) (scene : OutputScene) :
    OutputScene :=
  let seen := scene.conditionsNow pin5
  let before := scene.watch.conditions
  let scene :=
    if seen = before then scene
    else
      { scene with
        watch := { scene.watch with conditions := seen, timer := 0 }
        journal := scene.journal.push (.conditionsChanged .output port before seen) }
  if seen.isEmpty then scene
  else
    let timer := scene.watch.timer + 1
    if config.connectTicks ≤ timer then
      { scene with
        watch := { scene.watch with
          floatMv := millivoltsOfCounts pin5, timer := 0, stage := .waitingForPin6Low } }.mapLines
        fun lines => lines.driveTo .pin6 .float
    else { scene with watch := { scene.watch with timer := timer } }

/-- Takes the second measurement after the settle time. -/
def onSecondMeasurement (config : DetectionConfig) (pin5 : UInt16) (scene : OutputScene) :
    OutputScene :=
  let timer := scene.watch.timer + 1
  if config.lowTicks ≤ timer then
    { scene with
      watch := { scene.watch with
        timer := timer, lowMv := millivoltsOfCounts pin5, stage := .connection } }.mapLines
      fun lines => lines.driveTo .pin6 .float
  else { scene with watch := { scene.watch with timer := timer } }

/-- Carries out what an output rule decided. -/
def applyVerdict (probe : OutputProbe) (verdict : OutputVerdict) (scene : OutputScene) :
    OutputScene :=
  match verdict with
  | .connect classification => scene.identify classification
  | .actuator sample =>
    { scene with socket := { scene.socket with actuatorMv := sample.of probe } }.identify
      ⟨.unknown, .outputDumb⟩
  | .probeDriven =>
    (scene.mapLines fun lines => lines.driveTo .pin5Write .high).goTo .waitingForPin5Low

/-- Identifies the device by the two measurements. -/
def onConnection (port : Port) (scene : OutputScene) : OutputScene :=
  let scene := scene.goTo .connectedWaitingForPortOpen
  let probe : OutputProbe :=
    ⟨scene.watch.floatMv, scene.watch.lowMv, scene.watch.conditions.pin6Low⟩
  let scene :=
    match firstMatch outputRules probe with
    | some rule =>
      (scene.note (.ruleApplied .output port rule.name)).applyVerdict probe rule.verdict
    | none => scene
  let scene := { scene with watch := { scene.watch with timer := 0 } }
  if scene.watch.connected then
    scene.note (.outputClassified port scene.socket.verdict.device scene.watch.floatMv
      scene.watch.lowMv)
  else scene

/-- Identifies the device by the third measurement, with pin 5 driven. The settle ticks count
towards the debounce of the stage that follows. -/
def onThirdMeasurement (config : DetectionConfig) (port : Port) (pin5 : UInt16)
    (scene : OutputScene) : OutputScene :=
  let timer := scene.watch.timer + 1
  let scene := { scene with watch := { scene.watch with timer := timer } }
  if config.lowTicks ≤ timer then
    let lowMv := millivoltsOfCounts pin5
    let scene := { scene with watch := { scene.watch with lowMv := lowMv } }.mapLines
      fun lines => lines.driveTo .pin5Write .low
    let scene :=
      match firstMatch drivenRules ⟨lowMv⟩ with
      | some rule =>
        { scene with socket := { scene.socket with verdict := rule.verdict } }.note
          (.ruleApplied .driven port rule.name)
      | none => scene
    { scene with
      watch := { scene.watch with
        connected := true, stage := .connectedWaitingForPortOpen } }.note
      (.outputClassifiedDriven port lowMv)
  else scene

/-- Ends the connection once pin 5 is in balance and pin 6 is high for long enough; a tick on
which they are not starts the count anew and counts as its first. -/
def onPortOpen (config : DetectionConfig) (port : Port) (pin5 : UInt16) (scene : OutputScene) :
    OutputScene :=
  let loaded := unbalanced pin5 || !scene.socket.lines.read .pin6
  let timer := (if loaded then 0 else scene.watch.timer) + 1
  if config.releaseTicks ≤ timer then
    { scene with
      watch := { scene.watch with timer := timer, connected := false, stage := .init } }.note
      (.disconnected .output port)
  else { scene with watch := { scene.watch with timer := timer } }

/-! ## The tick -/

/-- What the present stage does. -/
def act (config : DetectionConfig) (port : Port) (pin5 : UInt16) (scene : OutputScene) :
    OutputScene :=
  match scene.watch.stage with
  | .init => scene.onInit
  | .floatingDelay => scene.onFloatingDelay config
  | .floating => scene.onFloating config port pin5
  | .waitingForPin6Low => scene.onSecondMeasurement config pin5
  | .connection => scene.onConnection port
  | .waitingForPin5Low => scene.onThirdMeasurement config port pin5
  | .connectedWaitingForPortOpen => scene.onPortOpen config port pin5
  | _ => scene.goTo .init

/-- Reports a change of stage and remembers the stage. -/
def settle (port : Port) (scene : OutputScene) : OutputScene :=
  if scene.watch.stage = scene.watch.lastStage then scene
  else
    let watch := scene.watch
    { scene with
      watch := { watch with lastStage := watch.stage }
      journal := scene.journal.push (.stageChanged .output port watch.lastStage watch.stage) }

/-- One tick of the watch of an output port. -/
def tick (config : DetectionConfig) (port : Port) (pin5 : UInt16) (scene : OutputScene) :
    OutputScene :=
  (scene.act config port pin5).settle port

/-! ## The count -/

/-- Whether the port looks loaded. -/
def loaded (pin5 : UInt16) (scene : OutputScene) : Bool :=
  unbalanced pin5 || !scene.socket.lines.read .pin6

/-- The count to which the coming tick adds one, if there is such a count. -/
def count? (pin5 : UInt16) (scene : OutputScene) : Option UInt16 :=
  match scene.watch.stage with
  | .floatingDelay | .waitingForPin6Low | .waitingForPin5Low => some scene.watch.timer
  | .floating =>
    let seen := scene.conditionsNow pin5
    if seen.isEmpty then none else some (recount scene.watch.conditions seen scene.watch.timer)
  | .connectedWaitingForPortOpen => some (if scene.loaded pin5 then 0 else scene.watch.timer)
  | _ => none

/-- The coming tick adds one to a count that is full. -/
def overflows (pin5 : UInt16) (scene : OutputScene) : Bool := scene.count? pin5 = some 65535

end OutputScene

end PlugWatch
