import PlugWatch.Board
import PlugWatch.Color.Protocol
import PlugWatch.Config
import PlugWatch.Detection.Rules
/-!
# Watching an input port

One tick of the watch of an input port. The watch sees the port's socket, the latest sample of
pin 1 and the colour sessions; it changes its own state, the socket and the port's session.

## Main Definitions

* `InputWatch` : the state of the watch.
* `InputScene` : the watch together with all it may change.
* `InputScene.tick` : one tick.
* `InputScene.overflows` : whether the count of the watch has no room for the tick.

## Design Notes

There is one function for each stage. The stages that end a connection share one debounce: a
release condition must hold for a number of ticks in a row.

All stages count in one word, and the tick goes round the end of it. That there is room for the tick is
a question of its own, which the manager asks before it answers with the tick.
-/

namespace PlugWatch

/-- The watch of an input port. -/
structure InputWatch where
  stage : Stage := .init
  /-- The stage at the end of the last tick. -/
  lastStage : Stage := .init
  /-- Whether a device is taken to be connected. -/
  connected : Bool := false
  /-- Whether detection is switched on. -/
  enabled : Bool := true
  /-- The command for a legacy colour sensor. -/
  command : UInt8 := 0
  timer : UInt16 := 0
  /-- The conditions last seen on the released port. -/
  conditions : Conditions := .none
  /-- Pin 1 when the confirmation of a touch sensor began. -/
  touchLevel : UInt16 := 0
  deriving DecidableEq, Repr, Inhabited

namespace InputWatch

/-- Starts over at the first stage. -/
def reset (watch : InputWatch) : InputWatch :=
  { watch with stage := .init, timer := 0, conditions := .none }

/-- Switches detection on or off. -/
def setEnabled (watch : InputWatch) (on : Bool) : InputWatch := { watch with enabled := on }

/-- Asks for a colour command, which restarts the colour session of a connected port. -/
def requestCommand (watch : InputWatch) (command : UInt8) : InputWatch :=
  { watch with command := command, timer := 0, stage := .nxtColorInit }

end InputWatch

/-- A watch together with all it may change in a tick. -/
structure InputScene (κ : Type) where
  watch : InputWatch
  socket : InputSocket
  /-- The colour sessions, if there is a link. -/
  link : Option κ
  journal : Journal

namespace InputScene

variable {κ : Type}

/-! ## Small steps -/

/-- Goes on to a stage. -/
def goTo (scene : InputScene κ) (stage : Stage) : InputScene κ :=
  { scene with watch := { scene.watch with stage := stage } }

/-- Goes on to a stage with the timer at zero. -/
def enter (scene : InputScene κ) (stage : Stage) : InputScene κ :=
  { scene with watch := { scene.watch with stage := stage, timer := 0 } }

/-- Reports something. -/
def note (scene : InputScene κ) (notice : Notice) : InputScene κ :=
  { scene with journal := scene.journal.push notice }

/-- Publishes a classification. -/
def publish (scene : InputScene κ) (classification : Classification) : InputScene κ :=
  { scene with socket := { scene.socket with verdict := classification } }

/-- Takes the device to be connected. -/
def connect (scene : InputScene κ) : InputScene κ :=
  { scene with watch := { scene.watch with connected := true } }

/-- Changes the handshake with the sampler. -/
def mapHandshake (scene : InputScene κ) (f : ColorHandshake → ColorHandshake) : InputScene κ :=
  { scene with socket := { scene.socket with handshake := f scene.socket.handshake } }

/-- Changes the lines of the port. -/
def mapLines (scene : InputScene κ) (f : InputLines → InputLines) : InputScene κ :=
  { scene with socket := { scene.socket with lines := f scene.socket.lines } }

/-- Stops the port's colour session, if there is a link. -/
def stopSession [ColorProtocol κ] (port : Port) (scene : InputScene κ) : InputScene κ :=
  match scene.link with
  | none => scene
  | some link =>
    let (link, notices) := ColorProtocol.stop link port
    { scene with link := some link, journal := scene.journal ++ notices.toArray }

/-- The level seen on a pin of the port. -/
def sees (scene : InputScene κ) (role : InputRole) : Bool := scene.socket.lines.read role

/-- The conditions on the released port. -/
def conditionsNow (config : DetectionConfig) (pin1 : UInt16) (scene : InputScene κ) :
    Conditions where
  pin2Low := config.pin2Detection && !scene.sees .pin2
  loaded := pin1 < countsOfMillivolts Threshold.in1Near5V
  pin5Low := !scene.sees .pin5
  pin6High := scene.sees .pin6

/-- Ends the connection once a release condition has held for a number of ticks in a row, this
tick included. -/
def awaitRelease (port : Port) (limit : UInt16) (released : Bool) (scene : InputScene κ) :
    InputScene κ :=
  if released then
    let timer := scene.watch.timer + 1
    if limit ≤ timer then
      { scene with
        watch := { scene.watch with timer := timer, connected := false, stage := .init }
        journal := scene.journal.push (.disconnected .input port) }
    else { scene with watch := { scene.watch with timer := timer } }
  else { scene with watch := { scene.watch with timer := 0 } }

/-! ## One function for each stage -/

/-- Releases the port and forgets what was known about it. -/
def onInit [ColorProtocol κ] (port : Port) (scene : InputScene κ) : InputScene κ :=
  let scene := scene.mapHandshake fun handshake => { handshake with active := false }
  let scene := (scene.stopSession port).mapLines .release
  let scene := scene.publish .none
  { scene with
    watch := { scene.watch with
      connected := false, timer := 0, conditions := .none, stage := .floatingDelay } }

/-- Waits for the released pins to settle. -/
def onFloatingDelay (config : DetectionConfig) (scene : InputScene κ) : InputScene κ :=
  let timer := scene.watch.timer + 1
  if config.floatTicks ≤ timer then scene.enter .floating
  else { scene with watch := { scene.watch with timer := timer } }

/-- Watches for conditions that hold unchanged. -/
def onFloating (config : DetectionConfig) (port : Port) (pin1 : UInt16) (scene : InputScene κ) :
    InputScene κ :=
  let seen := scene.conditionsNow config pin1
  let before := scene.watch.conditions
  let scene :=
    if seen = before then scene
    else
      { scene with
        watch := { scene.watch with conditions := seen, timer := 0 }
        journal := scene.journal.push (.conditionsChanged .input port before seen) }
  if seen.isEmpty then scene
  else
    let timer := scene.watch.timer + 1
    { scene with
      watch := { scene.watch with
        timer := timer
        stage := if config.connectTicks ≤ timer then .connection else .floating } }

/-- The stage that conditions lead to: pin 2 counts most, then pin 1, pin 6 and pin 5. -/
def stageOf (conditions : Conditions) : Stage :=
  if conditions.pin2Low then .pin2Low
  else if conditions.loaded then .pin1Loaded
  else if conditions.pin6High then .pin6High
  else if conditions.pin5Low then .pin5Low
  else .init

/-- Acts on the conditions that held, and starts the fast log anew. -/
def onConnection (scene : InputScene κ) : InputScene κ :=
  let scene := scene.goTo (stageOf scene.watch.conditions)
  { scene with socket := { scene.socket with log := scene.socket.log.reset } }

/-- What a legacy rule decides when there may be no colour link: without one, a colour sensor is
published as a plain legacy sensor. -/
def withoutLink (linked : Bool) (verdict : LegacyVerdict) : LegacyVerdict :=
  if verdict.next = .nxtColorInit ∧ linked = false then
    .settled .nxtColor .nxtDumb
  else verdict

/-- Identifies a legacy sensor. -/
def onPin2Low (port : Port) (pin1 : UInt16) (scene : InputScene κ) : InputScene κ :=
  let scene := (scene.connect).mapLines .release
  let scene := { scene with watch := { scene.watch with timer := 0 } }
  match firstMatch legacyRules ⟨scene.watch.conditions, pin1⟩ with
  | none => scene
  | some rule =>
    let scene := scene.note (.ruleApplied .legacy port rule.name)
    let verdict := withoutLink scene.link.isSome rule.verdict
    let scene :=
      if verdict.next = .nxtTouchCheck then
        { scene with watch := { scene.watch with touchLevel := pin1 } }
      else scene
    let scene :=
      match verdict.classification with
      | some classification => scene.publish classification
      | none => scene
    scene.goTo verdict.next

/-- The sensor in the touch window: a touch sensor if pin 1 stayed where it was, else a sound
sensor. -/
def touchOrSound (before now : UInt16) : Classification :=
  if -Threshold.touchTolerance < difference now before
      ∧ difference now before < Threshold.touchTolerance then ⟨.nxtTouch, .nxtDumb⟩
  else ⟨.nxtSound, .nxtDumb⟩

/-- Confirms a pressed touch sensor. -/
def onTouchCheck (config : DetectionConfig) (pin1 : UInt16) (scene : InputScene κ) :
    InputScene κ :=
  let timer := scene.watch.timer + 1
  if config.touchTicks ≤ timer then
    (scene.enter .connectedWaitingForPin2High).publish
      (touchOrSound scene.watch.touchLevel pin1)
  else { scene with watch := { scene.watch with timer := timer } }

/-- Prepares a colour session: the sampler is asked to leave the clock line alone. -/
def onColorInit [ColorProtocol κ] (port : Port) (scene : InputScene κ) : InputScene κ :=
  let scene := scene.mapHandshake fun handshake => { handshake with command := 0 }
  match scene.link with
  | some _ => (scene.stopSession port).enter .nxtColorWait
  | none => scene.enter .connectedWaitingForPin2High

/-- Starts the colour session once the sampler has taken the command over. -/
def onColorWait [ColorProtocol κ] (port : Port) (scene : InputScene κ) : InputScene κ :=
  match scene.link with
  | none => scene.goTo .connectedWaitingForPin2High
  | some link =>
    if scene.socket.handshake.settled then
      let (link, notices) := ColorProtocol.start link port scene.watch.command
      { scene with link := some link, journal := scene.journal ++ notices.toArray }.goTo
        .nxtColorBusy
    else scene

/-- Takes over the answer of a finished session: the port goes into colour mode. -/
def collect [ColorProtocol κ] (port : Port) (answer : Block) (scene : InputScene κ) :
    InputScene κ :=
  let command := scene.watch.command
  let scene := scene.mapHandshake fun handshake => { handshake with command := command }
  let scene := { scene with
    socket := { scene.socket with color := scene.socket.color.load answer } }
  let scene := scene.stopSession port
  let scene := scene.mapHandshake fun handshake => { handshake with active := true }
  (scene.enter .connectedWaitingForPin2High).note (.colorReady port command)

/-- Collects the answer of the colour session, or gives up when it takes too long. The tick in
which the answer is collected counts towards the time as well. -/
def onColorBusy [ColorProtocol κ] (config : DetectionConfig) (port : Port)
    (scene : InputScene κ) : InputScene κ :=
  match scene.link with
  | none => scene.goTo .connectedWaitingForPin2High
  | some link =>
    let scene :=
      if ColorProtocol.ready link port then scene.collect port (ColorProtocol.response link port)
      else scene
    let timer := scene.watch.timer + 1
    let scene := { scene with watch := { scene.watch with timer := timer } }
    if config.colorTimeoutTicks < timer then
      ((scene.note (.colorTimedOut port)).stopSession port).enter .connectedWaitingForPin2High
    else scene

/-- Identifies a device that loads pin 1. -/
def onPin1Loaded (port : Port) (pin1 : UInt16) (scene : InputScene κ) : InputScene κ :=
  let scene :=
    match firstMatch loadedRules ⟨pin1⟩ with
    | some rule => (scene.note (.ruleApplied .loaded port rule.name)).publish rule.verdict
    | none => scene
  scene.connect.enter .connectedWaitingForPin1ToFloat

/-- A device that pulls pin 6 high talks IIC. -/
def onPin6High (scene : InputScene κ) : InputScene κ :=
  (scene.publish ⟨.nxtIic, .nxtIic⟩).connect.enter .connectedWaitingForPin6Low

/-- A device that only pulls pin 5 low is a fault. -/
def onPin5Low (scene : InputScene κ) : InputScene κ :=
  (scene.publish .error).connect.enter .connectedWaitingForPin5High

/-- Leaves the port to user space; a colour session that was on its way is stopped. -/
def onDisabled [ColorProtocol κ] (port : Port) (scene : InputScene κ) : InputScene κ :=
  if scene.watch.enabled then scene.goTo .init
  else
    let scene :=
      if scene.watch.lastStage.inColorSession then scene.stopSession port else scene
    { scene with watch := { scene.watch with timer := 0, connected := true } }

/-! ## The tick -/

/-- What the present stage does. -/
def act [ColorProtocol κ] (config : DetectionConfig) (port : Port) (pin1 : UInt16)
    (scene : InputScene κ) : InputScene κ :=
  match scene.watch.stage with
  | .init => scene.onInit port
  | .floatingDelay => scene.onFloatingDelay config
  | .floating => scene.onFloating config port pin1
  | .connection => scene.onConnection
  | .pin2Low => scene.onPin2Low port pin1
  | .nxtTouchCheck => scene.onTouchCheck config pin1
  | .nxtColorInit => scene.onColorInit port
  | .nxtColorWait => scene.onColorWait port
  | .nxtColorBusy => scene.onColorBusy config port
  | .connectedWaitingForPin2High =>
    scene.awaitRelease port config.releaseTicks (!config.pin2Detection || scene.sees .pin2)
  | .pin1Loaded => scene.onPin1Loaded port pin1
  | .connectedWaitingForPin1ToFloat =>
    scene.awaitRelease port config.releaseTicks
      (countsOfMillivolts Threshold.in1Near5V < pin1)
  | .pin6High => scene.onPin6High
  | .connectedWaitingForPin6Low =>
    scene.awaitRelease port config.releaseTicks (!scene.sees .pin6)
  | .pin5Low => scene.onPin5Low
  | .connectedWaitingForPin5High =>
    scene.awaitRelease port config.releaseTicks (scene.sees .pin5)
  | .disabled => scene.onDisabled port
  | .waitingForPin5Low | .waitingForPin6Low | .connectedWaitingForPortOpen => scene.goTo .init

/-- Takes a port whose detection is switched off to the stage for that. -/
def gate (scene : InputScene κ) : InputScene κ :=
  if scene.watch.enabled then scene else scene.goTo .disabled

/-- Reports a change of stage and remembers the stage. -/
def settle (port : Port) (scene : InputScene κ) : InputScene κ :=
  if scene.watch.stage = scene.watch.lastStage then scene
  else
    let watch := scene.watch
    { scene with
      watch := { watch with lastStage := watch.stage }
      journal := scene.journal.push (.stageChanged .input port watch.lastStage watch.stage) }

/-- One tick of the watch of an input port. -/
def tick [ColorProtocol κ] (config : DetectionConfig) (port : Port) (pin1 : UInt16)
    (scene : InputScene κ) : InputScene κ :=
  (scene.gate.act config port pin1).settle port

/-! ## The count -/

/-- Whether the device that a settled port waits for seems to be gone. -/
def gone (config : DetectionConfig) (pin1 : UInt16) (scene : InputScene κ) : Bool :=
  match scene.watch.stage with
  | .connectedWaitingForPin2High => !config.pin2Detection || scene.sees .pin2
  | .connectedWaitingForPin1ToFloat => countsOfMillivolts Threshold.in1Near5V < pin1
  | .connectedWaitingForPin6Low => !scene.sees .pin6
  | .connectedWaitingForPin5High => scene.sees .pin5
  | _ => false

/-- The count to which the coming tick adds one, if there is such a count. -/
def count? [ColorProtocol κ] (config : DetectionConfig) (port : Port) (pin1 : UInt16)
    (scene : InputScene κ) : Option UInt16 :=
  if scene.watch.enabled then
    match scene.watch.stage with
    | .floatingDelay | .nxtTouchCheck => some scene.watch.timer
    | .floating =>
      let seen := scene.conditionsNow config pin1
      if seen.isEmpty then none else some (recount scene.watch.conditions seen scene.watch.timer)
    | .nxtColorBusy =>
      scene.link.map fun link => if ColorProtocol.ready link port then 0 else scene.watch.timer
    | _ => if scene.gone config pin1 then some scene.watch.timer else none
  else none

/-- The coming tick adds one to a count that is full. -/
def overflows [ColorProtocol κ] (config : DetectionConfig) (port : Port) (pin1 : UInt16)
    (scene : InputScene κ) : Bool :=
  scene.count? config port pin1 = some 65535

end InputScene

end PlugWatch
