/-!
# Stages of a port watch

Every port passes through stages: it is released, watched for a plug, identified, and then watched
for the unplug. Input ports can also be taken out of detection.

## Main Definitions

* `Stage` : the position of a port watch.
* `Stage.key`, `Stage.name` : its names in data and in diagnostics.
* `Stage.inColorSession` : the stages of a colour session.
-/

namespace PlugWatch

/-- The position of a port watch. -/
inductive Stage where
  /-- Release the port and clear its classification. -/
  | init
  /-- Let released pins settle. -/
  | floatingDelay
  /-- Watch for connect conditions. -/
  | floating
  /-- Output: pin 5 is measured again while driven. -/
  | waitingForPin5Low
  /-- Output: second measurement of pin 5. -/
  | waitingForPin6Low
  /-- Act on the conditions that held. -/
  | connection
  /-- Input: pin 2 was pulled low. -/
  | pin2Low
  /-- Input: a pressed legacy touch sensor is confirmed. -/
  | nxtTouchCheck
  /-- Input: a colour session is prepared. -/
  | nxtColorInit
  /-- Input: the sampler has yet to take over the colour command. -/
  | nxtColorWait
  /-- Input: a colour session runs. -/
  | nxtColorBusy
  /-- Input: connected, until pin 2 is high again. -/
  | connectedWaitingForPin2High
  /-- Input: pin 1 is loaded. -/
  | pin1Loaded
  /-- Input: connected, until pin 1 is unloaded. -/
  | connectedWaitingForPin1ToFloat
  /-- Input: pin 6 was pulled high. -/
  | pin6High
  /-- Input: connected, until pin 6 drops. -/
  | connectedWaitingForPin6Low
  /-- Input: pin 5 was pulled low. -/
  | pin5Low
  /-- Input: connected, until pin 5 is high again. -/
  | connectedWaitingForPin5High
  /-- Output: connected, until the port is empty. -/
  | connectedWaitingForPortOpen
  /-- Input: detection is switched off. -/
  | disabled
  deriving DecidableEq, Repr, Inhabited

namespace Stage

/-- Every stage. -/
def all : List Stage :=
  [init, floatingDelay, floating, waitingForPin5Low, waitingForPin6Low, connection, pin2Low,
    nxtTouchCheck, nxtColorInit, nxtColorWait, nxtColorBusy, connectedWaitingForPin2High,
    pin1Loaded, connectedWaitingForPin1ToFloat, pin6High, connectedWaitingForPin6Low, pin5Low,
    connectedWaitingForPin5High, connectedWaitingForPortOpen, disabled]

/-- The name of a stage in data. -/
def key : Stage → String
  | init => "init"
  | floatingDelay => "floating_delay"
  | floating => "floating"
  | waitingForPin5Low => "waiting_for_pin5_low"
  | waitingForPin6Low => "waiting_for_pin6_low"
  | connection => "connection"
  | pin2Low => "pin2_low"
  | nxtTouchCheck => "nxt_touch_check"
  | nxtColorInit => "nxt_color_init"
  | nxtColorWait => "nxt_color_wait"
  | nxtColorBusy => "nxt_color_busy"
  | connectedWaitingForPin2High => "connected_waiting_for_pin2_high"
  | pin1Loaded => "pin1_loaded"
  | connectedWaitingForPin1ToFloat => "connected_waiting_for_pin1_to_float"
  | pin6High => "pin6_high"
  | connectedWaitingForPin6Low => "connected_waiting_for_pin6_low"
  | pin5Low => "pin5_low"
  | connectedWaitingForPin5High => "connected_waiting_for_pin5_high"
  | connectedWaitingForPortOpen => "connected_waiting_for_port_open"
  | disabled => "disabled"

/-- The name of a stage in diagnostics. -/
def name (stage : Stage) : String := "DCM_" ++ stage.key.toUpper

/-- Whether a colour session is being prepared or runs. -/
def inColorSession : Stage → Bool
  | nxtColorInit | nxtColorWait | nxtColorBusy => true
  | _ => false

theorem mem_all (stage : Stage) : stage ∈ all := by cases stage <;> decide

end Stage

end PlugWatch
