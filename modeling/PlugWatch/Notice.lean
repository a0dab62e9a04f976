import PlugWatch.Detection.Conditions
import PlugWatch.Detection.Stage
import PlugWatch.Device
import PlugWatch.Port
import PlugWatch.Sampling.Schedule
/-!
# Notices

What the jobs have to report is returned as data: a notice says what happened, and its level,
message and fields are functions of it.

## Main Definitions

* `Notice` : what happened.
* `Notice.level`, `Notice.message`, `Notice.fields` : its form in a log.
* `Journal` : notices in the order in which they arose.
-/

namespace PlugWatch

/-- How much a notice matters. -/
inductive Level where
  | trace
  | debug
  | info
  | warn
  deriving DecidableEq, Repr

/-- The name of a level. -/
def Level.label : Level → String
  | .trace => "TRACE"
  | .debug => "DEBUG"
  | .info => "INFO"
  | .warn => "WARN"

/-- The side of the brick a port is on. -/
inductive Side where
  | input
  | output
  deriving DecidableEq, Repr

namespace Side

/-- The name of a side in messages. -/
def word : Side → String
  | input => "input"
  | output => "output"

/-- The short name of a side. -/
def label : Side → String
  | input => "in"
  | output => "out"

end Side

/-- Which table of rules decided. -/
inductive RuleTable where
  | legacy
  | loaded
  | output
  | driven
  deriving DecidableEq, Repr

/-- The name of a table in messages. -/
def RuleTable.word : RuleTable → String
  | .legacy => "legacy"
  | .loaded => "loaded"
  | .output => "output"
  | .driven => "driven"

/-- Something a job reports. -/
inductive Notice where
  /-- The converter took its setup words. -/
  | converterConfigured
  /-- All parts are set up. -/
  | moduleReady (legacyColor : Bool)
  /-- The hold-off is over. -/
  | managerRunning
  /-- Test mode was switched. -/
  | testMode (on : Bool)
  /-- The sampler goes on with another schedule. -/
  | scheduleSwitched (next : Schedule)
  /-- The conditions seen on a released port changed. -/
  | conditionsChanged (side : Side) (port : Port) (before after : Conditions)
  /-- A port watch went on to another stage. -/
  | stageChanged (side : Side) (port : Port) (before after : Stage)
  /-- A rule decided. -/
  | ruleApplied (table : RuleTable) (port : Port) (rule : String)
  /-- A port is empty again. -/
  | disconnected (side : Side) (port : Port)
  /-- A colour sensor delivered its calibration. -/
  | colorReady (port : Port) (command : UInt8)
  /-- A colour sensor did not answer in time. -/
  | colorTimedOut (port : Port)
  /-- An output device was identified. -/
  | outputClassified (port : Port) (device : DeviceType) (floatMv lowMv : UInt16)
  /-- An output device was identified with pin 5 driven. -/
  | outputClassifiedDriven (port : Port) (lowMv : UInt16)
  /-- The first session started. -/
  | bitTimerArmed
  /-- The last session stopped. -/
  | bitTimerCancelled
  /-- A session started. -/
  | sessionStarted (port : Port) (command : UInt8)
  /-- A session has all its bytes. -/
  | transferComplete (port : Port)
  /-- User space forced a classification. -/
  | classificationForced (port : Port) (classification : Classification)
  /-- User space asked for a colour command. -/
  | commandQueued (port : Port) (command : UInt8)
  /-- A device appeared, or turned out to be another one. -/
  | deviceDetected (side : Side) (port : Port) (classification : Classification)
      (millivolts : UInt16)
  /-- A device is gone. -/
  | deviceRemoved (side : Side) (port : Port)
  deriving DecidableEq, Repr

/-- Notices in the order in which they arose. -/
abbrev Journal := Array Notice

namespace Notice

/-- How much a notice matters. -/
def level : Notice → Level
  | conditionsChanged .. | ruleApplied .. | transferComplete .. => .trace
  | moduleReady .. | managerRunning | testMode .. | deviceDetected .. | deviceRemoved .. => .info
  | colorTimedOut .. => .warn
  | _ => .debug

/-- The message of a notice. -/
def message : Notice → String
  | converterConfigured => "ADC configured"
  | moduleReady .. => "analog module ready"
  | managerRunning => "connection manager running"
  | testMode .. => "test mode"
  | scheduleSwitched .. => "sampler schedule switch"
  | conditionsChanged side .. => side.word ++ " events"
  | stageChanged side .. => side.word ++ " state"
  | ruleApplied table .. => table.word ++ " rule"
  | disconnected side .. => side.word ++ " disconnected"
  | colorReady .. => "color sensor ready"
  | colorTimedOut .. => "color sensor handshake timed out"
  | outputClassified .. => "output classified"
  | outputClassifiedDriven .. => "output classified (driven)"
  | bitTimerArmed => "color bit timer armed"
  | bitTimerCancelled => "color bit timer cancelled"
  | sessionStarted .. => "color session started"
  | transferComplete .. => "color transfer complete"
  | classificationForced .. => "classification forced"
  | commandQueued .. => "color command queued"
  | deviceDetected .. => "device detected"
  | deviceRemoved .. => "device removed"

/-- The text of a yes or no. -/
def flagText (flag : Bool) : String := if flag then "true" else "false"

/-- The field that names a port. -/
def portField (port : Port) : String × String := ("port", toString port.number)

/-- The fields of a notice. -/
def fields : Notice → List (String × String)
  | converterConfigured | managerRunning | bitTimerArmed | bitTimerCancelled => []
  | moduleReady legacyColor => [("legacy_color", flagText legacyColor)]
  | testMode on => [("on", flagText on)]
  | scheduleSwitched next => [("next", next.label)]
  | conditionsChanged _ port before after =>
    [portField port, ("from", toString before.bits.toNat), ("to", toString after.bits.toNat)]
  | stageChanged _ port before after =>
    [portField port, ("from", before.name), ("to", after.name)]
  | ruleApplied _ port rule => [portField port, ("rule", rule)]
  | disconnected _ port | colorTimedOut port | transferComplete port => [portField port]
  | colorReady port command | sessionStarted port command | commandQueued port command =>
    [portField port, ("command", toString command.toNat)]
  | outputClassified port device floatMv lowMv =>
    [portField port, ("device", device.label), ("float_mv", toString floatMv.toNat),
      ("low_mv", toString lowMv.toNat)]
  | outputClassifiedDriven port lowMv => [portField port, ("low_mv", toString lowMv.toNat)]
  | classificationForced port classification =>
    [portField port, ("classification", classification.describe)]
  | deviceDetected side port classification millivolts =>
    [portField port, ("kind", side.label), ("device", classification.device.label),
      ("connection", classification.connection.label),
      ("millivolts", toString millivolts.toNat)]
  | deviceRemoved side port => [portField port, ("kind", side.label)]

end Notice

end PlugWatch
