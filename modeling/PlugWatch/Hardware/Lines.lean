import PlugWatch.Hardware.Sensor
import PlugWatch.Port
/-!
# Port lines

The lines of a port as the brick sees them: a driven pin shows its drive, a released one the level
of what is plugged.

## Main Definitions

* `InputLines`, `OutputLines` : drives, far-side levels and the number of drive calls.
* `read`, `driveTo`, `release` : sense a pin, drive a pin, bring the port into its released state.
* `levels` : all pins of a port as bits.
-/

namespace PlugWatch

/-- The lines of an input port. -/
structure InputLines where
  drive : InputPins Drive
  /-- The level each pin shows while it is released. -/
  level : InputPins Bool
  /-- Number of drive calls so far. -/
  writes : Nat := 0
  /-- A simulated colour sensor on the port, if there is one. -/
  sensor : Option Sensor := none
  deriving DecidableEq, Repr

namespace InputLines

/-- Levels of an empty input port: pins 1, 2 and 5 are pulled up. -/
def emptyLevel : InputPins Bool := ⟨true, true, true, false, false⟩

/-- An empty input port with every pin released. -/
def empty : InputLines := { drive := .const .float, level := emptyLevel }

instance : Inhabited InputLines := ⟨empty⟩

/-- The level seen on a pin. -/
def read (lines : InputLines) (role : InputRole) : Bool :=
  (lines.drive.get role).resolve (lines.level.get role)

/-- Sets the level a pin shows while released. -/
def setLevel (lines : InputLines) (role : InputRole) (high : Bool) : InputLines :=
  { lines with level := lines.level.set role high }

/-- Takes away what is plugged, as far as the digital levels go. -/
def unplug (lines : InputLines) : InputLines := { lines with level := emptyLevel }

/-- The level the brick forces on the data line, if it drives it. -/
def dataBit? (lines : InputLines) : Option Bool :=
  match lines.drive.pin6 with
  | .high => some true
  | .low => some false
  | .float => none

/-- Lets the sensor react to a rising clock edge. -/
def clockSensor (lines : InputLines) : InputLines :=
  match lines.sensor with
  | none => lines
  | some sensor =>
    match sensor.onRisingEdge lines.dataBit? with
    | (sensor, none) => { lines with sensor := some sensor }
    | (sensor, some bit) =>
      { lines with sensor := some sensor, level := lines.level.set .pin6 bit }

/-- Drives or releases a pin. Driving pin 5 high, when it was not, is a rising clock edge. -/
def driveTo (lines : InputLines) (role : InputRole) (drive : Drive) : InputLines :=
  let driven := { lines with drive := lines.drive.set role drive, writes := lines.writes + 1 }
  if role = .pin5 ∧ drive = .high ∧ lines.drive.pin5 ≠ .high then driven.clockSensor else driven

/-- Releases the port: pins 5 and 6 float and the buffer is switched on. Pins 1 and 2 stay as they
are. -/
def release (lines : InputLines) : InputLines :=
  ((lines.driveTo .pin5 .float).driveTo .pin6 .float).driveTo .buffer .high

/-- The levels of all pins, one bit for each role. -/
def levels (lines : InputLines) : UInt8 := bitsOf (InputRole.all.map lines.read)

/-- The letters of the drives of all pins. -/
def driveText (lines : InputLines) : String :=
  String.ofList (InputRole.all.map fun role => (lines.drive.get role).letter)

end InputLines

/-- The lines of an output port. -/
structure OutputLines where
  drive : OutputPins Drive
  /-- The level each pin shows while it is released. -/
  level : OutputPins Bool
  /-- Number of drive calls so far. -/
  writes : Nat := 0
  deriving DecidableEq, Repr

namespace OutputLines

/-- Levels of an empty output port: the pin 5 sense and pin 6 are pulled up. -/
def emptyLevel : OutputPins Bool := ⟨false, false, false, true, true⟩

/-- An empty output port with every pin released. -/
def empty : OutputLines := { drive := .const .float, level := emptyLevel }

instance : Inhabited OutputLines := ⟨empty⟩

/-- The level seen on a pin. -/
def read (lines : OutputLines) (role : OutputRole) : Bool :=
  (lines.drive.get role).resolve (lines.level.get role)

/-- Sets the level a pin shows while released. -/
def setLevel (lines : OutputLines) (role : OutputRole) (high : Bool) : OutputLines :=
  { lines with level := lines.level.set role high }

/-- Takes away what is plugged, as far as the digital levels go. -/
def unplug (lines : OutputLines) : OutputLines := { lines with level := emptyLevel }

/-- Drives or releases a pin. -/
def driveTo (lines : OutputLines) (role : OutputRole) (drive : Drive) : OutputLines :=
  { lines with drive := lines.drive.set role drive, writes := lines.writes + 1 }

/-- Releases the port: the motor lines and the pin 5 pull-down are driven low and pin 6 floats. -/
def release (lines : OutputLines) : OutputLines :=
  (((lines.driveTo .pin1 .low).driveTo .pin2 .low).driveTo .pin5Write .low).driveTo .pin6 .float

/-- The levels of all pins, one bit for each role. -/
def levels (lines : OutputLines) : UInt8 := bitsOf (OutputRole.all.map lines.read)

/-- The letters of the drives of all pins. -/
def driveText (lines : OutputLines) : String :=
  String.ofList (OutputRole.all.map fun role => (lines.drive.get role).letter)

end OutputLines

end PlugWatch
