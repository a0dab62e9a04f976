import PlugWatch.Board
import PlugWatch.Hardware.Converter
import PlugWatch.Text.Decimal
import PlugWatch.Text.Quoted
/-!
# Plugging simulated devices

A simulated device makes a port look like a real one is plugged: it sets the far-side levels of
the port and the voltages of its analog pins. Devices are named on the command line as
`<port>=<device>`.

| Port | Device |
|------|--------|
| `in1` to `in4` | `open`, `uart`, `iic`, `short`, `analog:<mV>` |
| `outA` to `outD`, or `out1` to `out4` | `open`, `large-motor`, `medium-motor`, `new-large-motor`, `intelligent`, `actuator:<mV>` |

## Main Definitions

* `InputDevice`, `OutputDevice` : the devices.
* `InputDevice.plug`, `OutputDevice.plug` : what plugging does to lines and converter.
* `Plug`, `Plug.parse` : a device on a port, and its text.
* `Plug.Defect` : what is wrong with a text, with its wording.
-/

namespace PlugWatch

/-! ## Devices -/

/-- A simulated device for an input port. -/
inductive InputDevice where
  /-- Nothing plugged. -/
  | empty
  /-- A UART sensor, which ties pin 1 to ground. -/
  | uart
  /-- An analog sensor, which loads pin 1 to a voltage. -/
  | analog (pin1Mv : UInt16)
  /-- A legacy IIC sensor, which pulls pin 6 high. -/
  | iic
  /-- Pin 5 shorted to ground. -/
  | shortedPin5
  deriving DecidableEq, Repr

namespace InputDevice

/-- The voltage on pin 1. -/
def pin1Mv : InputDevice → UInt16
  | uart => 0
  | analog mv => mv
  | empty | iic | shortedPin5 => 5000

/-- The voltages of a port with the device. -/
def plugAnalog (device : InputDevice) (port : Port) (adc : Multiplexer) : Multiplexer :=
  (adc.setSlotMillivolts (.inPin1 port) device.pin1Mv).setSlot (.inPin6 port) 0

/-- The lines of a port with the device. -/
def plugLines (device : InputDevice) (lines : InputLines) : InputLines :=
  match device with
  | iic => lines.unplug.setLevel .pin6 true
  | shortedPin5 => lines.unplug.setLevel .pin5 false
  | empty | uart | analog _ => lines.unplug

/-- The text of a device in diagnostics. -/
def describe : InputDevice → String
  | empty => "Open"
  | uart => "Uart"
  | analog mv => "Analog \x7b pin1_mv: " ++ toString mv.toNat ++ " \x7d"
  | iic => "NxtIic"
  | shortedPin5 => "ShortedPin5"

end InputDevice

/-- A simulated device for an output port. -/
inductive OutputDevice where
  /-- Nothing plugged; pin 5 rests in the balance band. -/
  | empty
  | largeMotor
  | mediumMotor
  | newLargeMotor
  | intelligent
  /-- A plain actuator, which loads pin 5 to a voltage. -/
  | actuator (pin5Mv : UInt16)
  deriving DecidableEq, Repr

namespace OutputDevice

/-- The voltage on pin 5. -/
def pin5Mv : OutputDevice → UInt16
  | empty => 2500
  | largeMotor => 180
  | mediumMotor => 350
  | newLargeMotor => 550
  | intelligent => 1000
  | actuator mv => mv

/-- The voltage of a port with the device. -/
def plugAnalog (device : OutputDevice) (port : Port) (adc : Multiplexer) : Multiplexer :=
  adc.setSlotMillivolts (.outPin5 port) device.pin5Mv

/-- The lines of a port with the device. -/
def plugLines (_ : OutputDevice) (lines : OutputLines) : OutputLines := lines.unplug

/-- The text of a device in diagnostics. -/
def describe : OutputDevice → String
  | empty => "Open"
  | largeMotor => "LargeMotor"
  | mediumMotor => "MediumMotor"
  | newLargeMotor => "NewLargeMotor"
  | intelligent => "Intelligent"
  | actuator mv => "Actuator \x7b pin5_mv: " ++ toString mv.toNat ++ " \x7d"

end OutputDevice

/-- A converter whose ports are all empty. -/
def Multiplexer.empty : Multiplexer :=
  Port.all.foldl
    (fun adc port =>
      OutputDevice.empty.plugAnalog port (InputDevice.empty.plugAnalog port adc))
    {}

/-! ## Naming a device on a port -/

/-- A simulated device on a port. -/
inductive Plug where
  | input (port : Port) (device : InputDevice)
  | output (port : Port) (device : OutputDevice)
  deriving DecidableEq, Repr

namespace Plug

/-- What is wrong with the text of a plug. -/
inductive Defect where
  /-- There is no equals sign in the text. -/
  | noEquals (text : List Char)
  /-- The port is on neither side. -/
  | unknownPort (port : List Char)
  | unknownInputPort (port : List Char)
  | unknownOutputPort (port : List Char)
  | unknownInputDevice (kind : List Char)
  | unknownOutputDevice (kind : List Char)
  /-- A device that needs a voltage has none. -/
  | noMillivolts
  /-- The voltage is no number that fits. -/
  | badMillivolts (defect : Decimal.Defect)
  deriving DecidableEq, Repr

/-- The wording of a defect. -/
def Defect.message : Defect → String
  | noEquals text => "expected <port>=<device>, got " ++ Quoted.quote text
  | unknownPort port => "unknown port " ++ Quoted.quote port
  | unknownInputPort port => "unknown input port " ++ Quoted.quote port
  | unknownOutputPort port => "unknown output port " ++ Quoted.quote port
  | unknownInputDevice kind => "unknown input device " ++ Quoted.quote kind
  | unknownOutputDevice kind => "unknown output device " ++ Quoted.quote kind
  | noMillivolts => "missing millivolts, e.g. analog:2500"
  | badMillivolts defect => "bad millivolts: " ++ defect.message

/-- The text before the first separator, and the text behind it if there is one. -/
def cut (separator : Char) : List Char → List Char × Option (List Char)
  | [] => ([], none)
  | c :: rest =>
    if c = separator then ([], some rest)
    else
      let (before, behind) := cut separator rest
      (c :: before, behind)

/-- The largest number that a port may be written with before it is looked up. -/
def portLimit : Nat := UInt64.size - 1

/-- The input port with a number counted from one. -/
def inputPort? (number : List Char) : Option Port :=
  match Decimal.readUnsigned portLimit number with
  | .ok (n + 1) => Port.ofIndex? n
  | _ => none

/-- The output port with a letter or a number. -/
def outputPort? : List Char → Option Port
  | ['a'] | ['A'] | ['1'] => some .p1
  | ['b'] | ['B'] | ['2'] => some .p2
  | ['c'] | ['C'] | ['3'] => some .p3
  | ['d'] | ['D'] | ['4'] => some .p4
  | _ => none

/-- The voltage of a device. -/
def millivolts : Option (List Char) → Except Defect UInt16
  | none => .error .noMillivolts
  | some text =>
    match Decimal.readUnsigned 65535 text with
    | .ok n => .ok (UInt16.ofNat n)
    | .error defect => .error (.badMillivolts defect)

/-- The input device of a kind, with the voltage that some kinds need. -/
def inputDevice (kind : List Char) (voltage : Option (List Char)) : Except Defect InputDevice :=
  if kind = "open".toList then .ok .empty
  else if kind = "uart".toList then .ok .uart
  else if kind = "iic".toList then .ok .iic
  else if kind = "short".toList then .ok .shortedPin5
  else if kind = "analog".toList then (millivolts voltage).map .analog
  else .error (.unknownInputDevice kind)

/-- The output device of a kind, with the voltage that some kinds need. -/
def outputDevice (kind : List Char) (voltage : Option (List Char)) :
    Except Defect OutputDevice :=
  if kind = "open".toList then .ok .empty
  else if kind = "large-motor".toList then .ok .largeMotor
  else if kind = "medium-motor".toList then .ok .mediumMotor
  else if kind = "new-large-motor".toList then .ok .newLargeMotor
  else if kind = "intelligent".toList then .ok .intelligent
  else if kind = "actuator".toList then (millivolts voltage).map .actuator
  else .error (.unknownOutputDevice kind)

/-- The plug that a port name and a device text say. -/
def ofParts (port device : List Char) : Except Defect Plug :=
  let (kind, voltage) := cut ':' device
  match port with
  | 'i' :: 'n' :: number =>
    match inputPort? number with
    | none => .error (.unknownInputPort port)
    | some p => (inputDevice kind voltage).map (.input p)
  | 'o' :: 'u' :: 't' :: name =>
    match outputPort? name with
    | none => .error (.unknownOutputPort port)
    | some p => (outputDevice kind voltage).map (.output p)
  | _ => .error (.unknownPort port)

/-- Reads a plug: a port and a device with an equals sign between them. -/
def parseChars (text : List Char) : Except Defect Plug :=
  match cut '=' text with
  | (_, none) => .error (.noEquals text)
  | (port, some device) => ofParts port device

/-- Reads a plug. -/
def parse (text : String) : Except Defect Plug := parseChars text.toList

/-- The text of a plug in diagnostics. -/
def describe : Plug → String
  | input port device => "Input(" ++ port.label ++ ", " ++ device.describe ++ ")"
  | output port device => "Output(" ++ port.label ++ ", " ++ device.describe ++ ")"

/-- The voltages once the device is plugged. -/
def plugAnalog (plug : Plug) (adc : Multiplexer) : Multiplexer :=
  match plug with
  | input port device => device.plugAnalog port adc
  | output port device => device.plugAnalog port adc

/-- The lines once the device is plugged. -/
def plugBoard (plug : Plug) (board : Board) : Board :=
  match plug with
  | input port device => board.modifyInputLines port device.plugLines
  | output port device => board.modifyOutputLines port device.plugLines

end Plug

end PlugWatch
