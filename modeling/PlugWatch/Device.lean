/-!
# Device classification

The verdict on a port pairs the kind of device found with the way it talks to the brick. Both are
published by number to user space and by name to clients.

## Main Definitions

* `DeviceType`, `Connection` : the two halves of a verdict, with published codes.
* `Classification` : the pair; `Classification.none` is an empty port.
* `Classification.forced?` : the classification that user space may force by a connection code.
-/

namespace PlugWatch

/-- Kind of device found on a port. -/
inductive DeviceType where
  | nxtTouch
  | nxtLight
  | nxtSound
  | nxtColor
  | tacho
  | miniTacho
  | newTacho
  | touch
  | nxtTest
  | nxtIic
  /-- Present, but the watch cannot tell what it is. -/
  | unknown
  /-- Nothing plugged. -/
  | none
  /-- Port fault. -/
  | error
  deriving DecidableEq, Repr

namespace DeviceType

instance : Inhabited DeviceType := ⟨.none⟩

/-- Every kind of device, by ascending code. -/
def all : List DeviceType :=
  [nxtTouch, nxtLight, nxtSound, nxtColor, tacho, miniTacho, newTacho, touch, nxtTest, nxtIic,
    unknown, none, error]

/-- The published number. -/
def code : DeviceType → UInt8
  | nxtTouch => 1
  | nxtLight => 2
  | nxtSound => 3
  | nxtColor => 4
  | tacho => 7
  | miniTacho => 8
  | newTacho => 9
  | touch => 16
  | nxtTest => 101
  | nxtIic => 123
  | unknown => 125
  | none => 126
  | error => 127

/-- The kind with a published number. -/
def ofCode? (code : UInt8) : Option DeviceType := all.find? (·.code == code)

/-- The name in diagnostics. -/
def label : DeviceType → String
  | nxtTouch => "NxtTouch"
  | nxtLight => "NxtLight"
  | nxtSound => "NxtSound"
  | nxtColor => "NxtColor"
  | tacho => "Tacho"
  | miniTacho => "MiniTacho"
  | newTacho => "NewTacho"
  | touch => "Touch"
  | nxtTest => "NxtTest"
  | nxtIic => "NxtIic"
  | unknown => "Unknown"
  | none => "None"
  | error => "Error"

/-- The name in data. -/
def key : DeviceType → String
  | nxtTouch => "nxt_touch"
  | nxtLight => "nxt_light"
  | nxtSound => "nxt_sound"
  | nxtColor => "nxt_color"
  | tacho => "tacho"
  | miniTacho => "mini_tacho"
  | newTacho => "new_tacho"
  | touch => "touch"
  | nxtTest => "nxt_test"
  | nxtIic => "nxt_iic"
  | unknown => "unknown"
  | none => "none"
  | error => "error"

theorem mem_all (device : DeviceType) : device ∈ all := by cases device <;> decide

@[simp] theorem ofCode?_code (device : DeviceType) : ofCode? device.code = some device := by
  cases device <;> rfl

end DeviceType

/-- How a device talks to the brick. -/
inductive Connection where
  /-- Not yet determined. -/
  | unknown
  /-- Legacy colour sensor protocol. -/
  | nxtColor
  /-- Legacy analog sensor. -/
  | nxtDumb
  /-- Legacy IIC sensor. -/
  | nxtIic
  /-- Analog input device. -/
  | inputDumb
  /-- UART input device. -/
  | inputUart
  /-- Analog output device. -/
  | outputDumb
  /-- Intelligent output device. -/
  | outputIntelligent
  /-- Motor with tacho feedback. -/
  | outputTacho
  /-- Nothing plugged. -/
  | none
  /-- Port fault. -/
  | error
  deriving DecidableEq, Repr

namespace Connection

instance : Inhabited Connection := ⟨.none⟩

/-- Every connection, by ascending code. -/
def all : List Connection :=
  [unknown, nxtColor, nxtDumb, nxtIic, inputDumb, inputUart, outputDumb, outputIntelligent,
    outputTacho, none, error]

/-- The published number. -/
def code : Connection → UInt8
  | unknown => 111
  | nxtColor => 118
  | nxtDumb => 119
  | nxtIic => 120
  | inputDumb => 121
  | inputUart => 122
  | outputDumb => 123
  | outputIntelligent => 124
  | outputTacho => 125
  | none => 126
  | error => 127

/-- The connection with a published number. -/
def ofCode? (code : UInt8) : Option Connection := all.find? (·.code == code)

/-- The name in diagnostics. -/
def label : Connection → String
  | unknown => "Unknown"
  | nxtColor => "NxtColor"
  | nxtDumb => "NxtDumb"
  | nxtIic => "NxtIic"
  | inputDumb => "InputDumb"
  | inputUart => "InputUart"
  | outputDumb => "OutputDumb"
  | outputIntelligent => "OutputIntelligent"
  | outputTacho => "OutputTacho"
  | none => "None"
  | error => "Error"

/-- The name in data. -/
def key : Connection → String
  | unknown => "unknown"
  | nxtColor => "nxt_color"
  | nxtDumb => "nxt_dumb"
  | nxtIic => "nxt_iic"
  | inputDumb => "input_dumb"
  | inputUart => "input_uart"
  | outputDumb => "output_dumb"
  | outputIntelligent => "output_intelligent"
  | outputTacho => "output_tacho"
  | none => "none"
  | error => "error"

theorem mem_all (connection : Connection) : connection ∈ all := by cases connection <;> decide

@[simp] theorem ofCode?_code (connection : Connection) :
    ofCode? connection.code = some connection := by
  cases connection <;> rfl

end Connection

/-- The verdict on a port: a kind of device and the way it talks. -/
structure Classification where
  device : DeviceType
  connection : Connection
  deriving DecidableEq, Repr, Inhabited

namespace Classification

/-- Nothing plugged. -/
def none : Classification := ⟨.none, .none⟩

/-- Port fault. -/
def error : Classification := ⟨.error, .error⟩

/-- The classification that a connection code forces, for the codes user space may force. -/
def forced? (code : UInt8) : Option Classification :=
  match Connection.ofCode? code with
  | some .nxtIic => some ⟨.nxtIic, .nxtIic⟩
  | some .nxtDumb => some ⟨.nxtLight, .nxtDumb⟩
  | some .inputDumb => some ⟨.touch, .inputDumb⟩
  | some .none => some Classification.none
  | _ => Option.none

/-- The text of a classification in diagnostics. -/
def describe (c : Classification) : String :=
  "Classification \x7b device: " ++ c.device.label ++ ", connection: " ++ c.connection.label
    ++ " \x7d"

end Classification

end PlugWatch
