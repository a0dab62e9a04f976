import PlugWatch.Color.Calibration
import PlugWatch.Device
import PlugWatch.Hardware.Lines
import PlugWatch.Sampling.FastLog
import PlugWatch.Sampling.Samples
/-!
# The board

Everything that the jobs share, gathered port by port: the lines of a port, what is published
about it, and the handshake by which sampler and watch agree on a colour command.

## Main Definitions

* `ColorHandshake` : the colour state of one port.
* `InputSocket`, `OutputSocket` : all that belongs to one port.
* `Board` : the sockets of both sides, the samples and the count of sampler cycles.

## Design Notes

A socket holds what belongs to its port and nothing else, so a step that is given one socket can
read and change that port only.
-/

namespace PlugWatch

/-- The colour state of one input port, shared between the sampler and the port's watch. The watch
writes `active` and `command`; the sampler takes the command over into `latched` when it serves
the port, and copies `active` to `clocking` once per cycle. -/
structure ColorHandshake where
  /-- A session completed; the port is in colour mode. -/
  active : Bool := false
  /-- The command asked for. -/
  command : UInt8 := 0
  /-- The command the sampler has taken over. -/
  latched : UInt8 := 0
  /-- The sampler may clock pin 5. -/
  clocking : Bool := false
  deriving DecidableEq, Repr, Inhabited

/-- Whether the sampler has taken over the command that is asked for. -/
def ColorHandshake.settled (handshake : ColorHandshake) : Bool :=
  handshake.command = handshake.latched

/-- All that belongs to one input port. -/
structure InputSocket where
  lines : InputLines := .empty
  /-- The published classification. -/
  verdict : Classification := .none
  handshake : ColorHandshake := {}
  /-- Data of a legacy colour sensor. -/
  color : ColorData := {}
  /-- The latest readings of pin 1 and pin 6. -/
  log : FastLog := {}
  /-- Set by every completed sampler cycle. -/
  updated : Bool := false

instance : Inhabited InputSocket := ⟨{}⟩

/-- All that belongs to one output port. -/
structure OutputSocket where
  lines : OutputLines := .empty
  /-- The published classification. -/
  verdict : Classification := .none
  /-- The level on pin 5 that a plain actuator publishes, in millivolts. -/
  actuatorMv : UInt16 := 0

instance : Inhabited OutputSocket := ⟨{}⟩

/-- Everything that the jobs share. -/
structure Board where
  inputs : PerPort InputSocket := .const {}
  outputs : PerPort OutputSocket := .const {}
  samples : Samples := {}
  /-- Number of sampler cycles begun, in 32 bits. -/
  cycles : UInt32 := 0

instance : Inhabited Board := ⟨{}⟩

namespace Board

/-- Whether some port is in colour mode. -/
def anyActive (board : Board) : Bool := board.inputs.any fun socket => socket.handshake.active

/-- Changes the lines of an input port. -/
@[inline] def modifyInputLines (board : Board) (port : Port) (f : InputLines → InputLines) :
    Board :=
  { board with
    inputs := board.inputs.modify port fun socket => { socket with lines := f socket.lines } }

/-- Changes the lines of an output port. -/
@[inline] def modifyOutputLines (board : Board) (port : Port) (f : OutputLines → OutputLines) :
    Board :=
  { board with
    outputs := board.outputs.modify port fun socket => { socket with lines := f socket.lines } }

/-- Changes an input socket. -/
def modifyInput (board : Board) (port : Port) (f : InputSocket → InputSocket) : Board :=
  { board with inputs := board.inputs.modify port f }

/-- Changes the handshake of an input port. -/
def modifyHandshake (board : Board) (port : Port) (f : ColorHandshake → ColorHandshake) : Board :=
  board.modifyInput port fun socket => { socket with handshake := f socket.handshake }

/-- Sets a sample. -/
def setSample (board : Board) (slot : Slot) (counts : UInt16) : Board :=
  { board with samples := board.samples.set slot counts }

/-- Number of drive calls on all pins so far. -/
def writes (board : Board) : Nat :=
  let onInputs := board.inputs.toList.foldl (fun sum socket => sum + socket.lines.writes) 0
  board.outputs.toList.foldl (fun sum socket => sum + socket.lines.writes) onInputs

end Board

end PlugWatch
