import PlugWatch.Hardware.Converter
import PlugWatch.Wire.Bits
/-!
# A converter on a serial bus

A serial bus exchanges frames of two bytes and sees to the lines itself.

## Main Definitions

* `SerialDevice` : anything that answers frames, possibly with a fault.
* `FramedConverter` : the converter behind such a device.
* `RecordingDevice` : a simulated device that records what is sent.
-/

namespace PlugWatch

/-- A device on a serial bus: one transfer answers a frame or fails. -/
class SerialDevice (δ : Type) (ε : outParam Type) where
  transfer : δ → Frame → Except ε Frame × δ

/-- The converter behind a serial device. -/
structure FramedConverter (δ : Type) where
  device : δ

namespace FramedConverter

variable {δ ε : Type}

/-- Exchanges a word as a frame. -/
def exchange [SerialDevice δ ε] (adc : FramedConverter δ) (word : UInt16) :
    Except ε UInt16 × FramedConverter δ :=
  match SerialDevice.transfer adc.device (Frame.ofWord word) with
  | (.ok reply, device) => (.ok reply.word, ⟨device⟩)
  | (.error fault, device) => (.error fault, ⟨device⟩)

instance [SerialDevice δ ε] : Converter (FramedConverter δ) ε := ⟨exchange⟩

end FramedConverter

/-- The fault of the simulated device. -/
inductive TransferFault where
  | overrun
  deriving DecidableEq, Repr

/-- A simulated device that records what is sent. -/
structure RecordingDevice where
  /-- The replies still to be given; behind them the device answers zeros. -/
  replies : List UInt16 := []
  /-- The frames that were taken. -/
  frames : List Frame := []
  /-- The number of frames behind which one transfer fails. -/
  failsAt : Option Nat := none
  deriving DecidableEq, Repr

namespace RecordingDevice

/-- Takes a frame and gives the next reply, unless the transfer is the one to fail. -/
def transfer (device : RecordingDevice) (frame : Frame) :
    Except TransferFault Frame × RecordingDevice :=
  if device.failsAt = some device.frames.length then
    (.error .overrun, { device with failsAt := none })
  else
    (.ok (Frame.ofWord (device.replies.headD 0)),
      { device with
        replies := device.replies.tail
        frames := device.frames ++ [frame] })

instance : SerialDevice RecordingDevice TransferFault := ⟨transfer⟩

end RecordingDevice

end PlugWatch
