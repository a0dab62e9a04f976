import PlugWatch.Bench.Converter
import PlugWatch.Bench.Plug
/-!
# The test bench

Board and converter together, as far as a test sets them up.

## Main Definitions

* `Bench` : a board and its converter.
* `Bench.plug` : plugs a device.
-/

namespace PlugWatch

/-- A board and its converter. -/
structure Bench where
  board : Board := {}
  adc : BenchConverter := { adc := .empty }

namespace Bench

/-- Changes the lines of an input port. -/
def modifyInput (bench : Bench) (port : Port) (f : InputLines → InputLines) : Bench :=
  { bench with board := bench.board.modifyInputLines port f }

/-- Changes the lines of an output port. -/
def modifyOutput (bench : Bench) (port : Port) (f : OutputLines → OutputLines) : Bench :=
  { bench with board := bench.board.modifyOutputLines port f }

/-- Changes the channels of the converter. -/
def mapAdc (bench : Bench) (f : Multiplexer → Multiplexer) : Bench :=
  { bench with adc := bench.adc.mapAdc f }

/-- Plugs a device. -/
def plug (bench : Bench) (plug : Plug) : Bench :=
  { bench.mapAdc plug.plugAnalog with board := plug.plugBoard bench.board }

/-- Sets the first slots of the converter. -/
def setSlots (bench : Bench) (counts : List UInt16) : Bench :=
  bench.mapAdc fun adc =>
    ((List.finRange 16).zip counts).foldl (fun adc (slot, n) => adc.setSlot slot n) adc

/-- The lines of an input port. -/
def inputLines (bench : Bench) (port : Port) : InputLines := (bench.board.inputs.get port).lines

/-- The lines of an output port. -/
def outputLines (bench : Bench) (port : Port) : OutputLines :=
  (bench.board.outputs.get port).lines

end Bench

end PlugWatch
