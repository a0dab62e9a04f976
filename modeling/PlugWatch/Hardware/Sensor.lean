/-!
# Simulated colour sensor

A simulated legacy colour sensor listens on the two digital lines of an input port. At each rising
edge of the clock line it takes a command bit, if the data line is driven, and otherwise presents
the next bit of its answer, once a whole command byte has been seen.

## Main Definitions

* `Sensor` : the answer bytes, the number of bits presented and the command bits taken.
* `Sensor.onRisingEdge` : what the sensor does at a rising clock edge.
-/

namespace PlugWatch

/-- A simulated legacy colour sensor. -/
structure Sensor where
  /-- The bytes of the answer, presented again and again, lowest bit first. -/
  answer : Array UInt8 := #[]
  /-- Number of answer bits presented so far. -/
  sent : Nat := 0
  /-- Command bits taken so far, in order. -/
  command : Array Bool := #[]
  deriving DecidableEq, Repr

namespace Sensor

/-- The bit of the answer presented at a count of bits. -/
def answerBit? (sensor : Sensor) (n : Nat) : Option Bool :=
  (sensor.answer[n / 8 % sensor.answer.size]?).map fun byte => byte.toNat.testBit (n % 8)

/-- What the sensor does at a rising clock edge when the data line is driven to a level (`some`)
or released (`none`): the sensor afterwards, and the level it presents from then on, if it
presents a new one. -/
def onRisingEdge (sensor : Sensor) : Option Bool → Sensor × Option Bool
  | some bit => ({ sensor with command := sensor.command.push bit }, none)
  | none =>
    if sensor.command.size < 8 then (sensor, none)
    else
      match sensor.answerBit? sensor.sent with
      | none => (sensor, none)
      | some bit => ({ sensor with sent := sensor.sent + 1 }, some bit)

end Sensor

end PlugWatch
