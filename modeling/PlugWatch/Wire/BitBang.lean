import PlugWatch.Hardware.Converter
import PlugWatch.Wire.Bits
/-!
# A converter on four lines

Where no serial bus is at hand the converter hangs on plain lines, and a word is exchanged bit by
bit: the data line takes the bit, the clock rises, the answer line is read, the clock falls.

## Main Definitions

* `Line` : the four lines.
* `LineEvent`, `Wiring` : calls on lines, and simulated lines with a record of all calls.
* `Wire` : what is done on lines, until one fails.
* `Wire.park`, `Wire.exchange` : the idle levels, and the exchange of a word.

## Design Notes

Every call on a line may fail. The exchange releases the select line whatever went wrong before,
and answers the first fault.
-/

namespace PlugWatch

/-- A line to the converter. -/
inductive Line where
  /-- Data to the converter. -/
  | mosi
  /-- Data from the converter. -/
  | miso
  | clock
  /-- Selects the converter while low. -/
  | select
  deriving DecidableEq, Repr

/-- The letter of a line in reports. -/
def Line.letter : Line → String
  | mosi => "M"
  | miso => "I"
  | clock => "K"
  | select => "C"

/-- A call on a line: the level that was set or read, or `none` if the call failed. -/
structure LineEvent where
  line : Line
  level : Option Bool
  deriving DecidableEq, Repr

/-- The text of a call in a trace: the letter of the line and its level, or a mark for a fault. -/
def LineEvent.render (event : LineEvent) : String :=
  event.line.letter ++ (match event.level with
    | some true => "1"
    | some false => "0"
    | none => "!")

/-- Simulated lines. -/
structure Wiring where
  /-- The levels still to be read on the answer line; the line is low behind them. -/
  answers : List Bool := []
  /-- Whether the answer line is wired to the data line instead. -/
  loopback : Bool := false
  /-- The level last set on the data line. -/
  data : Bool := false
  /-- Whether the nth call on a line fails, counted from one. -/
  fails : Line → Nat → Bool := fun _ _ => false
  /-- All calls so far. -/
  events : List LineEvent := []

namespace Wiring

/-- The number that the next call on a line has. -/
def callNumber (wiring : Wiring) (line : Line) : Nat :=
  (wiring.events.filter fun event => event.line = line).length + 1

/-- Whether the next call on a line fails. -/
def failsNext (wiring : Wiring) (line : Line) : Bool :=
  wiring.fails line (wiring.callNumber line)

/-- Records a call. -/
def record (wiring : Wiring) (line : Line) (level : Option Bool) : Wiring :=
  { wiring with events := wiring.events ++ [⟨line, level⟩] }

/-- The level that the next read on the answer line gives. -/
def answer (wiring : Wiring) : Bool :=
  if wiring.loopback then wiring.data else wiring.answers.headD false

end Wiring

/-- What is done on lines; a fault names its line. -/
abbrev Wire := ExceptT Line (StateM Wiring)

namespace Wire

/-- Sets a line to a level. -/
def drive (line : Line) (level : Bool) : Wire Unit := fun wiring =>
  if wiring.failsNext line then (.error line, wiring.record line none)
  else
    let wiring := wiring.record line (some level)
    (.ok (), if line = .mosi then { wiring with data := level } else wiring)

/-- Reads the answer line. -/
def sense : Wire Bool := fun wiring =>
  if wiring.failsNext .miso then (.error .miso, wiring.record .miso none)
  else
    let level := wiring.answer
    let wiring := wiring.record .miso (some level)
    (.ok level, if wiring.loopback then wiring else { wiring with answers := wiring.answers.tail })

/-- Does something and answers how it went, without stopping at a fault. -/
def attempt {α : Type} (action : Wire α) : Wire (Except Line α) := fun wiring =>
  let (result, wiring) := action wiring
  (.ok result, wiring)

/-- Brings all lines to their idle levels: select high, clock and data low. -/
def park : Wire Unit := do
  drive .select true
  drive .clock false
  drive .mosi false

/-- Works through two registers a number of times: the highest bit of the one is put on the data
line and leaves it, and the level read on the answer line is moved into the other, which is the
answer at the end. -/
def shift : Nat → UInt16 → UInt16 → Wire UInt16
  | 0, _, reply => return reply
  | n + 1, out, reply => do
    drive .mosi (out &&& Word.highBit ≠ 0)
    drive .clock true
    let level ← sense
    drive .clock false
    shift n (out <<< 1) (Word.shiftIn reply level)

/-- Exchanges a word while the select line is low. The line is released also when a bit failed,
and the fault of the bit counts before that of the release. -/
def exchange (word : UInt16) : Wire UInt16 := do
  drive .select false
  let reply ← attempt (shift 16 word 0)
  let released ← attempt (drive .select true)
  let reply ← reply
  released
  return reply

end Wire

instance : Converter Wiring Line := ⟨fun wiring word => (Wire.exchange word).run wiring⟩

end PlugWatch
