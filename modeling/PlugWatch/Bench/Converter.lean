import PlugWatch.Hardware.Converter
/-!
# The converter of a test bench

A simulated converter that keeps record of the words it is sent, and that can be told to fail
after a number of exchanges.

## Main Definitions

* `BenchConverter` : the converter with its record and its countdown.
* `BenchConverter.exchange` : records a word, counts down, and passes the word on.
* `BenchConverter.scheduleFault` : sets the fault switch and the countdown.
-/

namespace PlugWatch

/-- A simulated converter under test. -/
structure BenchConverter where
  adc : Multiplexer
  /-- Number of exchanges that still work before the fault switch is set, if that is planned. -/
  failAfter : Option Nat := none
  /-- The words sent since the record was taken, those that failed included. -/
  words : Array UInt16 := #[]

namespace BenchConverter

/-- Counts an exchange down; where the count has run out the fault switch is set. -/
def countDown (bench : BenchConverter) : BenchConverter :=
  match bench.failAfter with
  | none => bench
  | some 0 => { bench with adc := { bench.adc with failing := true } }
  | some (n + 1) => { bench with failAfter := some n }

/-- Records a word, counts down, and passes the word on. -/
def exchange (bench : BenchConverter) (word : UInt16) :
    Except BusFault UInt16 × BenchConverter :=
  let ⟨adc, failAfter, words⟩ := bench.countDown
  let (result, adc) := adc.exchange word
  (result, ⟨adc, failAfter, words.push word⟩)

instance : Converter BenchConverter BusFault := ⟨exchange⟩

/-- Changes the converter underneath. -/
def mapAdc (bench : BenchConverter) (f : Multiplexer → Multiplexer) : BenchConverter :=
  { bench with adc := f bench.adc }

/-- Sets the fault switch and the countdown. -/
def scheduleFault (bench : BenchConverter) (on : Bool) (after : Option Nat) : BenchConverter :=
  { bench with adc := { bench.adc with failing := on }, failAfter := after }

/-- Takes the record of words and starts a new one. -/
def takeWords (bench : BenchConverter) : Array UInt16 × BenchConverter :=
  (bench.words, { bench with words := #[] })

end BenchConverter

end PlugWatch
