import PlugWatch.Detection.Conditions
import PlugWatch.Detection.Stage
import PlugWatch.Device
import PlugWatch.Threshold
/-!
# Classification rules

A table is a list of rules read from top to bottom; the first rule whose test holds decides. Every
table ends with a rule that always holds, so there is always a decision.

## Main Definitions

* `Rule`, `firstMatch` : a row of a table, and the choice among rows.
* `legacyRules` : input pin 2 was pulled low.
* `loadedRules` : input pin 1 was loaded.
* `outputRules` : output pin 5 left the balance band, or pin 6 went low.
* `drivenRules` : output pin 5 was measured again while driven.
-/

namespace PlugWatch

/-- One row of a table: what it is called, when it holds and what it decides. -/
structure Rule (Probe Verdict : Type) where
  name : String
  holds : Probe → Bool
  verdict : Verdict

/-- The first row that holds. -/
def firstMatch {Probe Verdict : Type} (rules : List (Rule Probe Verdict)) (probe : Probe) :
    Option (Rule Probe Verdict) :=
  rules.find? fun rule => rule.holds probe

/-! ## Input pin 2 pulled low -/

/-- An input port seen when its pin 2 was pulled low. -/
structure LegacyProbe where
  conditions : Conditions
  /-- Pin 1, in counts. -/
  pin1 : UInt16
  deriving DecidableEq, Repr

namespace LegacyProbe

/-- Pin 1 is grounded. -/
def grounded (p : LegacyProbe) : Bool := p.pin1 < countsOfMillivolts Threshold.in1NearGround

/-- Pin 1 is unloaded. -/
def unloaded (p : LegacyProbe) : Bool := countsOfMillivolts Threshold.in1Near5V < p.pin1

/-- Pin 1 is inside the touch window. -/
def inTouchWindow (p : LegacyProbe) : Bool :=
  countsOfMillivolts Threshold.in1TouchLow < p.pin1
    && p.pin1 < countsOfMillivolts Threshold.in1TouchHigh

end LegacyProbe

/-- What a legacy rule decides: a classification, if it is settled, and the stage to go on in. -/
structure LegacyVerdict where
  classification : Option Classification
  next : Stage
  deriving DecidableEq, Repr

namespace LegacyVerdict

/-- A settled classification of a device that is watched through pin 2. -/
def settled (device : DeviceType) (connection : Connection) : LegacyVerdict :=
  ⟨some ⟨device, connection⟩, .connectedWaitingForPin2High⟩

/-- A colour sensor that is to be asked for its calibration. -/
def colorSession : LegacyVerdict := ⟨some ⟨.nxtColor, .nxtColor⟩, .nxtColorInit⟩

end LegacyVerdict

/-- Identification of legacy sensors. -/
def legacyRules : List (Rule LegacyProbe LegacyVerdict) :=
  [{ name := "color sensor, pin 6 high"
     holds := fun p => !p.conditions.pin5Low && p.conditions.pin6High && p.grounded
     verdict := .colorSession },
   { name := "legacy iic"
     holds := fun p => !p.conditions.pin5Low && p.conditions.pin6High
     verdict := .settled .nxtIic .nxtIic },
   { name := "legacy test fixture"
     holds := fun p => p.conditions.pin5Low && p.conditions.pin6High
     verdict := .settled .nxtTest .nxtDumb },
   { name := "legacy light"
     holds := fun p => p.conditions.pin5Low
     verdict := .settled .nxtLight .nxtDumb },
   { name := "color sensor"
     holds := fun p => p.grounded
     verdict := .colorSession },
   { name := "legacy touch, released"
     holds := fun p => p.unloaded
     verdict := .settled .nxtTouch .nxtDumb },
   { name := "legacy touch, pressed"
     holds := fun p => p.inTouchWindow
     verdict := ⟨none, .nxtTouchCheck⟩ },
   { name := "legacy sound"
     holds := fun _ => true
     verdict := .settled .nxtSound .nxtDumb }]

/-! ## Input pin 1 loaded -/

/-- An input port seen when its pin 1 was loaded. -/
structure LoadedProbe where
  /-- Pin 1, in counts. -/
  pin1 : UInt16
  deriving DecidableEq, Repr

/-- Identification of input devices that load pin 1. -/
def loadedRules : List (Rule LoadedProbe Classification) :=
  [{ name := "pin 1 near pin 2 supply"
     holds := fun p => countsOfMillivolts Threshold.in1NearPin2 < p.pin1
     verdict := .error },
   { name := "uart device"
     holds := fun p => p.pin1 < countsOfMillivolts Threshold.in1NearGround
     verdict := ⟨.unknown, .inputUart⟩ },
   { name := "analog device"
     holds := fun _ => true
     verdict := ⟨.unknown, .inputDumb⟩ }]

/-! ## Output ports -/

/-- An output port after both measurements of pin 5. -/
structure OutputProbe where
  /-- Pin 5 with the port released, in millivolts. -/
  floatMv : UInt16
  /-- Pin 5 after the settle time, in millivolts. -/
  lowMv : UInt16
  /-- Pin 6 was low while the conditions were held. -/
  pin6Low : Bool
  deriving DecidableEq, Repr

namespace OutputProbe

/-- Both measurements agree. -/
def steady (p : OutputProbe) : Bool :=
  -Threshold.out5Tolerance < difference p.floatMv p.lowMv
    && difference p.floatMv p.lowMv < Threshold.out5Tolerance

/-- Both measurements agree on a level below the balance band. -/
def belowBalance (p : OutputProbe) : Bool := p.steady && p.floatMv < Threshold.out5BalanceLow

end OutputProbe

/-- Which measurement of pin 5 an actuator publishes. -/
inductive Pin5Sample where
  /-- The first one, with the port released. -/
  | float
  /-- The second one. -/
  | low
  deriving DecidableEq, Repr

/-- The measurement of a probe. -/
def Pin5Sample.of (p : OutputProbe) : Pin5Sample → UInt16
  | .float => p.floatMv
  | .low => p.lowMv

/-- What an output rule decides. -/
inductive OutputVerdict where
  /-- Publish a classification. -/
  | connect (classification : Classification)
  /-- A plain actuator, which publishes its level on pin 5. -/
  | actuator (sample : Pin5Sample)
  /-- Drive pin 5 and measure again. -/
  | probeDriven
  deriving DecidableEq, Repr

/-- Identification of output devices. -/
def outputRules : List (Rule OutputProbe OutputVerdict) :=
  [{ name := "input device on output port"
     holds := fun p => p.steady
       && within p.floatMv Threshold.out5BalanceLow Threshold.out5BalanceHigh && p.pin6Low
     verdict := .connect .error },
   { name := "pin 5 shorted"
     holds := fun p => p.steady && p.floatMv < Threshold.out5NearGround
     verdict := .connect .error },
   { name := "legacy light on output port"
     holds := fun p => p.steady
       && within p.floatMv Threshold.out5LightLow Threshold.out5LightHigh
     verdict := .connect .error },
   { name := "legacy iic on output port"
     holds := fun p => p.steady && within p.floatMv Threshold.out5IicLow Threshold.out5IicHigh
     verdict := .connect .error },
   { name := "dumb actuator"
     holds := fun p => p.belowBalance
       && withinUpperOpen p.floatMv Threshold.out5PlainLow Threshold.out5PlainHigh
     verdict := .actuator .float },
   { name := "intelligent device"
     holds := fun p => p.belowBalance
       && withinUpperOpen p.floatMv Threshold.out5IntelligentLow Threshold.out5IntelligentHigh
     verdict := .connect ⟨.unknown, .outputIntelligent⟩ },
   { name := "large motor, new revision"
     holds := fun p => p.belowBalance
       && withinUpperOpen p.floatMv Threshold.out5NewLargeLow Threshold.out5NewLargeHigh
     verdict := .connect ⟨.newTacho, .outputTacho⟩ },
   { name := "medium motor"
     holds := fun p => p.belowBalance
       && withinUpperOpen p.floatMv Threshold.out5MediumLow Threshold.out5MediumHigh
     verdict := .connect ⟨.miniTacho, .outputTacho⟩ },
   { name := "large motor"
     holds := fun p => p.belowBalance
     verdict := .connect ⟨.tacho, .outputTacho⟩ },
   { name := "pin 5 high, probe driven"
     holds := fun p => p.steady
     verdict := .probeDriven },
   { name := "actuator"
     holds := fun p => Threshold.out5NearGround < p.lowMv && p.lowMv < Threshold.out5BalanceLow
     verdict := .actuator .low },
   { name := "unstable pin 5"
     holds := fun _ => true
     verdict := .connect .error }]

/-- An output port whose pin 5 was measured while driven. -/
structure DrivenProbe where
  /-- Pin 5, in millivolts. -/
  lowMv : UInt16
  deriving DecidableEq, Repr

/-- Identification of motors by the driven measurement. -/
def drivenRules : List (Rule DrivenProbe Classification) :=
  [{ name := "large motor, new revision"
     holds := fun p =>
       withinUpperOpen p.lowMv Threshold.out5NewLargeDrivenLow Threshold.out5NewLargeDrivenHigh
     verdict := ⟨.newTacho, .outputTacho⟩ },
   { name := "medium motor"
     holds := fun p =>
       withinUpperOpen p.lowMv Threshold.out5MediumDrivenLow Threshold.out5MediumDrivenHigh
     verdict := ⟨.miniTacho, .outputTacho⟩ },
   { name := "large motor"
     holds := fun _ => true
     verdict := ⟨.tacho, .outputTacho⟩ }]

end PlugWatch
