/-!
# Voltages and thresholds

Every decision compares a sampled voltage with a threshold. Samples are counts of a 12-bit
converter with a 5 V reference; thresholds are kept in millivolts.

## Main Definitions

* `countsOfMillivolts`, `millivoltsOfCounts` : conversions, both rounding down.
* `within`, `withinUpperOpen` : membership of a closed and of a half-open band.
* `Threshold` : the voltages that separate devices.

| Output pin 5 | Band (mV) | Meaning |
|--------------|-----------|---------|
| near ground | below 100 | short |
| medium motor | 250 up to 450 | floating |
| large motor, new revision | 450 up to 650 | floating |
| light | 650 to 850 | fault |
| intelligent | 850 up to 1150 | intelligent device |
| plain | 1150 up to 2350 | plain actuator |
| balance | 2400 to 2600 | empty port |
| IIC | 2800 to 3700 | fault |
-/

namespace PlugWatch

/-- Reference voltage of the converter, in millivolts. -/
def referenceMillivolts : UInt16 := 5000

/-- Full-scale count of the converter. -/
def fullScale : UInt16 := 4095

/-- The count of a voltage, rounded down. -/
def countsOfMillivolts (mv : UInt16) : UInt16 :=
  (mv.toUInt32 * fullScale.toUInt32 / referenceMillivolts.toUInt32).toUInt16

/-- The voltage of a count, rounded down and kept to 16 bits. -/
def millivoltsOfCounts (counts : UInt16) : UInt16 :=
  (counts.toUInt32 * referenceMillivolts.toUInt32 / fullScale.toUInt32).toUInt16

/-- Whether a voltage lies between two ends, both included. -/
def within (mv low high : UInt16) : Bool := low ≤ mv && mv ≤ high

/-- Whether a voltage lies between two ends, the upper one left out. -/
def withinUpperOpen (mv low high : UInt16) : Bool := low ≤ mv && mv < high

/-- The signed distance from `b` to `a`. -/
def difference (a b : UInt16) : Int := (a.toNat : Int) - (b.toNat : Int)

namespace Threshold

/-- Input pin 1 above this is unloaded. -/
def in1Near5V : UInt16 := 4800

/-- Input pin 1 above this while loaded is shorted to the pin 2 supply. -/
def in1NearPin2 : UInt16 := 3100

/-- Upper edge of the legacy touch window on input pin 1. -/
def in1TouchHigh : UInt16 := 950

/-- Lower edge of the legacy touch window on input pin 1. -/
def in1TouchLow : UInt16 := 850

/-- Input pin 1 below this is grounded. -/
def in1NearGround : UInt16 := 100

/-- Input pin 6 below this is grounded. -/
def in6NearGround : UInt16 := 150

/-- Drift, in counts, that a confirmed touch sensor stays under. -/
def touchTolerance : Int := 10

/-- Upper edge of the IIC band on output pin 5. -/
def out5IicHigh : UInt16 := 3700

/-- Lower edge of the IIC band on output pin 5. -/
def out5IicLow : UInt16 := 2800

/-- Upper edge of the balance band of an empty output port. -/
def out5BalanceHigh : UInt16 := 2600

/-- Lower edge of the balance band of an empty output port. -/
def out5BalanceLow : UInt16 := 2400

/-- Upper edge of the light band on output pin 5. -/
def out5LightHigh : UInt16 := 850

/-- Lower edge of the light band on output pin 5. -/
def out5LightLow : UInt16 := 650

/-- Output pin 5 below this is shorted to ground. -/
def out5NearGround : UInt16 := 100

/-- Upper edge of the plain actuator band. -/
def out5PlainHigh : UInt16 := 2350

/-- Lower edge of the plain actuator band. -/
def out5PlainLow : UInt16 := 1150

/-- Upper edge of the medium motor band while pin 5 is driven. -/
def out5MediumDrivenHigh : UInt16 := 2000

/-- Lower edge of the medium motor band while pin 5 is driven. -/
def out5MediumDrivenLow : UInt16 := 1600

/-- Upper edge of the new large motor band while pin 5 is driven. -/
def out5NewLargeDrivenHigh : UInt16 := 1600

/-- Lower edge of the new large motor band while pin 5 is driven. -/
def out5NewLargeDrivenLow : UInt16 := 1200

/-- Upper edge of the intelligent device band, driven. -/
def out5IntelligentDrivenHigh : UInt16 := 1150

/-- Lower edge of the intelligent device band, driven. -/
def out5IntelligentDrivenLow : UInt16 := 850

/-- Upper edge of the intelligent device band, floating. -/
def out5IntelligentHigh : UInt16 := 1150

/-- Lower edge of the intelligent device band, floating. -/
def out5IntelligentLow : UInt16 := 850

/-- Upper edge of the new large motor band, floating. -/
def out5NewLargeHigh : UInt16 := 650

/-- Lower edge of the new large motor band, floating. -/
def out5NewLargeLow : UInt16 := 450

/-- Upper edge of the medium motor band, floating. -/
def out5MediumHigh : UInt16 := 450

/-- Lower edge of the medium motor band, floating. -/
def out5MediumLow : UInt16 := 250

/-- Two readings of output pin 5 closer than this, in millivolts, are the same. -/
def out5Tolerance : Int := 50

end Threshold

end PlugWatch
