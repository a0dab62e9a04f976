import PlugWatch.Port
/-!
# Sample slots

The sampler keeps the latest count of sixteen logical slots.

| Slots | Content |
|-------|---------|
| 0 to 3 | input pin 1 |
| 4 to 7 | input pin 6 |
| 8 to 11 | output pin 5 |
| 12 to 15 | battery temperature, motor current, battery current, cell voltage |

## Main Definitions

* `Slot` : a logical slot.
* `Samples` : the latest count of each slot.
* `PowerChannel` : the slots that belong to no port.
-/

namespace PlugWatch

/-- A logical slot of the sampler. -/
abbrev Slot := Fin 16

-- the literals below find this proof and make none of their own
instance Slot.instNeZero : @NeZero Nat Zero.ofOfNat0 16 := ⟨by decide⟩

namespace Slot

/-- The first of the slots that are read one per cycle. -/
def slowBase : Slot := 8

/-- Input pin 1 of a port. -/
def inPin1 : Port → Slot
  | .p1 => 0
  | .p2 => 1
  | .p3 => 2
  | .p4 => 3

/-- Input pin 6 of a port. -/
def inPin6 : Port → Slot
  | .p1 => 4
  | .p2 => 5
  | .p3 => 6
  | .p4 => 7

/-- Output pin 5 of a port. -/
def outPin5 : Port → Slot
  | .p1 => 8
  | .p2 => 9
  | .p3 => 10
  | .p4 => 11

/-- The slow slot read after this one: upwards, and from the last slot back to the first slow
one. -/
def nextSlow (slot : Slot) : Slot :=
  if h : slot.val + 1 < 16 then ⟨slot.val + 1, h⟩ else slowBase

end Slot

/-- Readings that belong to the brick and not to a port. -/
inductive PowerChannel where
  | batteryTemperature
  | motorCurrent
  | batteryCurrent
  | cellVoltage
  deriving DecidableEq, Repr

namespace PowerChannel

/-- The channels in slot order. -/
def all : List PowerChannel := [batteryTemperature, motorCurrent, batteryCurrent, cellVoltage]

/-- The slot of a channel. -/
def slot : PowerChannel → Slot
  | batteryTemperature => 12
  | motorCurrent => 13
  | batteryCurrent => 14
  | cellVoltage => 15

end PowerChannel

/-- The latest count of each slot. -/
structure Samples where
  raw : Vector UInt16 16 := Vector.replicate 16 0
  deriving DecidableEq, Repr

namespace Samples

instance : Inhabited Samples := ⟨{}⟩

/-- The count of a slot. -/
def get (samples : Samples) (slot : Slot) : UInt16 := samples.raw[slot]

/-- Stores a count. -/
def set (samples : Samples) (slot : Slot) (counts : UInt16) : Samples :=
  { samples with raw := samples.raw.set slot counts }

/-- Input pin 1 of a port. -/
def inPin1 (samples : Samples) (port : Port) : UInt16 := samples.get (.inPin1 port)

/-- Input pin 6 of a port. -/
def inPin6 (samples : Samples) (port : Port) : UInt16 := samples.get (.inPin6 port)

/-- Output pin 5 of a port. -/
def outPin5 (samples : Samples) (port : Port) : UInt16 := samples.get (.outPin5 port)

/-- A reading that belongs to no port. -/
def power (samples : Samples) (channel : PowerChannel) : UInt16 := samples.get channel.slot

/-- The counts in slot order. -/
def toList (samples : Samples) : List UInt16 := samples.raw.toList

@[simp] theorem get_set_self (samples : Samples) (slot : Slot) (counts : UInt16) :
    (samples.set slot counts).get slot = counts := by
  simp [get, set]

theorem get_set_ne (samples : Samples) {slot other : Slot} (counts : UInt16)
    (h : other ≠ slot) : (samples.set slot counts).get other = samples.get other := by
  have hv : slot.val ≠ other.val := fun e => h (Fin.ext e.symm)
  simp [get, set, hv]

end Samples

end PlugWatch
