/-!
# Data of legacy colour sensors

A legacy colour sensor answers a command with a block of 54 bytes: twelve calibration factors,
two range limits and a checksum, all little endian.

## Main Definitions

* `Block` : the bytes of an answer.
* `ColorData` : calibration and readings of a sensor.
* `setRaw` : replaces the raw conversion of one colour.
* `ColorData.load` : takes over the calibration in a block.
-/

namespace PlugWatch

/-- The bytes a legacy colour sensor answers with. -/
abbrev Block := Vector UInt8 54

namespace Block

/-- A block of zeros. -/
def zero : Block := Vector.replicate 54 0

/-- The number in two bytes, the low one first. -/
def word16 (low high : UInt8) : UInt16 := low.toUInt16 ||| (high.toUInt16 <<< 8)

/-- The number in four bytes, the lowest one first. -/
def word32 (b0 b1 b2 b3 : UInt8) : UInt32 :=
  b0.toUInt32 ||| (b1.toUInt32 <<< 8) ||| (b2.toUInt32 <<< 16) ||| (b3.toUInt32 <<< 24)

/-- The byte at a place. -/
def byte (block : Block) (i : Fin 54) : UInt8 := block[i]

/-- The calibration factor of a range and a colour. -/
def factor (block : Block) (range : Fin 3) (color : Fin 4) : UInt32 :=
  let place : Nat := 16 * range.val + 4 * color.val
  have : place + 3 < 54 := by omega
  word32 block[place] block[place + 1] block[place + 2] block[place + 3]

end Block

/-- Calibration and readings of a legacy colour sensor. -/
structure ColorData where
  /-- Calibration factors, three ranges by four colours. -/
  calibration : Vector (Vector UInt32 4) 3 := Vector.replicate 3 (Vector.replicate 4 0)
  /-- Limits at which the range changes. -/
  calLimits : Vector UInt16 2 := Vector.replicate 2 0
  /-- Checksum as sent. -/
  crc : UInt16 := 0
  /-- Raw conversions: red, green, blue, blank. -/
  adRaw : Vector UInt16 4 := Vector.replicate 4 0
  /-- Processed readings, in the same order. -/
  sensorRaw : Vector UInt16 4 := Vector.replicate 4 0
  deriving DecidableEq, Repr

/-- Replaces the raw conversion of one colour. -/
def setRaw (raw : Vector UInt16 4) (color : Fin 4) (counts : UInt16) : Vector UInt16 4 :=
  raw.set color counts color.isLt

namespace ColorData

instance : Inhabited ColorData := ⟨{}⟩

/-- Takes over calibration, limits and checksum of a block; the readings stay. -/
def load (data : ColorData) (block : Block) : ColorData :=
  { data with
    calibration := Vector.ofFn fun range => Vector.ofFn fun color => block.factor range color
    calLimits := #v[Block.word16 block[48] block[49], Block.word16 block[50] block[51]]
    crc := Block.word16 block[52] block[53] }

end ColorData

end PlugWatch
