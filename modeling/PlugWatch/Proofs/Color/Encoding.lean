import PlugWatch.Color.Calibration
/-!
# Calibration as bytes

The calibration of a legacy colour sensor comes in as a block of bytes, the numbers in it little
endian. This file writes the numbers down as bytes again, and proves that nothing of the block gets
lost.

## Main Definitions

* `ColorData.encode` : calibration factors, range limits and checksum as bytes.

## Main Statements

* `ColorData.encode_load` : data that took a block over is encoded as that block.
-/

namespace PlugWatch

/-- The bytes of a number, the low one first. -/
def bytes16 (word : UInt16) : List UInt8 := [word.toUInt8, (word >>> 8).toUInt8]

/-- The bytes of a number, the lowest one first. -/
def bytes32 (word : UInt32) : List UInt8 :=
  [word.toUInt8, (word >>> 8).toUInt8, (word >>> 16).toUInt8, (word >>> 24).toUInt8]

namespace Block

/-- Two bytes are the same if they have the same bits. -/
theorem byte_ext {a b : UInt8} (h : ∀ i < 8, a.toBitVec.getLsbD i = b.toBitVec.getLsbD i) : a = b :=
  UInt8.eq_of_toBitVec_eq (BitVec.eq_of_getLsbD_eq h)

theorem bytes16_word16 (low high : UInt8) : bytes16 (word16 low high) = [low, high] := by
  have hlow : (word16 low high).toUInt8 = low := by
    refine byte_ext fun i hi => ?_
    simp [word16, hi]
  have hhigh : (word16 low high >>> 8).toUInt8 = high := by
    refine byte_ext fun i hi => ?_
    have hplace : 8 + i < 16 ∧ ¬8 + i < 8 ∧ i < 16 := by omega
    simp [word16, hi, hplace]
  rw [bytes16, hlow, hhigh]

theorem bytes32_word32 (b0 b1 b2 b3 : UInt8) :
    bytes32 (word32 b0 b1 b2 b3) = [b0, b1, b2, b3] := by
  have h0 : (word32 b0 b1 b2 b3).toUInt8 = b0 := by
    refine byte_ext fun i hi => ?_
    simp [word32, hi]
  have h1 : (word32 b0 b1 b2 b3 >>> 8).toUInt8 = b1 := by
    refine byte_ext fun i hi => ?_
    have hplace : 8 + i < 32 ∧ 8 + i < 16 ∧ 8 + i < 24 ∧ i < 32 := by omega
    simp [word32, hi, hplace]
  have h2 : (word32 b0 b1 b2 b3 >>> 16).toUInt8 = b2 := by
    refine byte_ext fun i hi => ?_
    have hplace : 16 + i < 32 ∧ 16 + i < 24 ∧ i < 32 := by omega
    have hvacant : 8 ≤ 16 + i ∧ 8 ≤ 16 + i - 8 := by omega
    simp [word32, hi, hplace, hvacant]
  have h3 : (word32 b0 b1 b2 b3 >>> 24).toUInt8 = b3 := by
    refine byte_ext fun i hi => ?_
    have hplace : 24 + i < 32 ∧ i < 32 := by omega
    have hvacant : 8 ≤ 24 + i ∧ 8 ≤ 24 + i - 8 ∧ 8 ≤ 24 + i - 16 := by omega
    simp [word32, hi, hplace, hvacant]
  rw [bytes32, h0, h1, h2, h3]

end Block

namespace ColorData

/-- Calibration factors, range limits and checksum as bytes, in the order in which they come. -/
def encode (data : ColorData) : List UInt8 :=
  (data.calibration.toList.flatMap fun range => range.toList.flatMap bytes32) ++
    data.calLimits.toList.flatMap bytes16 ++ bytes16 data.crc

/-- **Data that took a block over is encoded as that block.** -/
theorem encode_load (data : ColorData) (block : Block) :
    (data.load block).encode = block.toList := by
  have hbytes : block.toList = (List.finRange 54).map block.byte := by
    refine List.ext_getElem (by simp) fun i _ _ => ?_
    simp [Block.byte]
  have hlimits : ∀ first second : UInt16,
      (#v[first, second] : Vector UInt16 2).toList.flatMap bytes16 =
        bytes16 first ++ bytes16 second := by
    intro first second
    simp
  rw [hbytes]
  simp only [encode, load, Vector.toList_ofFn, List.ofFn_succ, List.ofFn_zero, List.flatMap_cons,
    List.flatMap_nil, hlimits, Block.factor, Block.bytes32_word32, Block.bytes16_word16]
  rfl

end ColorData

end PlugWatch
