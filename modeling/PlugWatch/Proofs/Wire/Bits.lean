import Mathlib.Data.List.GetD
import Mathlib.Data.List.Induction
import Mathlib.Data.Nat.Bitwise
import PlugWatch.Wire.Bits
/-!
# Words and their bits

## Main Statements

* `Word.bits_ofBits` : sixteen bits are the bits of the word that they write.
* `Word.ofBits_bits` : the bits of a word write it.
* `Word.topBits_succ` : a word that is moved up shows its bits one behind the other on top.
-/

namespace PlugWatch

namespace Word

@[simp]
theorem length_bits (word : UInt16) : (bits word).length = 16 := by
  simp [bits]

theorem ofBits_concat (before : List Bool) (bit : Bool) :
    ofBits (before ++ [bit]) = (ofBits before <<< 1) ||| (if bit then 1 else 0) := by
  simp [ofBits, shiftIn]

/-- A bit that is taken in becomes the lowest one, and all others move up. -/
theorem testBit_shiftIn (word : UInt16) (bit : Bool) (i : Nat) (hi : i < 16) :
    ((word <<< 1) ||| (if bit then 1 else 0)).toNat.testBit i =
      if i = 0 then bit else word.toNat.testBit (i - 1) := by
  have hin : (if bit then 1 else 0 : UInt16).toNat = bit.toNat := by cases bit <;> rfl
  rw [UInt16.toNat_or, UInt16.toNat_shiftLeft, hin, Nat.testBit_or, Nat.testBit_mod_two_pow]
  rcases i with - | i
  · cases bit <;> simp
  · have hhigh : bit.toNat.testBit (i + 1) = false := by cases bit <;> simp [Nat.testBit_succ]
    simp [hi, hhigh]

theorem testBit_ofBits (written : List Bool) (i : Nat) (hi : i < 16) :
    (ofBits written).toNat.testBit i = written.reverse.getD i false := by
  induction written using List.reverseRecOn generalizing i with
  | nil => simp [ofBits]
  | append_singleton before bit ih =>
    rw [ofBits_concat, testBit_shiftIn _ _ _ hi]
    rcases i with - | i
    · simp
    · simpa using ih i (by omega)

/-- Sixteen bits are the bits of the word that they write. -/
theorem bits_ofBits {written : List Bool} (hlength : written.length = 16) :
    bits (ofBits written) = written := by
  refine List.ext_getElem (by simp [hlength]) fun i hi hi' => ?_
  have hi16 : i < 16 := by rwa [hlength] at hi'
  simp only [bits, List.getElem_map, List.getElem_range]
  rw [testBit_ofBits _ _ (by omega),
    List.getD_eq_getElem _ _ (by simp [hlength]; omega), List.getElem_reverse]
  congr 1
  omega

/-- Words with the same bits are equal. -/
theorem eq_of_bits_eq {word other : UInt16} (h : bits word = bits other) : word = other := by
  refine UInt16.toNat_inj.mp (Nat.eq_of_testBit_eq fun i => ?_)
  by_cases hi : i < 16
  · have hbit := List.getElem_of_eq h (i := 15 - i) (by simp; omega)
    have hplace : 15 - (15 - i) = i := by omega
    simpa [bits, hplace] using hbit
  · have hhigh : ∀ word : UInt16, word.toNat.testBit i = false := fun word =>
      Nat.testBit_lt_two_pow
        (Nat.lt_of_lt_of_le word.toNat_lt (Nat.pow_le_pow_right (by decide) (Nat.not_lt.mp hi)))
    rw [hhigh, hhigh]

/-- The bits of a word write it. -/
theorem ofBits_bits (word : UInt16) : ofBits (bits word) = word :=
  eq_of_bits_eq (bits_ofBits (length_bits word))

/-! ### Bits that leave a word at its top -/

/-- The highest bits of a word, the most significant first. -/
def topBits (n : Nat) (word : UInt16) : List Bool :=
  (List.range n).map fun i => word.toNat.testBit (15 - i)

theorem and_highBit (word : UInt16) : decide (word &&& highBit ≠ 0) = word.toNat.testBit 15 := by
  have hand : (word &&& highBit).toNat = (word.toNat.testBit 15).toNat * 2 ^ 15 := by
    rw [UInt16.toNat_and, ← Nat.and_two_pow]
    rfl
  have hset : word &&& highBit ≠ 0 ↔ word.toNat.testBit 15 = true := by
    rw [← UInt16.toNat_inj.ne, hand]
    cases word.toNat.testBit 15 <;> decide
  rw [Bool.eq_iff_iff, decide_eq_true_iff, hset]

theorem testBit_shiftLeft_one (word : UInt16) (i : Nat) (hi : i < 15) :
    (word <<< 1).toNat.testBit (i + 1) = word.toNat.testBit i := by
  simpa using testBit_shiftIn word false (i + 1) (by omega)

/-- A word that is moved up shows its bits one behind the other on top. -/
theorem topBits_succ {n : Nat} (hn : n < 16) (word : UInt16) :
    topBits (n + 1) word = decide (word &&& highBit ≠ 0) :: topBits n (word <<< 1) := by
  rw [and_highBit, topBits, topBits, List.range_succ_eq_map, List.map_cons, List.map_map]
  refine congrArg _ (List.map_congr_left fun i hi => ?_)
  have hi : i < n := List.mem_range.mp hi
  have hplace : 15 - i = 15 - (i + 1) + 1 := by omega
  rw [Function.comp_apply, hplace, testBit_shiftLeft_one _ _ (by omega)]

end Word

end PlugWatch
