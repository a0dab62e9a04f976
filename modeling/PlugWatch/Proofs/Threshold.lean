import PlugWatch.Threshold
/-!
# Where two roundings meet

A sample is compared with a threshold as a count or as a voltage, and both conversions round down. So
the two comparisons can differ only at the count that the threshold itself converts to, whose voltage may
lie below the threshold.

## Main Statements

* `toNat_countsOfMillivolts`, `toNat_millivoltsOfCounts` : the conversions as divisions of numbers.
* `millivoltsOfCounts_le` : a count up to that of a threshold has a voltage up to the threshold.
* `le_millivoltsOfCounts` : a count beyond that of a threshold has a voltage of the threshold or more.
-/

namespace PlugWatch

variable {counts mv : UInt16}

theorem toNat_countsOfMillivolts (mv : UInt16) :
    (countsOfMillivolts mv).toNat = mv.toNat * 4095 / 5000 := by
  have hmv := mv.toNat_lt
  unfold countsOfMillivolts
  rw [UInt32.toNat_toUInt16, UInt32.toNat_div, UInt32.toNat_mul, UInt16.toNat_toUInt32]
  show mv.toNat * 4095 % 2 ^ 32 / 5000 % 2 ^ 16 = _
  rw [Nat.mod_eq_of_lt (show mv.toNat * 4095 < 2 ^ 32 by omega), Nat.mod_eq_of_lt (by omega)]

/-- The voltage of a count that the reference covers is not cut to 16 bits. -/
theorem toNat_millivoltsOfCounts (hcounts : counts ≤ fullScale) :
    (millivoltsOfCounts counts).toNat = counts.toNat * 5000 / 4095 := by
  rw [UInt16.le_iff_toNat_le, show fullScale.toNat = 4095 from rfl] at hcounts
  unfold millivoltsOfCounts
  rw [UInt32.toNat_toUInt16, UInt32.toNat_div, UInt32.toNat_mul, UInt16.toNat_toUInt32]
  show counts.toNat * 5000 % 2 ^ 32 / 4095 % 2 ^ 16 = _
  rw [Nat.mod_eq_of_lt (show counts.toNat * 5000 < 2 ^ 32 by omega), Nat.mod_eq_of_lt (by omega)]

theorem millivoltsOfCounts_le (hfull : counts ≤ fullScale) (hcounts : counts ≤ countsOfMillivolts mv) :
    millivoltsOfCounts counts ≤ mv := by
  rw [UInt16.le_iff_toNat_le, toNat_countsOfMillivolts] at hcounts
  rw [UInt16.le_iff_toNat_le, toNat_millivoltsOfCounts hfull]
  omega

theorem le_millivoltsOfCounts (hfull : counts ≤ fullScale) (hcounts : countsOfMillivolts mv < counts) :
    mv ≤ millivoltsOfCounts counts := by
  rw [UInt16.lt_iff_toNat_lt, toNat_countsOfMillivolts] at hcounts
  rw [UInt16.le_iff_toNat_le, toNat_millivoltsOfCounts hfull]
  omega

end PlugWatch
