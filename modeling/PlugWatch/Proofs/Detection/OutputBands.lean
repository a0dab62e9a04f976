import PlugWatch.Proofs.Detection.OutputTick
/-!
# What the output table decides

The table by which an output port identifies its device has twelve rows that overlap, mix closed bands
with half-open ones and look at two measurements. What a row means depends on all the rows above it.
This file says what the whole table means: measurements that disagree are judged by the second one
alone, and measurements that agree by the first one, whose voltages fall into twelve bands.

## Main Definitions

* `OutputVerdict.ofLevel` : the verdict on measurements that agree, band by band.
* `OutputVerdict.ofDrop` : the verdict on measurements that disagree.

## Main Statements

* `OutputProbe.decide_of_steady`, `OutputProbe.decide_of_unsteady` : the table on either kind of probe.
* `OutputProbe.output_table_decides` : the table decides always, and as it is meant to.
-/

namespace PlugWatch

/-! ## Comparisons as comparisons of numbers -/

theorem within_iff {mv low high : UInt16} :
    within mv low high = true ↔ low.toNat ≤ mv.toNat ∧ mv.toNat ≤ high.toNat := by
  rw [within, Bool.and_eq_true, decide_eq_true_eq, decide_eq_true_eq, UInt16.le_iff_toNat_le,
    UInt16.le_iff_toNat_le]

theorem withinUpperOpen_iff {mv low high : UInt16} :
    withinUpperOpen mv low high = true ↔ low.toNat ≤ mv.toNat ∧ mv.toNat < high.toNat := by
  rw [withinUpperOpen, Bool.and_eq_true, decide_eq_true_eq, decide_eq_true_eq,
    UInt16.le_iff_toNat_le, UInt16.lt_iff_toNat_lt]

/-- What a table decides, row by row. -/
theorem verdict_firstMatch_cons {Probe Verdict : Type} (first : Rule Probe Verdict)
    (rules : List (Rule Probe Verdict)) (probe : Probe) :
    (firstMatch (first :: rules) probe).map Rule.verdict =
      if first.holds probe = true then some first.verdict
      else (firstMatch rules probe).map Rule.verdict := by
  rw [firstMatch_cons]
  split <;> rfl

/-! ## What the table is meant to decide -/

/-- The verdict on two measurements that agree, by the voltage of the first one. In the balance band it
depends on pin 6. -/
def OutputVerdict.ofLevel (mv : Nat) (pin6Low : Bool) : OutputVerdict :=
  if mv < 100 then .connect .error
  else if mv < 250 then .connect ⟨.tacho, .outputTacho⟩
  else if mv < 450 then .connect ⟨.miniTacho, .outputTacho⟩
  else if mv < 650 then .connect ⟨.newTacho, .outputTacho⟩
  else if mv ≤ 850 then .connect .error
  else if mv < 1150 then .connect ⟨.unknown, .outputIntelligent⟩
  else if mv < 2350 then .actuator .float
  else if mv < 2400 then .connect ⟨.tacho, .outputTacho⟩
  else if mv ≤ 2600 then if pin6Low then .connect .error else .probeDriven
  else if mv < 2800 then .probeDriven
  else if mv ≤ 3700 then .connect .error
  else .probeDriven

/-- The verdict on two measurements that disagree, by the voltage of the second one. -/
def OutputVerdict.ofDrop (mv : Nat) : OutputVerdict :=
  if 100 < mv ∧ mv < 2400 then .actuator .low else .connect .error

namespace OutputProbe

/-! ## What the table decides -/

theorem steady_iff (p : OutputProbe) :
    p.steady = true ↔ ((p.floatMv.toNat : Int) - p.lowMv.toNat).natAbs < 50 := by
  rw [steady, Bool.and_eq_true, decide_eq_true_eq, decide_eq_true_eq, Threshold.out5Tolerance,
    difference]
  omega

/-- On measurements that disagree only the last two rows count. -/
theorem decide_of_unsteady {p : OutputProbe} (hsteady : p.steady = false) :
    (firstMatch outputRules p).map Rule.verdict = some (.ofDrop p.lowMv.toNat) := by
  simp only [outputRules, verdict_firstMatch_cons, belowBalance, hsteady, Bool.false_and,
    Bool.false_eq_true, if_false, Bool.and_eq_true, decide_eq_true_eq, UInt16.lt_iff_toNat_lt,
    Threshold.out5NearGround, Threshold.out5BalanceLow, UInt16.reduceToNat, if_true,
    OutputVerdict.ofDrop]
  exact (apply_ite some _ _ _).symm

/-- On measurements that agree the first of them decides, by the band that it is in. -/
theorem decide_of_steady {p : OutputProbe} (hsteady : p.steady = true) :
    (firstMatch outputRules p).map Rule.verdict =
      some (.ofLevel p.floatMv.toNat p.pin6Low) := by
  simp only [outputRules, verdict_firstMatch_cons, belowBalance, hsteady, Bool.true_and,
    Bool.and_eq_true, within_iff, withinUpperOpen_iff, decide_eq_true_eq, UInt16.lt_iff_toNat_lt,
    if_true, Threshold.out5BalanceLow, Threshold.out5BalanceHigh, Threshold.out5NearGround,
    Threshold.out5LightLow, Threshold.out5LightHigh, Threshold.out5IicLow, Threshold.out5IicHigh,
    Threshold.out5PlainLow, Threshold.out5PlainHigh, Threshold.out5IntelligentLow,
    Threshold.out5IntelligentHigh, Threshold.out5NewLargeLow, Threshold.out5NewLargeHigh,
    Threshold.out5MediumLow, Threshold.out5MediumHigh, UInt16.reduceToNat]
  generalize p.floatMv.toNat = mv
  have hband : mv < 100 ∨ (100 ≤ mv ∧ mv < 250) ∨ (250 ≤ mv ∧ mv < 450) ∨
      (450 ≤ mv ∧ mv < 650) ∨ (650 ≤ mv ∧ mv ≤ 850) ∨ (850 < mv ∧ mv < 1150) ∨
      (1150 ≤ mv ∧ mv < 2350) ∨ (2350 ≤ mv ∧ mv < 2400) ∨ (2400 ≤ mv ∧ mv ≤ 2600) ∨
      (2600 < mv ∧ mv < 2800) ∨ (2800 ≤ mv ∧ mv ≤ 3700) ∨ 3700 < mv := by
    omega
  unfold OutputVerdict.ofLevel
  -- in each band every row above the deciding one is refuted by the band
  cases p.pin6Low <;> simp only [and_true, and_false, if_true, if_false, Bool.false_eq_true] <;>
    rcases hband with h | h | h | h | h | h | h | h | h | h | h | h <;>
      simp (disch := omega) only [if_pos, if_neg]

/-- **The output table decides always, and as it is meant to.** Whatever the two measurements are and
whether pin 6 is low or not, some row holds, and the first one that does gives the verdict of the band
of the first measurement if they are less than 50 mV apart, and that of the second measurement if they
are not. -/
theorem output_table_decides (floatMv lowMv : UInt16) (pin6Low : Bool) :
    ∃ rule, firstMatch outputRules ⟨floatMv, lowMv, pin6Low⟩ = some rule ∧
      rule.verdict =
        if ((floatMv.toNat : Int) - lowMv.toNat).natAbs < 50 then
          .ofLevel floatMv.toNat pin6Low
        else .ofDrop lowMv.toNat := by
  let probe : OutputProbe := ⟨floatMv, lowMv, pin6Low⟩
  have hdecides : (firstMatch outputRules probe).map Rule.verdict =
      some (if ((floatMv.toNat : Int) - lowMv.toNat).natAbs < 50 then
        .ofLevel floatMv.toNat pin6Low else .ofDrop lowMv.toNat) := by
    cases hsteady : probe.steady with
    | true => rw [if_pos (probe.steady_iff.mp hsteady), decide_of_steady hsteady]
    | false =>
      have happart : ¬((floatMv.toNat : Int) - lowMv.toNat).natAbs < 50 := fun hclose =>
        Bool.false_ne_true (hsteady.symm.trans (probe.steady_iff.mpr hclose))
      rw [if_neg happart, decide_of_unsteady hsteady]
  exact Option.map_eq_some_iff.mp hdecides

/-- Two measurements of 1250 and 1200 mV are one step too far apart to agree. -/
example : (firstMatch outputRules ⟨1250, 1200, false⟩).map Rule.verdict = some (.actuator .low) := by
  decide

end OutputProbe

end PlugWatch
