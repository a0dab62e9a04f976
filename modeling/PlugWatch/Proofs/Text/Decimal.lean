import Mathlib.Algebra.GroupWithZero.Nat
import PlugWatch.Text.Decimal
/-!
# Decimal numbers of a fixed width

## Main Definitions

* `Decimal.padded` : the digits of a number, with zeros in front up to a width.

## Main Statements

* `Decimal.length_padded` : a number with at most so many digits fills its width.
* `Decimal.readDigits_padded` : a padded number is read back.
-/

namespace PlugWatch.Decimal

/-- The decimal digits of a number with zeros in front up to a width. -/
def padded (width n : Nat) : List Char := (paddedPieces width n).flatten

theorem padded_eq (width n : Nat) :
    padded width n = List.replicate (width - (digits n).length) '0' ++ digits n := by
  simp [padded, paddedPieces]

theorem digitValue?_digitChar {d : Nat} (hd : d < 10) : digitValue? (digitChar d) = some d := by
  have h : ∀ d : Fin 10, digitValue? (digitChar d) = some d.val := by decide
  exact h ⟨d, hd⟩

theorem toNat_digitChar_lt {d : Nat} (hd : d < 10) : (digitChar d).toNat < 128 := by
  have h : ∀ d : Fin 10, (digitChar d).toNat < 128 := by decide
  exact h ⟨d, hd⟩

theorem digits_of_lt {n : Nat} (h : n < 10) : digits n = [digitChar n] := by
  rw [digits, if_pos h]

/-- The last digit stands behind those of a tenth. -/
theorem digits_of_le {n : Nat} (h : 10 ≤ n) :
    digits n = digits (n / 10) ++ [digitChar (n % 10)] := by
  rw [digits, if_neg (by omega)]

/-- A number below a power of ten has no more digits than the power says. -/
theorem length_digits_le {n width : Nat} (hwidth : 0 < width) (h : n < 10 ^ width) :
    (digits n).length ≤ width := by
  induction width generalizing n with
  | zero => omega
  | succ width ih =>
    rcases Nat.lt_or_ge n 10 with hsmall | hlarge
    · rw [digits_of_lt hsmall]
      exact hwidth
    · rw [Nat.pow_succ] at h
      have hwidth : 0 < width := by
        rcases width with - | width
        · omega
        · omega
      have hfewer := ih hwidth (show n / 10 < 10 ^ width by omega)
      rw [digits_of_le hlarge, List.length_append]
      exact Nat.succ_le_succ hfewer

/-- A number with at most so many digits fills its width, and nothing more. -/
theorem length_padded {n width : Nat} (hwidth : 0 < width) (h : n < 10 ^ width) :
    (padded width n).length = width := by
  have := length_digits_le hwidth h
  rw [padded_eq, List.length_append, List.length_replicate]
  omega

theorem toNat_lt_of_mem_digits {n : Nat} {c : Char} (hc : c ∈ digits n) : c.toNat < 128 := by
  fun_induction digits n with
  | case1 n h =>
    rw [List.mem_singleton.mp hc]
    exact toNat_digitChar_lt h
  | case2 n h ih =>
    rcases List.mem_append.mp hc with hc | hc
    · exact ih hc
    · rw [List.mem_singleton.mp hc]
      exact toNat_digitChar_lt (Nat.mod_lt _ (by decide))

theorem toNat_lt_of_mem_padded {width n : Nat} {c : Char} (hc : c ∈ padded width n) :
    c.toNat < 128 := by
  rw [padded_eq] at hc
  rcases List.mem_append.mp hc with hc | hc
  · rw [List.eq_of_mem_replicate hc]
    decide
  · exact toNat_lt_of_mem_digits hc

/-! ## Reading back -/

theorem readDigits_append (limit value : Nat) (text more : List Char) :
    readDigits limit value (text ++ more) =
      readDigits limit value text >>= fun value => readDigits limit value more := by
  induction text generalizing value with
  | nil => rfl
  | cons c rest ih =>
    rw [List.cons_append, readDigits, readDigits]
    cases digitValue? c with
    | none => rfl
    | some d =>
      dsimp only
      split
      · exact ih _
      · rfl

/-- One more digit at the end. -/
theorem readDigits_digitChar {limit value d : Nat} (hd : d < 10) (h : 10 * value + d ≤ limit) :
    readDigits limit value [digitChar d] = .ok (10 * value + d) := by
  rw [readDigits, digitValue?_digitChar hd]
  dsimp only
  rw [if_pos h, readDigits]

theorem readDigits_digits {limit n : Nat} (h : n ≤ limit) :
    readDigits limit 0 (digits n) = .ok n := by
  fun_induction digits n with
  | case1 n hsmall =>
    have hlast : 10 * 0 + n ≤ limit := by omega
    simpa using readDigits_digitChar hsmall hlast
  | case2 n hlarge ih =>
    have hlast : 10 * (n / 10) + n % 10 ≤ limit := by omega
    rw [readDigits_append, ih (by omega)]
    have hread := readDigits_digitChar (Nat.mod_lt n (by decide)) hlast
    rwa [Nat.div_add_mod] at hread

/-- Zeros in front count for nothing. -/
theorem readDigits_replicate_zero (limit n : Nat) :
    readDigits limit 0 (List.replicate n '0') = .ok 0 := by
  induction n with
  | zero => rfl
  | succ n ih =>
    rw [List.replicate_succ, readDigits, show digitValue? '0' = some 0 from rfl]
    simpa using ih

/-- A padded number is read back. -/
theorem readDigits_padded {limit n : Nat} (width : Nat) (h : n ≤ limit) :
    readDigits limit 0 (padded width n) = .ok n := by
  rw [padded_eq, readDigits_append, readDigits_replicate_zero]
  exact readDigits_digits h

end PlugWatch.Decimal
