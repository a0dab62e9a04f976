import Mathlib.Data.Nat.Digits.Defs
import PlugWatch.Proofs.Text.Decimal
/-!
# Which texts are unsigned numbers

A number is read digit by digit against a limit, and the first character that is no digit or leads past the
limit ends the reading. What is accepted that way has nothing to do with the order of these checks: it is
at least one digit, perhaps behind a plus sign, and the digits write a number up to the limit. Zeros in
front do not matter, however many there are.

## Main Definitions

* `Decimal.Unsigned` : a text of digits with an optional plus sign, and the number it writes.

## Main Statements

* `Decimal.readDigits_eq_ok_iff` : what is read behind the digits that have been read.
* `Decimal.readUnsigned_eq_ok_iff` : what a bounded number is read from.
-/

namespace PlugWatch.Decimal

/-- Decimal digits, at least one and perhaps behind a plus sign, write a number. -/
def Unsigned (text : List Char) (n : Nat) : Prop :=
  ∃ ds : List Nat, ds ≠ [] ∧ (∀ d ∈ ds, d < 10) ∧ n = Nat.ofDigits 10 ds.reverse ∧
    (text = ds.map digitChar ∨ text = '+' :: ds.map digitChar)

/-- A character is read as a digit exactly if it is the character of that digit. -/
theorem digitValue?_eq_some_iff {c : Char} {d : Nat} :
    digitValue? c = some d ↔ d < 10 ∧ c = digitChar d := by
  constructor
  · intro h
    unfold digitValue? at h
    split at h
    · rename_i hrange
      cases h
      have hlow : 48 ≤ c.toNat := hrange.1
      have hhigh : c.toNat ≤ 57 := hrange.2
      have hzero : '0'.toNat = 48 := rfl
      refine ⟨by omega, ?_⟩
      rw [digitChar, Nat.add_sub_cancel' (show '0'.toNat ≤ c.toNat from hlow), Char.ofNat_toNat]
    · cases h
  · rintro ⟨hd, rfl⟩
    exact digitValue?_digitChar hd

theorem digitChar_ne_plus {d : Nat} (hd : d < 10) : digitChar d ≠ '+' := by
  have h : ∀ d : Fin 10, digitChar d ≠ '+' := by decide
  exact h ⟨d, hd⟩

/-- The first digit counts as often as the power of ten that the others make room for. -/
theorem ofDigits_reverse_cons (d : Nat) (ds : List Nat) :
    Nat.ofDigits 10 (d :: ds).reverse = 10 ^ ds.length * d + Nat.ofDigits 10 ds.reverse := by
  rw [List.reverse_cons, Nat.ofDigits_append, Nat.ofDigits_singleton, List.length_reverse,
    Nat.add_comm]

/-- Behind a value that is in range digits are read exactly if the number that they go on to is. -/
theorem readDigits_eq_ok_iff {limit value n : Nat} (hvalue : value ≤ limit) {text : List Char} :
    readDigits limit value text = .ok n ↔
      n ≤ limit ∧ ∃ ds : List Nat, (∀ d ∈ ds, d < 10) ∧ text = ds.map digitChar ∧
        n = 10 ^ ds.length * value + Nat.ofDigits 10 ds.reverse := by
  induction text generalizing value with
  | nil =>
    rw [readDigits]
    constructor
    · intro h
      cases h
      exact ⟨hvalue, [], by simp, rfl, by simp⟩
    · rintro ⟨-, ds, -, htext, rfl⟩
      rw [List.nil_eq, List.map_eq_nil_iff] at htext
      subst htext
      simp
  | cons c rest ih =>
    rw [readDigits]
    constructor
    · intro h
      cases hdigit : digitValue? c with
      | none =>
        rw [hdigit] at h
        cases h
      | some d =>
        obtain ⟨hd, rfl⟩ := digitValue?_eq_some_iff.mp hdigit
        rw [hdigit] at h
        dsimp only at h
        split at h
        · rename_i hmore
          obtain ⟨hlimit, ds, hds, rfl, rfl⟩ := (ih hmore).mp h
          refine ⟨hlimit, d :: ds, ?_, rfl, ?_⟩
          · simpa using ⟨hd, hds⟩
          · rw [ofDigits_reverse_cons, List.length_cons, Nat.pow_succ]
            ring
        · cases h
    · rintro ⟨hlimit, ds, hds, htext, rfl⟩
      obtain ⟨d, ds, rfl, rfl, rfl⟩ := List.map_eq_cons_iff.mp htext.symm
      obtain ⟨hd, hds⟩ := List.forall_mem_cons.mp hds
      have hnumber : 10 ^ (d :: ds).length * value + Nat.ofDigits 10 (d :: ds).reverse =
          10 ^ ds.length * (10 * value + d) + Nat.ofDigits 10 ds.reverse := by
        rw [ofDigits_reverse_cons, List.length_cons, Nat.pow_succ]
        ring
      -- what the digits go on to is no smaller than what they have come to
      have hmore : 10 * value + d ≤ limit :=
        calc 10 * value + d ≤ 10 ^ ds.length * (10 * value + d) :=
              Nat.le_mul_of_pos_left _ (Nat.pow_pos (by decide))
          _ ≤ 10 ^ ds.length * (10 * value + d) + Nat.ofDigits 10 ds.reverse := Nat.le_add_right _ _
          _ ≤ limit := hnumber ▸ hlimit
      rw [digitValue?_digitChar hd]
      dsimp only
      rw [if_pos hmore, ih hmore, hnumber]
      exact ⟨hnumber ▸ hlimit, ds, hds, rfl, rfl⟩

/-- **A bounded number is read from a text exactly if the text is an unsigned number up to the bound.** -/
theorem readUnsigned_eq_ok_iff {limit n : Nat} {text : List Char} :
    readUnsigned limit text = .ok n ↔ Unsigned text n ∧ n ≤ limit := by
  have hread : ∀ {text : List Char}, readDigits limit 0 text = .ok n ↔
      n ≤ limit ∧ ∃ ds : List Nat, (∀ d ∈ ds, d < 10) ∧ text = ds.map digitChar ∧
        n = Nat.ofDigits 10 ds.reverse := by
    intro text
    rw [readDigits_eq_ok_iff (Nat.zero_le _)]
    simp
  constructor
  · intro h
    unfold readUnsigned at h
    split at h
    · cases h
    · cases h
    · rename_i rest hrest
      obtain ⟨hlimit, ds, hds, rfl, hn⟩ := hread.mp h
      refine ⟨⟨ds, ?_, hds, hn, .inr rfl⟩, hlimit⟩
      rintro rfl
      exact hrest rfl
    · rename_i hsome _ _
      obtain ⟨hlimit, ds, hds, htext, hn⟩ := hread.mp h
      refine ⟨⟨ds, ?_, hds, hn, .inl htext⟩, hlimit⟩
      rintro rfl
      exact hsome htext
  · rintro ⟨⟨ds, hsome, hds, hn, htext⟩, hlimit⟩
    have hdigits := hread.mpr ⟨hlimit, ds, hds, rfl, hn⟩
    obtain ⟨d, ds, rfl⟩ := List.exists_cons_of_ne_nil hsome
    have hplus := digitChar_ne_plus (hds d List.mem_cons_self)
    rcases htext with rfl | rfl
    · unfold readUnsigned
      split
      · contradiction
      · rename_i hsign
        exact absurd (List.head_eq_of_cons_eq hsign) hplus
      · rename_i hsign
        exact absurd (List.head_eq_of_cons_eq hsign) hplus
      · exact hdigits
    · exact hdigits

end PlugWatch.Decimal
