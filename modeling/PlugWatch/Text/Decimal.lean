/-!
# Decimal numbers in text

## Main Definitions

* `Decimal.digits` : the decimal digits of a number, without leading zeros.
* `Decimal.paddedPieces` : the same, filled with zeros up to a width.
* `Decimal.readUnsigned` : reads a bounded number with an optional plus sign.
* `Decimal.readSigned` : reads a bounded number that may also be written as minus zero.
* `Decimal.Defect` : why a text is not a number, with its wording.
-/

namespace PlugWatch.Decimal

/-- The character of a digit below ten. -/
def digitChar (d : Nat) : Char := Char.ofNat ('0'.toNat + d)

/-- The value of a decimal digit. -/
def digitValue? (c : Char) : Option Nat :=
  if '0' ≤ c ∧ c ≤ '9' then some (c.toNat - '0'.toNat) else none

/-- The decimal digits of a number, most significant first. -/
def digits (n : Nat) : List Char :=
  if n < 10 then [digitChar n] else digits (n / 10) ++ [digitChar (n % 10)]
termination_by n

/-- The decimal digits of a number with zeros in front up to a width, in the pieces in which they are
written: each zero for itself, and then the digits. -/
def paddedPieces (width n : Nat) : List (List Char) :=
  let ds := digits n
  List.replicate (width - ds.length) ['0'] ++ [ds]

/-- Why a text is not a number. -/
inductive Defect where
  | empty
  | invalidDigit
  | tooLarge
  deriving DecidableEq, Repr

/-- The wording of a defect. -/
def Defect.message : Defect → String
  | .empty => "cannot parse integer from empty string"
  | .invalidDigit => "invalid digit found in string"
  | .tooLarge => "number too large to fit in target type"

/-- Reads the rest of a number digit by digit: the first digit that is none, or that carries the
number past the limit, decides the defect. -/
def readDigits (limit : Nat) : Nat → List Char → Except Defect Nat
  | value, [] => .ok value
  | value, c :: rest =>
    match digitValue? c with
    | none => .error .invalidDigit
    | some d =>
      if 10 * value + d ≤ limit then readDigits limit (10 * value + d) rest
      else .error .tooLarge

/-- Reads a number up to `limit`: decimal digits with an optional plus sign in front. -/
def readUnsigned (limit : Nat) : List Char → Except Defect Nat
  | [] => .error .empty
  | ['+'] => .error .invalidDigit
  | '+' :: rest => readDigits limit 0 rest
  | text => readDigits limit 0 text

/-- Reads a number from zero to `limit` that may carry either sign; behind a minus only zero is
in range. -/
def readSigned (limit : Nat) : List Char → Except Defect Nat
  | '-' :: rest =>
    if rest = [] then .error .invalidDigit else readDigits 0 0 rest
  | text => readUnsigned limit text

end PlugWatch.Decimal
