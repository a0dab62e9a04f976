import PlugWatch.Json.Token
/-!
# The size of written numbers

Some readers set numbers aside in 64-bit floating point before they know what the numbers are for,
and turn down those that are too large for that. Such a reader keeps the leading digits that fit
into a word, and multiplies them by a power of ten. Each of the three numbers is rounded, so a
number close to the limit may be turned down although the nearest one in floating point is finite.

## Main Definitions

* `Scaled` : a number as kept digits and a power of ten.
* `Scaled.ofDecimal` : keeps the digits of a decimal number.
* `roundToPrecision` : the nearest number in floating point.
* `Scaled.isTooLarge` : the test.
* `Json.isPlain` : a value all of whose names, texts and numbers can be set aside.

## Main Statements

* `roundToPrecision_of_lt` : numbers of at most 53 bits are kept.
-/

namespace PlugWatch

/-- The nearest number of 53 significant bits; of two that are equally near the even one. -/
def roundToPrecision (n : Nat) : Nat :=
  let unit := Nat.pow 2 (n.log2 + 1 - 53)
  let below := n / unit
  let rest := n % unit
  if unit < 2 * rest || (unit = 2 * rest && below % 2 = 1) then (below + 1) * unit
  else below * unit

theorem roundToPrecision_of_lt {n : Nat} (h : n < Nat.pow 2 53) : roundToPrecision n = n := by
  have hlog : n.log2 + 1 - 53 = 0 := by
    by_cases hn : n = 0
    · subst hn
      rfl
    · have := (Nat.log2_lt hn).2 h
      omega
  simp [roundToPrecision, hlog, Nat.mod_one]

/-- The number `significand * 10 ^ exponent`. -/
structure Scaled where
  significand : Nat
  exponent : Int
  deriving DecidableEq, Repr

namespace Scaled

/-- The largest significand that is kept. -/
def maxSignificand : Nat := UInt64.size - 1

/-- Appends digits to a significand as long as it can be kept; answers the digits left over. -/
def keepDigits (significand : Nat) : List Char → Nat × List Char
  | [] => (significand, [])
  | c :: rest =>
    let longer := 10 * significand + Json.valueOf [c]
    if longer ≤ maxSignificand then keepDigits longer rest else (significand, c :: rest)

/-- The number with the given digits before and behind the point, and an exponent. A digit before
the point that is not kept raises the exponent, one behind it is dropped. -/
def ofDecimal (whole fraction : List Char) (exponent : Int) : Scaled :=
  let (significand, wholeLeft) := keepDigits 0 whole
  let (significand, fractionLeft) := keepDigits significand fraction
  ⟨significand, wholeLeft.length - (fraction.length - fractionLeft.length) + exponent⟩

/-- The largest power of ten in 64-bit floating point. -/
def maxExponent : Int := 308

/-- Whether the conversion of a number to 64-bit floating point does not stay finite: no power of ten is
large enough, or the product reaches the first number beyond. Dividing never makes a number too large. -/
def isTooLarge (x : Scaled) : Bool :=
  if x.significand = 0 || x.exponent < 0 then false
  else if maxExponent < x.exponent then true
  else
    Nat.pow 2 1024 ≤ roundToPrecision
      (roundToPrecision x.significand * roundToPrecision (Nat.pow 10 x.exponent.toNat))

end Scaled

namespace Json

/-- The value of an exponent: digits with an optional sign. -/
def exponentOf : List Char → Int
  | '-' :: rest => -(valueOf rest)
  | '+' :: rest => valueOf rest
  | text => valueOf text

/-- The magnitude of a written number; its sign is passed over. -/
def scaledOf (text : List Char) : Scaled :=
  let unsigned := match text with
    | '-' :: rest => rest
    | _ => text
  let whole := unsigned.takeWhile isDigit
  let behind := unsigned.dropWhile isDigit
  let (fraction, behind) := match behind with
    | '.' :: rest => (rest.takeWhile isDigit, rest.dropWhile isDigit)
    | _ => ([], behind)
  let exponent : Int := match behind with
    | _ :: rest => exponentOf rest
    | [] => 0
  .ofDecimal whole fraction exponent

mutual

/-- Whether all names and texts in a value name characters and no number in it is too large. -/
def isPlain : Json → Bool
  | null | bool _ => true
  | nat n => !(Scaled.ofDecimal (Decimal.digits n) [] 0).isTooLarge
  | decimal text => !(scaledOf text).isTooLarge
  | str text => text.isSome
  | list items => arePlainItems items
  | record fields => arePlainFields fields

/-- Whether all items are plain. -/
def arePlainItems : List Json → Bool
  | [] => true
  | item :: rest => isPlain item && arePlainItems rest

/-- Whether all fields have a name and a plain value. -/
def arePlainFields : List (Option String × Json) → Bool
  | [] => true
  | (name, value) :: rest => name.isSome && isPlain value && arePlainFields rest

end

end Json

end PlugWatch
