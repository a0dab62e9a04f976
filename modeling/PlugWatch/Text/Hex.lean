/-!
# Hexadecimal text

## Main Definitions

* `Hex.digits` : the lower-case hexadecimal digits of a number.
* `Hex.byte`, `Hex.encode` : two digits for each byte.
* `Hex.digitValue?` : the value of a digit of either case.
* `Hex.decode?` : reads bytes back.
-/

namespace PlugWatch.Hex

/-- The lower-case character of a digit below sixteen. -/
def digitChar (d : Nat) : Char :=
  if d < 10 then Char.ofNat ('0'.toNat + d) else Char.ofNat ('a'.toNat + (d - 10))

/-- The value of a hexadecimal digit of either case. -/
def digitValue? (c : Char) : Option Nat :=
  if '0' ≤ c ∧ c ≤ '9' then some (c.toNat - '0'.toNat)
  else if 'a' ≤ c ∧ c ≤ 'f' then some (c.toNat - 'a'.toNat + 10)
  else if 'A' ≤ c ∧ c ≤ 'F' then some (c.toNat - 'A'.toNat + 10)
  else none

/-- The hexadecimal digits of a number, most significant first. -/
def digits (n : Nat) : List Char :=
  if n < 16 then [digitChar n] else digits (n / 16) ++ [digitChar (n % 16)]
termination_by n

/-- A byte as two digits. -/
def byte (b : UInt8) : List Char := [digitChar (b.toNat / 16), digitChar (b.toNat % 16)]

/-- Bytes as text, two digits each. -/
def encode (bytes : List UInt8) : String := String.ofList (bytes.flatMap byte)

/-- The bytes that pairs of digits name. -/
def decodeChars? : List Char → Option (List UInt8)
  | [] => some []
  | [_] => none
  | a :: b :: rest => do
    let high ← digitValue? a
    let low ← digitValue? b
    let bytes ← decodeChars? rest
    return UInt8.ofNat (16 * high + low) :: bytes

/-- Reads bytes written as two digits each. -/
def decode? (text : String) : Option (List UInt8) := decodeChars? text.toList

end PlugWatch.Hex
