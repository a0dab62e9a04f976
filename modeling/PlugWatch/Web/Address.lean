import PlugWatch.Text.Decimal
import PlugWatch.Text.Hex
/-!
# Internet addresses

## Main Definitions

* `IpAddress` : an address of either length.
* `IpAddress.parse?` : reads the usual notations.
* `IpAddress.render`, `SocketAddress.render` : the canonical notations.

## Design Notes

A long address is read as groups between colons: eight groups, or at most seven around one gap
`::`, which stands for as many zero groups as are missing. The last two groups may be written as a
short address. In the canonical notation the gap takes the first of the longest runs of two or more
zero groups, and addresses that embed a short one are written with it.
-/

namespace PlugWatch

/-- A short address: four bytes. -/
structure Ipv4 where
  a : UInt8
  b : UInt8
  c : UInt8
  d : UInt8
  deriving DecidableEq, Repr, Inhabited

/-- A long address: eight groups of 16 bits. -/
abbrev Ipv6 := Vector UInt16 8

/-- An address of either length. -/
inductive IpAddress where
  | v4 (address : Ipv4)
  | v6 (groups : Ipv6)
  deriving DecidableEq, Repr

/-- The pieces of a text between separators. -/
def piecesAt (separator : Char) : List Char → List (List Char)
  | [] => [[]]
  | c :: rest =>
    if c = separator then [] :: piecesAt separator rest
    else
      match piecesAt separator rest with
      | first :: others => (c :: first) :: others
      | [] => [[c]]

/-! ## Reading -/

namespace Ipv4

/-- A byte of a short address: up to three decimal digits without leading zeros. -/
def part? (text : List Char) : Option UInt8 := do
  let ds ← text.mapM Decimal.digitValue?
  let value := ds.foldl (fun n d => 10 * n + d) 0
  if ds.isEmpty || (ds.length > 1 && ds.head? = some 0) || value > 255 then none
  else some (UInt8.ofNat value)

/-- Reads four bytes with dots between them. -/
def parse? (text : List Char) : Option Ipv4 :=
  match piecesAt '.' text with
  | [a, b, c, d] => return ⟨← part? a, ← part? b, ← part? c, ← part? d⟩
  | _ => none

/-- The address as two groups of a long one. -/
def groups (address : Ipv4) : List UInt16 :=
  [address.a.toUInt16 * 256 + address.b.toUInt16, address.c.toUInt16 * 256 + address.d.toUInt16]

/-- The notation with dots. -/
def render (address : Ipv4) : List Char :=
  Decimal.digits address.a.toNat ++ '.' :: Decimal.digits address.b.toNat ++
    '.' :: Decimal.digits address.c.toNat ++ '.' :: Decimal.digits address.d.toNat

end Ipv4

namespace Ipv6

/-- A group: one to four hexadecimal digits. -/
def group? (text : List Char) : Option UInt16 := do
  let ds ← text.mapM Hex.digitValue?
  if ds.isEmpty || ds.length > 4 then none
  else some (UInt16.ofNat (ds.foldl (fun n d => 16 * n + d) 0))

/-- Groups that may end with a short address. -/
def tail? : List (List Char) → Option (List UInt16)
  | [] => some []
  | [last] =>
    match Ipv4.parse? last with
    | some address => some address.groups
    | none => (group? last).map ([·])
  | piece :: rest => return (← group? piece) :: (← tail? rest)

/-- The groups in a text, without or with a short address at the end; an empty text has none. -/
def groups? (endsShort : Bool) (text : List Char) : Option (List UInt16) :=
  if text.isEmpty then some []
  else if endsShort then tail? (piecesAt ':' text)
  else (piecesAt ':' text).mapM group?

/-- The texts before and behind the first gap. -/
def splitAtGap? : List Char → Option (List Char × List Char)
  | ':' :: ':' :: rest => some ([], rest)
  | c :: rest => (splitAtGap? rest).map fun (head, tail) => (c :: head, tail)
  | [] => none

/-- Eight groups as an address. -/
def ofGroups? (groups : List UInt16) : Option Ipv6 :=
  if h : groups.length = 8 then some ⟨groups.toArray, by simpa using h⟩ else none

/-- Reads the notation with colons. -/
def parse? (text : List Char) : Option Ipv6 :=
  match splitAtGap? text with
  | none => do ofGroups? (← groups? true text)
  | some (head, tail) => do
    let head ← groups? false head
    let tail ← groups? true tail
    if head.length + tail.length ≤ 7 then
      ofGroups? (head ++ List.replicate (8 - (head.length + tail.length)) 0 ++ tail)
    else none

/-! ## Canonical notation -/

/-- The number of zero groups in front. -/
def zeroRun (groups : List UInt16) : Nat := (groups.takeWhile (· = 0)).length

/-- Start and length of the first of the longest runs of zero groups. -/
def longestZeroRun : List UInt16 → Nat × Nat
  | [] => (0, 0)
  | group :: rest =>
    let here := zeroRun (group :: rest)
    let (start, length) := longestZeroRun rest
    if length ≤ here then (0, here) else (start + 1, length)

/-- Groups with colons between them. -/
def renderGroups (groups : List UInt16) : List Char :=
  [':'].intercalate (groups.map fun group => Hex.digits group.toNat)

/-- The canonical notation. -/
def render (address : Ipv6) : List Char :=
  match address.toList with
  | [0, 0, 0, 0, 0, 0xffff, high, low] =>
    let short : Ipv4 := ⟨(high / 256).toUInt8, high.toUInt8, (low / 256).toUInt8, low.toUInt8⟩
    "::ffff:".toList ++ short.render
  | groups =>
    let (start, length) := longestZeroRun groups
    if length > 1 then
      renderGroups (groups.take start) ++ [':', ':'] ++ renderGroups (groups.drop (start + length))
    else renderGroups groups

end Ipv6

namespace IpAddress

/-- The address of all interfaces. -/
def any : IpAddress := .v4 ⟨0, 0, 0, 0⟩

/-- Reads an address of either length. -/
def parse? (text : List Char) : Option IpAddress :=
  ((Ipv4.parse? text).map .v4).or ((Ipv6.parse? text).map .v6)

end IpAddress

/-- An address and a TCP port. -/
structure SocketAddress where
  ip : IpAddress
  port : UInt16
  deriving DecidableEq, Repr

/-- The notation of an address with its port: long addresses stand in brackets. -/
def SocketAddress.render (address : SocketAddress) : String :=
  let host := match address.ip with
    | .v4 ip => ip.render
    | .v6 ip => '[' :: ip.render ++ [']']
  String.ofList (host ++ ':' :: Decimal.digits address.port.toNat)

end PlugWatch
