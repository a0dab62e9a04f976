/-!
# Connect conditions

What a watch sees on a released port: a set of conditions, each a sign that something is plugged.

## Main Definitions

* `Conditions` : a set of conditions.
* `Conditions.contains`, `Conditions.union`, `Conditions.isEmpty` : the set operations.
* `Conditions.bits` : the set as a bit pattern in diagnostics.
* `recount` : the count of ticks for which a watch has seen a set.
-/

namespace PlugWatch

/-- A set of connect conditions. -/
structure Conditions where
  /-- Input pin 2 is low. -/
  pin2Low : Bool := false
  /-- Input pin 5 is low. -/
  pin5Low : Bool := false
  /-- Input pin 6 is high. -/
  pin6High : Bool := false
  /-- Output pin 6 is low. -/
  pin6Low : Bool := false
  /-- Input pin 1 is loaded, or output pin 5 is out of balance. -/
  loaded : Bool := false
  deriving DecidableEq, Repr, Inhabited

namespace Conditions

/-- No condition. -/
def none : Conditions := {}

/-- Whether every condition of `b` is in `a`. -/
def contains (a b : Conditions) : Bool :=
  (!b.pin2Low || a.pin2Low) && (!b.pin5Low || a.pin5Low) && (!b.pin6High || a.pin6High)
    && (!b.pin6Low || a.pin6Low) && (!b.loaded || a.loaded)

/-- The conditions of either set. -/
def union (a b : Conditions) : Conditions where
  pin2Low := a.pin2Low || b.pin2Low
  pin5Low := a.pin5Low || b.pin5Low
  pin6High := a.pin6High || b.pin6High
  pin6Low := a.pin6Low || b.pin6Low
  loaded := a.loaded || b.loaded

/-- Whether there is no condition. -/
def isEmpty (a : Conditions) : Bool := a = none

/-- The bit pattern of a set. -/
def bits (a : Conditions) : UInt8 :=
  (if a.pin2Low then 2 else 0) + (if a.pin5Low then 4 else 0) + (if a.pin6High then 8 else 0)
    + (if a.pin6Low then 16 else 0) + (if a.loaded then 64 else 0)

end Conditions

/-- The count with which a watch goes on when it sees a set: a set that differs from the last one starts
the count anew. -/
def recount (last now : Conditions) (timer : UInt16) : UInt16 := if now = last then timer else 0

end PlugWatch
