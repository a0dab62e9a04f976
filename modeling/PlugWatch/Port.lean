/-!
# Ports, pins and drives

The brick has four input ports and four output ports that share one numbering. Each port has five
pins, named here by their role, and each pin is either driven to a level or released.

## Main Definitions

* `Port` : one of the four ports of either side.
* `PerPort` : one value for each port, with `get`, `set` and `modify`.
* `InputRole`, `OutputRole` : the pins of an input port and of an output port.
* `InputPins`, `OutputPins` : one value for each pin of a port.
* `Drive` : what is done to a pin.

## Design Notes

A table over ports or pins is a record with one field per key, so reading back what was written
holds by computation, and writing at one key leaves the others alone.
-/

namespace PlugWatch

/-- One of the four ports of a side; whether it is an input or an output is said by its use. -/
inductive Port where
  | p1
  | p2
  | p3
  | p4
  deriving DecidableEq, Repr, Inhabited

namespace Port

/-- The ports in numbering order. -/
def all : List Port := [p1, p2, p3, p4]

/-- The position of a port, counted from zero. -/
def index : Port → Nat
  | p1 => 0
  | p2 => 1
  | p3 => 2
  | p4 => 3

/-- The port at a position counted from zero. -/
def ofIndex? : Nat → Option Port
  | 0 => some p1
  | 1 => some p2
  | 2 => some p3
  | 3 => some p4
  | _ => none

/-- The number printed on the brick, counted from one. -/
def number (port : Port) : Nat := port.index + 1

/-- The name of a port in data and in diagnostics. -/
def label : Port → String
  | p1 => "P1"
  | p2 => "P2"
  | p3 => "P3"
  | p4 => "P4"

/-- The single bit that stands for a port in a set of ports. -/
def mask : Port → UInt8
  | p1 => 1
  | p2 => 2
  | p3 => 4
  | p4 => 8

/-- The port served after this one when ports take turns. -/
def next : Port → Port
  | p1 => p2
  | p2 => p3
  | p3 => p4
  | p4 => p1

theorem index_lt (port : Port) : port.index < 4 := by cases port <;> decide

@[simp] theorem ofIndex?_index (port : Port) : ofIndex? port.index = some port := by
  cases port <;> rfl

theorem mem_all (port : Port) : port ∈ all := by cases port <;> decide

end Port

/-- One value for each of the four ports. -/
structure PerPort (α : Type) where
  p1 : α
  p2 : α
  p3 : α
  p4 : α
  deriving DecidableEq, Repr

namespace PerPort

variable {α β : Type}

/-- The same value at every port. -/
def const (a : α) : PerPort α := ⟨a, a, a, a⟩

instance [Inhabited α] : Inhabited (PerPort α) := ⟨const default⟩

/-- The table of a function on ports. -/
def ofFn (f : Port → α) : PerPort α := ⟨f .p1, f .p2, f .p3, f .p4⟩

/-- The value at a port. -/
def get (table : PerPort α) : Port → α
  | .p1 => table.p1
  | .p2 => table.p2
  | .p3 => table.p3
  | .p4 => table.p4

/-- Replaces the value at a port. -/
def set (table : PerPort α) (port : Port) (a : α) : PerPort α :=
  match port with
  | .p1 => { table with p1 := a }
  | .p2 => { table with p2 := a }
  | .p3 => { table with p3 := a }
  | .p4 => { table with p4 := a }

/-- Changes the value at a port. -/
@[inline] def modify (table : PerPort α) (port : Port) (f : α → α) : PerPort α :=
  match table, port with
  | ⟨a, b, c, d⟩, .p1 => ⟨f a, b, c, d⟩
  | ⟨a, b, c, d⟩, .p2 => ⟨a, f b, c, d⟩
  | ⟨a, b, c, d⟩, .p3 => ⟨a, b, f c, d⟩
  | ⟨a, b, c, d⟩, .p4 => ⟨a, b, c, f d⟩

/-- Changes the value at every port. -/
@[inline] def map (f : α → β) (table : PerPort α) : PerPort β :=
  ⟨f table.p1, f table.p2, f table.p3, f table.p4⟩

/-- The values in port order. -/
def toList (table : PerPort α) : List α := [table.p1, table.p2, table.p3, table.p4]

/-- Whether a test holds at some port. -/
def any (table : PerPort α) (test : α → Bool) : Bool := table.toList.any test

@[simp] theorem get_const (a : α) (port : Port) : (const a).get port = a := by
  cases port <;> rfl

@[simp] theorem get_ofFn (f : Port → α) (port : Port) : (ofFn f).get port = f port := by
  cases port <;> rfl

@[simp] theorem get_set_self (table : PerPort α) (port : Port) (a : α) :
    (table.set port a).get port = a := by
  cases port <;> rfl

theorem get_set_ne (table : PerPort α) {port other : Port} (a : α) (h : other ≠ port) :
    (table.set port a).get other = table.get other := by
  cases port <;> cases other <;> first | rfl | exact absurd rfl h

@[simp] theorem get_modify_self (table : PerPort α) (port : Port) (f : α → α) :
    (table.modify port f).get port = f (table.get port) := by
  cases port <;> rfl

theorem get_modify_ne (table : PerPort α) {port other : Port} (f : α → α) (h : other ≠ port) :
    (table.modify port f).get other = table.get other := by
  cases port <;> cases other <;> first | rfl | exact absurd rfl h

@[simp] theorem get_map (f : α → β) (table : PerPort α) (port : Port) :
    (table.map f).get port = f (table.get port) := by
  cases port <;> rfl

/-- A test that fails at every port holds at none. -/
theorem any_eq_true {table : PerPort α} {test : α → Bool} :
    table.any test = true ↔ ∃ port, test (table.get port) = true := by
  rw [any, List.any_eq_true]
  constructor
  · rintro ⟨a, hmem, htest⟩
    simp only [toList, List.mem_cons, List.not_mem_nil, or_false] at hmem
    rcases hmem with rfl | rfl | rfl | rfl
    · exact ⟨.p1, htest⟩
    · exact ⟨.p2, htest⟩
    · exact ⟨.p3, htest⟩
    · exact ⟨.p4, htest⟩
  · rintro ⟨port, htest⟩
    refine ⟨table.get port, ?_, htest⟩
    cases port <;> simp [toList, get]

theorem any_eq_false {table : PerPort α} {test : α → Bool}
    (h : ∀ port, test (table.get port) = false) : table.any test = false := by
  rw [Bool.eq_false_iff, ne_eq, any_eq_true]
  rintro ⟨port, htest⟩
  rw [h port] at htest
  cases htest

theorem ext_get {a b : PerPort α} (h : ∀ port, a.get port = b.get port) : a = b := by
  cases a
  cases b
  have h1 := h .p1
  have h2 := h .p2
  have h3 := h .p3
  have h4 := h .p4
  simp only [get] at h1 h2 h3 h4
  subst h1 h2 h3 h4
  rfl

end PerPort

/-- What is done to a pin. -/
inductive Drive where
  /-- The pin is driven high. -/
  | high
  /-- The pin is driven low. -/
  | low
  /-- The pin is released and shows the level of what is plugged. -/
  | float
  deriving DecidableEq, Repr, Inhabited

namespace Drive

/-- The level seen on a pin with this drive when the far side presents `level`. -/
def resolve (drive : Drive) (level : Bool) : Bool :=
  match drive with
  | high => true
  | low => false
  | float => level

/-- The drive that forces a level. -/
def ofLevel (level : Bool) : Drive := if level then high else low

/-- The letter of a drive in a listing. -/
def letter : Drive → Char
  | high => 'H'
  | low => 'L'
  | float => 'F'

end Drive

/-- The pins of an input port. -/
inductive InputRole where
  /-- Analog sense pin with a pull-up. -/
  | pin1
  /-- Legacy detection pin. -/
  | pin2
  /-- Digital pin 5, the clock of legacy colour sensors. -/
  | pin5
  /-- Digital pin 6, the data line of legacy colour sensors. -/
  | pin6
  /-- Enable of the port's level-shifting buffer. -/
  | buffer
  deriving DecidableEq, Repr, Inhabited

namespace InputRole

/-- The roles in bit order. -/
def all : List InputRole := [pin1, pin2, pin5, pin6, buffer]

/-- The name of a pin. -/
def label : InputRole → String
  | pin1 => "pin1"
  | pin2 => "pin2"
  | pin5 => "pin5"
  | pin6 => "pin6"
  | buffer => "buffer"

end InputRole

/-- The pins of an output port. -/
inductive OutputRole where
  /-- Motor line A. -/
  | pin1
  /-- Motor line B. -/
  | pin2
  /-- Control of the pin 5 pull-down. -/
  | pin5Write
  /-- Digital sense of pin 5. -/
  | pin5Read
  /-- Pin 6, used to detect misplaced input devices. -/
  | pin6
  deriving DecidableEq, Repr, Inhabited

namespace OutputRole

/-- The roles in bit order. -/
def all : List OutputRole := [pin1, pin2, pin5Write, pin5Read, pin6]

/-- The name of a pin. -/
def label : OutputRole → String
  | pin1 => "pin1"
  | pin2 => "pin2"
  | pin5Write => "pin5_write"
  | pin5Read => "pin5_read"
  | pin6 => "pin6"

end OutputRole

/-- One value for each pin of an input port. -/
structure InputPins (α : Type) where
  pin1 : α
  pin2 : α
  pin5 : α
  pin6 : α
  buffer : α
  deriving DecidableEq, Repr, Inhabited

namespace InputPins

variable {α : Type}

/-- The same value at every pin. -/
def const (a : α) : InputPins α := ⟨a, a, a, a, a⟩

/-- The value at a pin. -/
def get (pins : InputPins α) : InputRole → α
  | .pin1 => pins.pin1
  | .pin2 => pins.pin2
  | .pin5 => pins.pin5
  | .pin6 => pins.pin6
  | .buffer => pins.buffer

/-- Replaces the value at a pin. -/
def set (pins : InputPins α) (role : InputRole) (a : α) : InputPins α :=
  match role with
  | .pin1 => { pins with pin1 := a }
  | .pin2 => { pins with pin2 := a }
  | .pin5 => { pins with pin5 := a }
  | .pin6 => { pins with pin6 := a }
  | .buffer => { pins with buffer := a }

@[simp] theorem get_set_self (pins : InputPins α) (role : InputRole) (a : α) :
    (pins.set role a).get role = a := by
  cases role <;> rfl

theorem get_set_ne (pins : InputPins α) {role other : InputRole} (a : α) (h : other ≠ role) :
    (pins.set role a).get other = pins.get other := by
  cases role <;> cases other <;> first | rfl | exact absurd rfl h

end InputPins

/-- One value for each pin of an output port. -/
structure OutputPins (α : Type) where
  pin1 : α
  pin2 : α
  pin5Write : α
  pin5Read : α
  pin6 : α
  deriving DecidableEq, Repr, Inhabited

namespace OutputPins

variable {α : Type}

/-- The same value at every pin. -/
def const (a : α) : OutputPins α := ⟨a, a, a, a, a⟩

/-- The value at a pin. -/
def get (pins : OutputPins α) : OutputRole → α
  | .pin1 => pins.pin1
  | .pin2 => pins.pin2
  | .pin5Write => pins.pin5Write
  | .pin5Read => pins.pin5Read
  | .pin6 => pins.pin6

/-- Replaces the value at a pin. -/
def set (pins : OutputPins α) (role : OutputRole) (a : α) : OutputPins α :=
  match role with
  | .pin1 => { pins with pin1 := a }
  | .pin2 => { pins with pin2 := a }
  | .pin5Write => { pins with pin5Write := a }
  | .pin5Read => { pins with pin5Read := a }
  | .pin6 => { pins with pin6 := a }

@[simp] theorem get_set_self (pins : OutputPins α) (role : OutputRole) (a : α) :
    (pins.set role a).get role = a := by
  cases role <;> rfl

theorem get_set_ne (pins : OutputPins α) {role other : OutputRole} (a : α) (h : other ≠ role) :
    (pins.set role a).get other = pins.get other := by
  cases role <;> cases other <;> first | rfl | exact absurd rfl h

end OutputPins

/-- The bits of a set of pins, the first pin in the lowest bit. -/
def bitsOf : List Bool → UInt8
  | [] => 0
  | bit :: rest => (if bit then (1 : UInt8) else 0) ||| (bitsOf rest <<< 1)

end PlugWatch
