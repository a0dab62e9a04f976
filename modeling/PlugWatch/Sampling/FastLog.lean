/-!
# Fast logs

Each input port keeps its latest readings of pin 1 and pin 6 in a ring of 300 cells. One cell
always stays out of use, so that a full ring is told from an empty one.

## Main Definitions

* `FastLog` : the ring and its three positions.
* `FastLog.push`, `FastLog.reset` : append a reading, forget all readings.
* `FastLog.toList` : the readings kept, oldest first.

## Design Notes

A position is a 16-bit word together with the fact that a cell lies there. The fact comes from
wrapping, which every step of a position ends with.
-/

namespace PlugWatch

/-- A reading of pin 1 and pin 6. -/
abbrev PinPair := UInt16 × UInt16

namespace FastLog

/-- Number of cells in the ring. -/
def depth : Nat := 300

/-- Goes back to the first cell from a position behind the last. -/
def wrap (position : UInt16) : UInt16 := if depth ≤ position.toNat then 0 else position

theorem wrap_lt (position : UInt16) : (wrap position).toNat < depth := by
  unfold wrap
  split
  · decide
  · omega

/-- The place of a cell in the ring. -/
structure Position where
  word : UInt16
  word_lt : word.toNat < depth
  deriving DecidableEq, Repr

namespace Position

/-- The first cell. -/
def first : Position := ⟨0, by decide⟩

/-- The number of a position. -/
def val (position : Position) : Nat := position.word.toNat

theorem val_lt (position : Position) : position.val < depth := position.word_lt

/-- The position behind another one. -/
def advance (position : Position) : Position := ⟨wrap (position.word + 1), wrap_lt _⟩

end Position

end FastLog

/-- The latest readings of one input port. -/
structure FastLog where
  cells : Vector PinPair FastLog.depth := Vector.replicate FastLog.depth (0, 0)
  /-- Where the newest reading lies. -/
  newest : FastLog.Position := .first
  /-- Where the next reading goes. -/
  next : FastLog.Position := .first
  /-- Where the oldest reading lies. -/
  oldest : FastLog.Position := .first

namespace FastLog

instance : Inhabited FastLog := ⟨{}⟩

/-- Appends a reading; when the ring is full the oldest one is given up. -/
def push (log : FastLog) (pair : PinPair) : FastLog :=
  let next := log.next.advance
  { cells := log.cells.set log.next.val pair log.next.val_lt
    newest := log.next
    next := next
    oldest := if next = log.oldest then log.oldest.advance else log.oldest }

/-- Forgets every reading and starts at the first cell again. -/
def reset (log : FastLog) : FastLog := { log with newest := .first, next := .first, oldest := .first }

/-- Number of readings kept. -/
def size (log : FastLog) : Nat := (log.next.val + depth - log.oldest.val) % depth

/-- Whether no reading is kept. -/
def isEmpty (log : FastLog) : Bool := log.next = log.oldest

/-- The newest reading, if any is kept. -/
def latest? (log : FastLog) : Option PinPair :=
  if log.isEmpty then none else some (log.cells.get ⟨log.newest.val, log.newest.val_lt⟩)

/-- The reading at a distance from the oldest one. -/
def nth (log : FastLog) (n : Nat) : PinPair :=
  log.cells.get ⟨(log.oldest.val + n) % depth, Nat.mod_lt _ (by decide)⟩

/-- The readings kept, oldest first. -/
def toList (log : FastLog) : List PinPair := (List.range log.size).map log.nth

end FastLog

end PlugWatch
