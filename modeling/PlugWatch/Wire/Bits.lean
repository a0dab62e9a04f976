/-!
# Words as bits

## Main Definitions

* `Word.bits` : the sixteen bits of a word, the most significant first.
* `Word.highBit` : the bit of a word that is sent first.
* `Word.shiftIn`, `Word.ofBits` : a word with a bit moved in from below, and the word that bits write.
* `Frame` : the two bytes of a word, the high one first.
-/

namespace PlugWatch

namespace Word

/-- The bits of a word, the most significant first. -/
def bits (word : UInt16) : List Bool := (List.range 16).map fun i => word.toNat.testBit (15 - i)

/-- The most significant bit of a word, alone. -/
def highBit : UInt16 := 0x8000

/-- Moves all bits of a word up and a bit in from below. -/
def shiftIn (word : UInt16) (bit : Bool) : UInt16 := (word <<< 1) ||| (if bit then 1 else 0)

/-- The word that bits write, the most significant first; of more than sixteen bits the last
count. -/
def ofBits (bits : List Bool) : UInt16 := bits.foldl shiftIn 0

end Word

/-- The two bytes of a word, the high one first. -/
structure Frame where
  high : UInt8
  low : UInt8
  deriving DecidableEq, Repr, Inhabited

namespace Frame

/-- The frame of a word. -/
def ofWord (word : UInt16) : Frame := ⟨(word >>> 8).toUInt8, word.toUInt8⟩

/-- The word in a frame. -/
def word (frame : Frame) : UInt16 := (frame.high.toUInt16 <<< 8) ||| frame.low.toUInt16

/-- The bytes of a frame in the order they are sent. -/
def bytes (frame : Frame) : List UInt8 := [frame.high, frame.low]

end Frame

end PlugWatch
