/-!
# Texts of fixed capacity

Reports are written into buffers of a fixed number of bytes. What finds no room in a buffer is left
out without notice.

## Main Definitions

* `FixedText` : a text with its bound in bytes of UTF-8.
* `FixedText.add`, `FixedText.addEach` : append a piece as a whole, or character by character.
* `FixedText.write` : appends pieces up to the first one that finds no room.
-/

namespace PlugWatch

/-- Number of bytes of characters in UTF-8. -/
def byteSize : List Char → Nat
  | [] => 0
  | c :: rest => c.utf8Size + byteSize rest

/-- A text of at most `capacity` bytes. -/
structure FixedText (capacity : Nat) where
  chars : List Char := []
  size_le : byteSize chars ≤ capacity

namespace FixedText

variable {capacity : Nat}

/-- The empty text. -/
def empty : FixedText capacity := ⟨[], Nat.zero_le _⟩

/-- Appends a piece, if it finds room. -/
def append? (text : FixedText capacity) (piece : List Char) : Option (FixedText capacity) :=
  if h : byteSize (text.chars ++ piece) ≤ capacity then some ⟨text.chars ++ piece, h⟩ else none

/-- Appends a piece, or leaves it out when it finds no room. -/
def add (text : FixedText capacity) (piece : List Char) : FixedText capacity :=
  (text.append? piece).getD text

/-- Appends characters one by one; each of them is left out when it finds no room. -/
def addEach (text : FixedText capacity) (chars : List Char) : FixedText capacity :=
  chars.foldl (fun text c => text.add [c]) text

/-- Appends pieces in a row. The first one that finds no room ends it. -/
def write (text : FixedText capacity) : List (List Char) → FixedText capacity
  | [] => text
  | piece :: rest =>
    match text.append? piece with
    | some text => text.write rest
    | none => text

end FixedText

end PlugWatch
