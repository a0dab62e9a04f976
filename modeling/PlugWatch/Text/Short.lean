/-!
# Short texts

Host names are kept in texts of at most 64 bytes of UTF-8.

## Main Definitions

* `ShortText` : a text with its bound.
* `ShortText.ofString` : cuts a text to size.
-/

namespace PlugWatch

/-- A text of at most 64 bytes of UTF-8. -/
structure ShortText where
  text : String
  size_le : text.utf8ByteSize ≤ 64 := by decide
  deriving DecidableEq, Repr

namespace ShortText

/-- The largest size, in bytes. -/
def capacity : Nat := 64

/-- The empty text. -/
def empty : ShortText := ⟨"", by decide⟩

instance : Inhabited ShortText := ⟨empty⟩

/-- A text as it is, if it fits. -/
def ofFitting? (text : String) : Option ShortText :=
  if h : text.utf8ByteSize ≤ 64 then some ⟨text, h⟩ else none

/-- The leading characters that start before byte `limit`, where `start` is the byte at which the
first of them starts. -/
def startingBefore (limit : Nat) : Nat → List Char → List Char
  | _, [] => []
  | start, c :: rest =>
    if start < limit then c :: startingBefore limit (start + c.utf8Size) rest else []

/-- Cuts a text behind the last character that starts within the first 64 bytes. When that
character ends past byte 64 the cut text does not fit, and nothing is kept. -/
def ofString (text : String) : ShortText :=
  let limit := min text.utf8ByteSize capacity
  (ofFitting? (String.ofList (startingBefore limit 0 text.toList))).getD empty

end ShortText

end PlugWatch
