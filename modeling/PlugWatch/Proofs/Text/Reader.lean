import PlugWatch.Proofs.Text.Decimal
/-!
# Reading texts of a fixed layout

A reader takes what it understands from the front of a text and leaves the rest. Readers that follow
each other read texts that follow each other, so that a layout is read back part by part.

## Main Definitions

* `TextReader`, `TextReader.whole?` : readers, and reading all of a text.
* `TextReader.expect`, `TextReader.decimal` : a text that has to stand there, and a padded number.
* `TextReader.Reads` : a reader takes a text from the front of any other, for a value.

## Main Statements

* `TextReader.Reads.bind`, `TextReader.Reads.mapM` : readers in a row.
* `TextReader.reads_decimal` : a padded number is read back.
-/

namespace PlugWatch

/-- Reads a value from the front of a text. -/
abbrev TextReader (β : Type) := StateT (List Char) Option β

namespace TextReader

variable {β γ ι : Type}

/-- Reads a value from all of a text. -/
def whole? (reader : TextReader β) (text : List Char) : Option β :=
  match reader.run text with
  | some (value, []) => some value
  | _ => none

/-- Takes a number of characters. -/
def take (n : Nat) : TextReader (List Char) := fun text =>
  if n ≤ text.length then some (text.take n, text.drop n) else none

/-- Takes a text that has to stand there. -/
def expect (marker : List Char) : TextReader Unit := do
  let found ← take marker.length
  if found = marker then return () else failure

/-- Takes a number that fills a width. -/
def decimal (width : Nat) : TextReader Nat := do
  let found ← take width
  match Decimal.readDigits (10 ^ width) 0 found with
  | .ok n => return n
  | .error _ => failure

/-- A reader takes a text from the front of any other, for a value. -/
def Reads (reader : TextReader β) (text : List Char) (value : β) : Prop :=
  ∀ rest, reader.run (text ++ rest) = some (value, rest)

theorem Reads.whole? {reader : TextReader β} {text : List Char} {value : β}
    (h : reader.Reads text value) : reader.whole? text = some value := by
  have hrun := h []
  rw [List.append_nil] at hrun
  rw [TextReader.whole?, hrun]

/-! ## Readers in a row -/

theorem Reads.pure (value : β) : (pure value : TextReader β).Reads [] value := by
  intro rest
  rfl

theorem Reads.bind {reader : TextReader β} {next : β → TextReader γ} {text more : List Char}
    {value : β} {result : γ} (h : reader.Reads text value) (hnext : (next value).Reads more result) :
    (reader >>= next).Reads (text ++ more) result := by
  intro rest
  rw [List.append_assoc, StateT.run_bind, h]
  exact hnext rest

/-- A reader that only looks at what has been read takes nothing. -/
theorem Reads.bind_pure {reader : TextReader β} {next : β → TextReader γ} {text : List Char}
    {value : β} {result : γ} (h : reader.Reads text value) (hnext : next value = Pure.pure result) :
    (reader >>= next).Reads text result := by
  have hpure : (next value).Reads [] result := by
    rw [hnext]
    exact .pure result
  simpa using h.bind hpure

/-- Texts in a row are read item by item. -/
theorem Reads.mapM {reader : ι → TextReader β} {text : ι → List Char} {value : ι → β}
    (h : ∀ item, (reader item).Reads (text item) (value item)) (items : List ι) :
    (items.mapM reader).Reads (items.flatMap text) (items.map value) := by
  induction items with
  | nil => exact .pure []
  | cons item rest ih =>
    rw [List.mapM_cons, List.flatMap_cons, List.map_cons]
    exact (h item).bind (ih.bind_pure rfl)

/-! ## Readers of their own -/

theorem reads_take (text : List Char) : (take text.length).Reads text text := by
  intro rest
  show take text.length (text ++ rest) = some (text, rest)
  unfold take
  simp

theorem reads_expect (marker : List Char) : (expect marker).Reads marker () :=
  (reads_take marker).bind_pure (if_pos rfl)

/-- A padded number is read back. -/
theorem reads_decimal {n width : Nat} (hwidth : 0 < width) (h : n < 10 ^ width) :
    (decimal width).Reads (Decimal.padded width n) n := by
  have htake := reads_take (Decimal.padded width n)
  rw [Decimal.length_padded hwidth h] at htake
  refine htake.bind_pure ?_
  rw [Decimal.readDigits_padded width (Nat.le_of_lt h)]

end TextReader

end PlugWatch
