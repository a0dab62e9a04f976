import PlugWatch.Text.Fixed
/-!
# What finds room in a text

A way of writing appends a text if it does so wherever there is room for all of it. Ways of writing
that follow each other append what they append, one behind the other, so that the room is looked at
once, for everything that is written.

## Main Definitions

* `Ascii` : texts of which every character takes one byte.
* `FixedText.Appends` : a way of writing appends a text, where there is room for it.

## Main Statements

* `FixedText.appends_write`, `FixedText.Appends.foldl` : pieces in a row, and items in a row.
* `FixedText.Appends.chars_eq` : an empty buffer with a byte for each character takes everything.
-/

namespace PlugWatch

@[simp] theorem byteSize_nil : byteSize [] = 0 := rfl

@[simp] theorem byteSize_append (chars more : List Char) :
    byteSize (chars ++ more) = byteSize chars + byteSize more := by
  induction chars with
  | nil => simp [byteSize]
  | cons c rest ih => simp only [List.cons_append, byteSize, ih, Nat.add_assoc]

/-- All characters are ASCII. -/
abbrev Ascii (chars : List Char) : Prop := ∀ c ∈ chars, c.toNat < 128

theorem ascii_of_all {chars : List Char} (h : chars.all (fun c => c.toNat < 128) = true) :
    Ascii chars := by
  simpa using h

theorem Ascii.append {chars more : List Char} (h : Ascii chars) (hmore : Ascii more) :
    Ascii (chars ++ more) := by
  intro c hc
  rcases List.mem_append.mp hc with hc | hc
  · exact h c hc
  · exact hmore c hc

theorem Ascii.flatMap {ι : Type} {chars : ι → List Char} (h : ∀ item, Ascii (chars item))
    (items : List ι) : Ascii (items.flatMap chars) := by
  intro c hc
  obtain ⟨item, -, hc⟩ := List.mem_flatMap.mp hc
  exact h item c hc

/-- Characters of ASCII take one byte each. -/
theorem byteSize_eq_length {chars : List Char} (h : Ascii chars) :
    byteSize chars = chars.length := by
  induction chars with
  | nil => rfl
  | cons c rest ih =>
    have hc : c.utf8Size = 1 :=
      Char.utf8Size_eq_one_iff.mpr (UInt32.le_iff_toNat_le.mpr
        (Nat.le_of_lt_succ (h c List.mem_cons_self)))
    have hrest := ih fun c hmem => h c (List.mem_cons_of_mem _ hmem)
    rw [byteSize, hc, hrest, List.length_cons, Nat.add_comm]

namespace FixedText

variable {capacity : Nat}

/-- A way of writing appends a text, wherever there is room for all of it. -/
def Appends (writing : FixedText capacity → FixedText capacity) (added : List Char) : Prop :=
  ∀ text, byteSize (text.chars ++ added) ≤ capacity → (writing text).chars = text.chars ++ added

/-- What one way of writing appends and what the next one does are appended in a row. -/
theorem Appends.then {writing next : FixedText capacity → FixedText capacity}
    {added more : List Char} (h : Appends writing added) (hnext : Appends next more) :
    Appends (fun text => next (writing text)) (added ++ more) := by
  intro text hroom
  simp only [byteSize_append] at hroom
  have hadded : (writing text).chars = text.chars ++ added := by
    refine h text ?_
    simp only [byteSize_append]
    omega
  have hmore : (next (writing text)).chars = (writing text).chars ++ more := by
    refine hnext _ ?_
    simp only [hadded, byteSize_append]
    omega
  rw [hmore, hadded, List.append_assoc]

/-- Items that are written one after the other. -/
theorem Appends.foldl {ι : Type} {writing : FixedText capacity → ι → FixedText capacity}
    {added : ι → List Char} (h : ∀ item, Appends (fun text => writing text item) (added item))
    (items : List ι) : Appends (fun text => items.foldl writing text) (items.flatMap added) := by
  induction items with
  | nil =>
    intro text _
    simp
  | cons item rest ih => exact (h item).then ih

/-- An empty buffer with a byte for each character takes everything. -/
theorem Appends.chars_eq {writing : FixedText capacity → FixedText capacity} {added : List Char}
    (h : Appends writing added) (hascii : Ascii added) (hroom : added.length ≤ capacity) :
    (writing .empty).chars = added := by
  refine h .empty ?_
  rw [← byteSize_eq_length hascii] at hroom
  exact hroom

theorem append?_of_le {text : FixedText capacity} {piece : List Char}
    (hroom : byteSize (text.chars ++ piece) ≤ capacity) :
    text.append? piece = some ⟨text.chars ++ piece, hroom⟩ :=
  dif_pos hroom

theorem appends_add (piece : List Char) :
    Appends (fun text : FixedText capacity => text.add piece) piece := by
  intro text hroom
  show ((text.append? piece).getD text).chars = text.chars ++ piece
  rw [append?_of_le hroom]
  rfl

theorem appends_addEach (chars : List Char) :
    Appends (fun text : FixedText capacity => text.addEach chars) chars := by
  have h : Appends (fun text : FixedText capacity => text.addEach chars) (chars.flatMap ([·])) :=
    Appends.foldl (fun c => appends_add [c]) chars
  rwa [List.flatMap_singleton'] at h

theorem appends_write (pieces : List (List Char)) :
    Appends (fun text : FixedText capacity => text.write pieces) pieces.flatten := by
  induction pieces with
  | nil =>
    intro text _
    simp [write]
  | cons piece rest ih =>
    intro text hroom
    rw [List.flatten_cons, ← List.append_assoc] at hroom
    have hpiece : byteSize (text.chars ++ piece) ≤ capacity := by
      rw [byteSize_append] at hroom
      omega
    simp only [write, append?_of_le hpiece]
    rw [ih _ hroom, List.flatten_cons, List.append_assoc]

end FixedText

end PlugWatch
