import Mathlib.Data.String.Basic
import PlugWatch.Text.Short
/-!
# What a short text keeps

A text is cut behind the last character that starts within the room there is. That character may end
outside of it, and a text that does not fit is not kept at all. So the cut keeps as much as it can of
most texts, and nothing of those in which a character lies across the end of the room.

## Main Definitions

* `ShortText.LongestWithin` : the longest beginning of a text that fits into a number of bytes.
* `ShortText.fitting` : the characters of that beginning, found one by one.

## Main Statements

* `ShortText.longest_or_nothing` : a cut text is the longest beginning that fits, or empty; and which
  of the two it is.
-/

namespace PlugWatch

namespace ShortText

open String (utf8Len)

/-- The longest beginning of a text, by whole characters, that takes at most a number of bytes. -/
structure LongestWithin (limit : Nat) (text kept : String) : Prop where
  begins : kept.toList <+: text.toList
  size_le : kept.utf8ByteSize ≤ limit
  longest : ∀ other : String, other.toList <+: text.toList → other.utf8ByteSize ≤ limit →
    other.toList <+: kept.toList

/-- The leading characters that fit into a number of bytes. -/
def fitting : Nat → List Char → List Char
  | _, [] => []
  | room, c :: rest =>
    if c.utf8Size ≤ room then c :: fitting (room - c.utf8Size) rest else []

variable {room : Nat} {text : List Char}

theorem fitting_begins (room : Nat) (text : List Char) : fitting room text <+: text := by
  induction text generalizing room with
  | nil => exact List.nil_prefix
  | cons c rest ih =>
    unfold fitting
    split
    · exact List.cons_prefix_cons.mpr ⟨rfl, ih _⟩
    · exact List.nil_prefix

theorem utf8Len_fitting_le (room : Nat) (text : List Char) :
    utf8Len (fitting room text) ≤ room := by
  induction text generalizing room with
  | nil => exact Nat.zero_le _
  | cons c rest ih =>
    unfold fitting
    split
    · have := ih (room - c.utf8Size)
      simp only [String.utf8Len_cons]
      omega
    · exact Nat.zero_le _

/-- Every beginning that fits is a beginning of the one that is found. -/
theorem begins_fitting_of_le {other : List Char} (hbegins : other <+: text)
    (hsize : utf8Len other ≤ room) : other <+: fitting room text := by
  induction text generalizing room other with
  | nil => exact hbegins
  | cons c rest ih =>
    obtain - | ⟨first, other⟩ := other
    · exact List.nil_prefix
    · obtain ⟨rfl, hrest⟩ := List.cons_prefix_cons.mp hbegins
      rw [String.utf8Len_cons] at hsize
      rw [fitting, if_pos (by omega), List.cons_prefix_cons]
      exact ⟨rfl, ih hrest (by omega)⟩

theorem fitting_of_le (hsize : utf8Len text ≤ room) : fitting room text = text :=
  (fitting_begins room text).eq_of_length_le (begins_fitting_of_le List.prefix_rfl hsize).length_le

theorem longestWithin_fitting (limit : Nat) (text : String) :
    LongestWithin limit text (String.ofList (fitting limit text.toList)) where
  begins := by
    rw [String.toList_ofList]
    exact fitting_begins limit _
  size_le := by
    rw [String.utf8ByteSize_ofList]
    exact utf8Len_fitting_le limit _
  longest other hbegins hsize := by
    rw [String.toList_ofList]
    refine begins_fitting_of_le hbegins ?_
    rwa [← String.utf8ByteSize_ofList, String.ofList_toList]

/-! ### Where the text is cut -/

theorem startingBefore_of_le {limit start : Nat} (h : limit ≤ start) (text : List Char) :
    startingBefore limit start text = [] := by
  cases text with
  | nil => rfl
  | cons c rest => rw [startingBefore, if_neg (by omega)]

/-- The cut takes the beginning that fits and nothing more, when that is all of the text or fills the
room; else it takes one character more, which lies across the end of the room. -/
theorem startingBefore_cases (start room : Nat) (text : List Char) :
    (startingBefore (start + room) start text = fitting room text ∧
        (fitting room text = text ∨ utf8Len (fitting room text) = room)) ∨
      (∃ c, startingBefore (start + room) start text = fitting room text ++ [c] ∧
        utf8Len (fitting room text) < room ∧ room < utf8Len (fitting room text ++ [c])) := by
  induction text generalizing start room with
  | nil => exact .inl ⟨rfl, .inl rfl⟩
  | cons c rest ih =>
    have hpos := c.utf8Size_pos
    rcases Nat.eq_zero_or_pos room with rfl | hroom
    · rw [startingBefore_of_le (by omega), fitting, if_neg (by omega)]
      exact .inl ⟨rfl, .inr rfl⟩
    · rw [startingBefore, if_pos (by omega)]
      by_cases hfits : c.utf8Size ≤ room
      · rw [fitting, if_pos hfits]
        have hlimit : start + room = start + c.utf8Size + (room - c.utf8Size) := by omega
        rw [hlimit]
        obtain ⟨hcut, hfull⟩ | ⟨last, hcut, hless, hmore⟩ :=
          ih (start + c.utf8Size) (room - c.utf8Size)
        · refine .inl ⟨by rw [hcut], ?_⟩
          rcases hfull with hall | hfull
          · exact .inl (by rw [hall])
          · exact .inr (by rw [String.utf8Len_cons, hfull]; omega)
        · refine .inr ⟨last, by rw [hcut]; rfl, ?_, ?_⟩
          · rw [String.utf8Len_cons]
            omega
          · rw [List.cons_append, String.utf8Len_cons]
            omega
      · -- The first character that does not fit starts in the room, so that it is taken, too.
        rw [fitting, if_neg hfits]
        refine .inr ⟨c, ?_, hroom, ?_⟩
        · rw [startingBefore_of_le (by omega)]
          rfl
        · simpa using Nat.not_le.mp hfits

/-! ### What is kept of the cut -/

theorem utf8Len_toList (text : String) : utf8Len text.toList = text.utf8ByteSize := by
  rw [← String.utf8ByteSize_ofList, String.ofList_toList]

theorem text_ofFitting?_getD (text : String) :
    ((ofFitting? text).getD empty).text = if text.utf8ByteSize ≤ capacity then text else "" := by
  unfold ofFitting? capacity
  split <;> rfl

/-- A text that fits is kept as it is. -/
theorem text_ofString_of_le {text : String} (hfits : text.utf8ByteSize ≤ capacity) :
    (ofString text).text = text := by
  have hall : fitting text.utf8ByteSize text.toList = text.toList :=
    fitting_of_le (utf8Len_toList text).le
  have hcut : startingBefore text.utf8ByteSize 0 text.toList = text.toList := by
    have hcases := startingBefore_cases 0 text.utf8ByteSize text.toList
    rw [hall, Nat.zero_add, utf8Len_toList] at hcases
    obtain ⟨hcut, -⟩ | ⟨_, -, hless, -⟩ := hcases
    · exact hcut
    · exact absurd hless (Nat.lt_irrefl _)
  rw [ofString, text_ofFitting?_getD, Nat.min_eq_left hfits, hcut, String.ofList_toList,
    if_pos hfits]

/-- Of a text that is too large a beginning is kept that fills the room, or nothing. -/
theorem text_ofString_of_lt {text : String} (hlarge : capacity < text.utf8ByteSize) :
    (ofString text).text =
      if utf8Len (fitting capacity text.toList) = capacity then
        String.ofList (fitting capacity text.toList)
      else "" := by
  rw [ofString, text_ofFitting?_getD, Nat.min_eq_right hlarge.le, String.utf8ByteSize_ofList]
  have hcases := startingBefore_cases 0 capacity text.toList
  rw [Nat.zero_add] at hcases
  obtain ⟨hcut, hall | hfull⟩ | ⟨c, hcut, hless, hmore⟩ := hcases
  · have hsize := utf8Len_fitting_le capacity text.toList
    rw [hall, utf8Len_toList] at hsize
    exact absurd hsize hlarge.not_ge
  · rw [hcut, if_pos hfull.le, if_pos hfull]
  · rw [hcut, if_neg hmore.not_ge, if_neg hless.ne]

/-- **A cut text is the longest beginning that fits, or nothing.** It is that beginning exactly if the
text fits as it is, or some whole characters fill the room to the last byte. Of a text with a
character across byte 64 nothing is kept. -/
theorem longest_or_nothing (text : String) :
    ∃ kept, LongestWithin capacity text kept ∧
      (ofString text).text =
        (if text.utf8ByteSize ≤ capacity ∨ kept.utf8ByteSize = capacity then kept else "") ∧
      (text.utf8ByteSize ≤ capacity → (ofString text).text = text) := by
  refine ⟨_, longestWithin_fitting capacity text, ?_, text_ofString_of_le⟩
  rw [String.utf8ByteSize_ofList]
  by_cases hfits : text.utf8ByteSize ≤ capacity
  · have hall : fitting capacity text.toList = text.toList :=
      fitting_of_le ((utf8Len_toList text).trans_le hfits)
    rw [text_ofString_of_le hfits, if_pos (.inl hfits), hall, String.ofList_toList]
  · rw [text_ofString_of_lt (Nat.not_le.mp hfits)]
    simp only [hfits, false_or]

/-- A character of two bytes across byte 64 costs all the text in front of it. -/
example : (ofString (String.ofList (List.replicate 63 'a' ++ ['é']))).text = "" := by decide +kernel

end ShortText

end PlugWatch
