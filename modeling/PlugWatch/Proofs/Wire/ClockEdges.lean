import Mathlib.Data.List.Infix
import Mathlib.Logic.Function.Basic
import PlugWatch.Proofs.Since
import PlugWatch.Proofs.Wire.Trace
/-!
# Clock edges of an exchange behind faults

An exchange that a fault ends gives the select line back, but leaves the clock as the fault found
it. When the answer line could not be read, or the clock not be lowered, the clock stays high. The
next exchange then raises a clock that is high already, which is no edge: the converter sees
fifteen edges for sixteen bits, while the reply still counts sixteen levels.

## Main Definitions

* `Levels` : the level of each line, `Levels.after` calls, and the rising `Levels.edges` in them.
* `LineEvent.readings` : the levels that calls read.
* `Wire.Strands`, `Wire.Lowers` : calls that leave the clock high, and calls that lower it.

## Main Statements

* `Wiring.edges_behind_faults` : what exchanges behind any faults do to the clock, the answer line
  and the select line. An exchange that gives a reply has its sixteen edges exactly if no exchange
  before it left the clock high with no other lowering it since.
-/

namespace PlugWatch

/-! ## Levels -/

/-- The level of each line. -/
abbrev Levels := Line → Bool

namespace Levels

/-- The levels behind a call. One that failed changes nothing. -/
def see (levels : Levels) (call : LineEvent) : Levels :=
  match call.level with
  | some level => Function.update levels call.line level
  | none => levels

/-- The levels behind calls. -/
def after (levels : Levels) (calls : List LineEvent) : Levels := calls.foldl see levels

/-- The levels of the data line at the rising clock edges in calls. An edge is a change from low to
high, so that raising a clock that is high already is none. -/
def edges (levels : Levels) : List LineEvent → List Bool
  | [] => []
  | call :: rest =>
    if levels .clock = false ∧ levels.see call .clock = true then
      levels .mosi :: edges (levels.see call) rest
    else edges (levels.see call) rest

@[simp]
theorem see_some (levels : Levels) (changed line : Line) (level : Bool) :
    levels.see ⟨changed, some level⟩ line = if line = changed then level else levels line := by
  simp [see, Function.update_apply]

@[simp]
theorem see_none (levels : Levels) (line : Line) : levels.see ⟨line, none⟩ = levels := rfl

@[simp]
theorem after_nil (levels : Levels) : levels.after [] = levels := rfl

@[simp]
theorem after_cons (levels : Levels) (call : LineEvent) (rest : List LineEvent) :
    levels.after (call :: rest) = (levels.see call).after rest := rfl

@[simp]
theorem after_append (levels : Levels) (calls more : List LineEvent) :
    levels.after (calls ++ more) = (levels.after calls).after more :=
  List.foldl_append

theorem edges_append (levels : Levels) (calls more : List LineEvent) :
    levels.edges (calls ++ more) = levels.edges calls ++ (levels.after calls).edges more := by
  induction calls generalizing levels with
  | nil => rfl
  | cons call rest ih =>
    rw [List.cons_append, edges, edges, ih]
    split <;> rfl

end Levels

/-- The levels that calls read on the answer line. -/
def LineEvent.readings (calls : List LineEvent) : List Bool :=
  calls.filterMap fun call => if call.line = .miso then call.level else none

namespace Wire

variable {levels : Levels} {calls : List LineEvent} {bits read : List Bool} {word : UInt16}

/-! ## Full beats -/

theorem edges_beat (levels : Levels) (bit level : Bool) :
    levels.edges (beat bit level) = if levels .clock then [] else [bit] := by
  cases h : levels .clock <;> simp [beat, Levels.edges, h]

theorem clock_after_beat (levels : Levels) (bit level : Bool) :
    levels.after (beat bit level) .clock = false := by
  simp [beat]

/-- Of bits that are moved one behind the other each is seen at one edge, except for the first one
where the clock is high before. -/
theorem edges_beats (hlength : read.length = bits.length) :
    levels.edges (beats bits read) = if levels .clock then bits.tail else bits := by
  induction bits generalizing read levels with
  | nil => simp [beats, Levels.edges]
  | cons bit rest ih =>
    obtain - | ⟨level, read⟩ := read
    · cases hlength
    · -- Behind its first bit the clock is low, so that nothing more is lost.
      have hrest : (levels.after (beat bit level)).edges (beats rest read) = rest := by
        rw [ih (Nat.succ.inj hlength), clock_after_beat, if_neg Bool.false_ne_true]
      change levels.edges (beat bit level ++ beats rest read) = _
      rw [Levels.edges_append, edges_beat, hrest]
      split <;> rfl

theorem readings_beats (hlength : read.length = bits.length) :
    LineEvent.readings (beats bits read) = read := by
  induction bits generalizing read with
  | nil => rw [List.eq_nil_of_length_eq_zero hlength]; rfl
  | cons bit rest ih =>
    obtain - | ⟨level, read⟩ := read
    · cases hlength
    · exact congrArg (level :: ·) (ih (Nat.succ.inj hlength))

/-- Selecting and releasing show no bits. -/
theorem edges_selected_beats (hlength : read.length = bits.length) :
    levels.edges (⟨.select, some false⟩ :: beats bits read ++ [⟨.select, some true⟩]) =
      if levels .clock then bits.tail else bits := by
  rw [List.cons_append, Levels.edges, Levels.edges_append, edges_beats hlength]
  simp [Levels.edges]

/-- Calls on the select line read nothing. -/
theorem readings_selected (first last : Option Bool) (calls : List LineEvent) :
    LineEvent.readings (⟨.select, first⟩ :: calls ++ [⟨.select, last⟩]) =
      LineEvent.readings calls := by
  simp [LineEvent.readings]

theorem line_ne_select_beats (bits read : List Bool) :
    ∀ call ∈ beats bits read, call.line ≠ .select := by
  induction bits generalizing read with
  | nil => exact fun _ hmem => absurd hmem List.not_mem_nil
  | cons bit rest ih =>
    obtain - | ⟨level, read⟩ := read
    · exact fun _ hmem => absurd hmem List.not_mem_nil
    · exact List.forall_mem_append.mpr ⟨by simp [beat], ih read⟩

/-! ## What faults leave behind -/

/-- The calls leave the clock high: the answer line could not be read, or behind a read the clock
could not be lowered. -/
def Strands (calls : List LineEvent) : Prop :=
  ⟨.miso, none⟩ ∈ calls ∨ ∃ level, [⟨.miso, some level⟩, ⟨.clock, none⟩] <:+: calls

/-- The calls lower the clock at some time. -/
def Lowers (calls : List LineEvent) : Prop := ⟨.clock, some false⟩ ∈ calls

theorem strands_beat_append (bit level : Bool) :
    Strands (beat bit level ++ calls) ↔ Strands calls := by
  simp [Strands, beat, List.infix_cons_iff]

/-- Shifting bits leaves the clock high if it strands it, or if the clock was high and is not
lowered. -/
theorem Shifting.clock_after {result : Except Line (List Bool)} (h : Shifting bits result calls)
    (levels : Levels) :
    levels.after calls .clock = true ↔
      Strands calls ∨ (levels .clock = true ∧ ¬Lowers calls) := by
  induction h generalizing levels with
  | done => simp [Strands, Lowers]
  | moved bit level _ ih =>
    rw [Levels.after_append, ih, clock_after_beat, strands_beat_append]
    simp [Lowers, beat]
  | unset bit rest => simp [Strands, Lowers, List.infix_cons_iff]
  | unraised bit rest => simp [Strands, Lowers, List.infix_cons_iff]
  | unread bit rest => simp [Strands, Lowers]
  | unlowered bit level rest => simp [Strands, Lowers, List.infix_cons_iff]

theorem strands_selected (first last : Option Bool) :
    Strands (⟨.select, first⟩ :: calls ++ [⟨.select, last⟩]) ↔ Strands calls := by
  have hsuffix (level : Bool) : ¬[⟨.miso, some level⟩, ⟨.clock, none⟩] <:+
      calls ++ [(⟨.select, last⟩ : LineEvent)] := by
    intro h
    obtain h | ⟨front, h, -⟩ := List.suffix_concat_iff.mp h
    · cases h
    · simpa using congrArg List.getLast? h
  simp [Strands, List.infix_cons_iff, List.infix_concat_iff, hsuffix]

/-- An exchange leaves the clock high if it strands it, or if the clock was high and is not
lowered. -/
theorem Exchanging.clock_after {result : Except Line UInt16} (h : Exchanging word result calls)
    (levels : Levels) :
    levels.after calls .clock = true ↔
      Strands calls ∨ (levels .clock = true ∧ ¬Lowers calls) := by
  cases h with
  | unselected => simp [Strands, Lowers, List.infix_cons_iff]
  | released shifting =>
    rw [strands_selected]
    simpa [Lowers] using shifting.clock_after (levels.see ⟨.select, some false⟩)
  | unreleased shifting =>
    rw [strands_selected]
    simpa [Lowers] using shifting.clock_after (levels.see ⟨.select, some false⟩)

/-- Where no call on the select line fails, an exchange ends with the line released. -/
theorem Exchanging.select_after {result : Except Line UInt16} (h : Exchanging word result calls)
    (hworks : ∀ call ∈ calls, call.line = .select → call.level ≠ none) (levels : Levels) :
    levels.after calls .select = true := by
  cases h with
  | unselected => simp at hworks
  | released shifting => simp
  | unreleased shifting => exact absurd rfl (hworks ⟨.select, none⟩ (by simp) rfl)

end Wire

/-! ## Exchanges one behind the other -/

namespace Wiring

/-- The wiring behind exchanges of words, whatever became of them. -/
def behind (wiring : Wiring) (words : List UInt16) : Wiring :=
  words.foldl (fun wiring word => ((Wire.exchange word).run wiring).2) wiring

/-- What an exchange answers. -/
def reply (wiring : Wiring) (word : UInt16) : Except Line UInt16 :=
  ((Wire.exchange word).run wiring).1

/-- The calls that an exchange makes. -/
def calls (wiring : Wiring) (word : UInt16) : List LineEvent :=
  ((Wire.exchange word).run wiring).2.events.drop wiring.events.length

theorem behind_concat (wiring : Wiring) (words : List UInt16) (word : UInt16) :
    wiring.behind (words ++ [word]) = ((Wire.exchange word).run (wiring.behind words)).2 :=
  List.foldl_concat ..

/-- An exchange goes in one of its ways. -/
theorem exchanging (wiring : Wiring) (word : UInt16) :
    Wire.Exchanging word (wiring.reply word) (wiring.calls word) ∧
      ((Wire.exchange word).run wiring).2.events = wiring.events ++ wiring.calls word := by
  obtain ⟨result, calls, after, htraced, hexchanging⟩ := Wire.exists_exchanging word wiring
  have hcalls : wiring.calls word = calls := by
    rw [Wiring.calls, htraced.run, htraced.events, List.drop_left]
  rw [hcalls, reply, htraced.run]
  exact ⟨hexchanging, htraced.events⟩

/-- Behind parking the clock is low. -/
theorem clock_after_park {wiring parked : Wiring} (hpark : Wire.park.run wiring = (.ok (), parked))
    (start : Levels) : start.after parked.events .clock = false := by
  simp [(Wire.traced_park hpark).events]

/-- The clock is high behind exchanges exactly if one of them stranded it and none has lowered it
since. -/
theorem clock_behind {wiring parked : Wiring} (hpark : Wire.park.run wiring = (.ok (), parked))
    (start : Levels) (words : List UInt16) :
    start.after (parked.behind words).events .clock = true ↔
      Since (fun front word => Wire.Strands ((parked.behind front).calls word))
        (fun front word => Wire.Lowers ((parked.behind front).calls word)) words := by
  induction words using List.reverseRecOn with
  | nil =>
    rw [behind, List.foldl_nil, clock_after_park hpark]
    exact iff_of_false Bool.false_ne_true not_since_nil
  | append_singleton words word ih =>
    obtain ⟨hexchanging, hevents⟩ := (parked.behind words).exchanging word
    rw [behind_concat, hevents, Levels.after_append, hexchanging.clock_after, ih, since_concat]

/-- **Clock edges behind faults.** Whatever faults the lines have had since they were parked, an
exchange that gives a reply selects the converter, releases it and leaves the select line alone in
between. It shows a bit of its word at each rising edge, but if the clock was high before, then the
first bit is shown at none; the reply is made of the levels that were read. The select line ends
released where its calls work. The clock was high before exactly if an earlier exchange stranded it
and none has lowered it since. -/
theorem edges_behind_faults {wiring parked : Wiring}
    (hpark : Wire.park.run wiring = (.ok (), parked)) (start : Levels) (words : List UInt16)
    (word : UInt16) :
    let levels := start.after (parked.behind words).events
    let calls := (parked.behind words).calls word
    (∀ reply, (parked.behind words).reply word = .ok reply →
      (∃ bits, calls = ⟨.select, some false⟩ :: bits ++ [⟨.select, some true⟩] ∧
        ∀ call ∈ bits, call.line ≠ .select) ∧
      levels.edges calls =
        (if levels .clock then (Word.bits word).tail else Word.bits word) ∧
      LineEvent.readings calls = Word.bits reply) ∧
    ((∀ call ∈ calls, call.line = .select → call.level ≠ none) →
      levels.after calls .select = true) ∧
    (levels .clock = true ↔
      Since (fun front earlier => Wire.Strands ((parked.behind front).calls earlier))
        (fun front earlier => Wire.Lowers ((parked.behind front).calls earlier)) words) := by
  intro levels calls
  have hexchanging := ((parked.behind words).exchanging word).1
  refine ⟨fun reply hreply => ?_, fun hworks => hexchanging.select_after hworks levels,
    clock_behind hpark start words⟩
  have hcalls : calls = ⟨.select, some false⟩ :: Wire.beats (Word.bits word) (Word.bits reply) ++
      [⟨.select, some true⟩] := hexchanging.eq_beats hreply
  have hlength : (Word.bits reply).length = (Word.bits word).length := by simp
  refine ⟨⟨_, hcalls, Wire.line_ne_select_beats _ _⟩, ?_, ?_⟩
  · rw [hcalls, Wire.edges_selected_beats hlength]
  · rw [hcalls, Wire.readings_selected, Wire.readings_beats hlength]

/-- One failed read costs the exchange behind it the edge of its first bit. -/
theorem edges_behind_failed_read :
    let wiring : Wiring := { fails := fun line number => line = .miso ∧ number = 1 }
    let parked := (Wire.park.run wiring).2
    let levels := Levels.after (fun _ => false) (parked.behind [0xA5C3]).events
    let calls := (parked.behind [0xA5C3]).calls 0xA5C3
    Wire.park.run wiring = (.ok (), parked) ∧
      (parked.behind [0xA5C3]).reply 0xA5C3 = .ok 0 ∧
      levels .clock = true ∧
      levels.edges calls = (Word.bits 0xA5C3).tail := by
  intro wiring parked levels calls
  have hpark : Wire.park.run wiring = (.ok (), parked) := rfl
  have hreply : (parked.behind [0xA5C3]).reply 0xA5C3 = .ok 0 := by decide +kernel
  have hclock : levels .clock = true := by decide +kernel
  have hedges := ((edges_behind_faults hpark (fun _ => false) [0xA5C3] 0xA5C3).1 0 hreply).2.1
  exact ⟨hpark, hreply, hclock, hedges.trans (if_pos hclock)⟩

end Wiring

end PlugWatch
