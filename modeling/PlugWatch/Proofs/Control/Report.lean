import Mathlib.Data.Nat.Bitwise
import PlugWatch.Control.Report
import PlugWatch.Proofs.Sampling.TwelveBits
import PlugWatch.Proofs.Text.Fixed
import PlugWatch.Proofs.Text.Reader
/-!
# What the reports tell

The analog report and the pin report are written into buffers made to measure, and what finds no room
in a buffer is left out without notice. The measure is right because every sample fits into twelve
bits, so that four places hold it. Nothing is left out then, and all levels and all counts can be read
back.

## Main Definitions

* `Controller.levels` : the levels of all pins of all ports.
* `TextReader.analogReport` : reads levels and counts out of an analog report.

## Main Statements

* `levelChars_bitsOf` : the levels of pins come out of the bits of a byte again.
* `Controller.analogText_eq`, `Controller.pinReport_eq` : the reports as they are laid out.
* `Controller.reports_lossless` : the reports have a fixed width, and what they tell is all there is.
-/

namespace PlugWatch

/-! ## Levels as bits -/

theorem testBit_bitsOf (levels : List Bool) {i : Nat} (hi : i < 8) :
    (bitsOf levels).toNat.testBit i = levels.getD i false := by
  induction levels generalizing i with
  | nil => simp [bitsOf]
  | cons level rest ih =>
    have hlow : (if level then (1 : UInt8) else 0).toNat = level.toNat := by cases level <;> rfl
    rw [bitsOf, UInt8.toNat_or, UInt8.toNat_shiftLeft, hlow, Nat.testBit_or,
      Nat.testBit_mod_two_pow]
    rcases i with - | i
    · cases level <;> simp
    · have hhigh : level.toNat.testBit (i + 1) = false := by
        cases level <;> simp [Nat.testBit_succ]
      simpa [hi, hhigh] using ih (by omega)

theorem and_shiftLeft_ne_zero (byte : UInt8) {i : Nat} (hi : i < 8) :
    decide (byte &&& (1 <<< UInt8.ofNat i) ≠ 0) = byte.toNat.testBit i := by
  have hbit : (1 <<< UInt8.ofNat i : UInt8).toNat = 2 ^ i := by
    have h : ∀ i : Fin 8, (1 <<< UInt8.ofNat i.val : UInt8).toNat = 2 ^ i.val := by decide
    exact h ⟨i, hi⟩
  have hand : (byte &&& (1 <<< UInt8.ofNat i)).toNat = (byte.toNat.testBit i).toNat * 2 ^ i := by
    rw [UInt8.toNat_and, hbit, Nat.and_two_pow]
  have hset : byte &&& (1 <<< UInt8.ofNat i) ≠ 0 ↔ byte.toNat.testBit i = true := by
    rw [← UInt8.toNat_inj.ne, hand]
    cases byte.toNat.testBit i <;> simp
  rw [Bool.eq_iff_iff, decide_eq_true_iff, hset]

/-- The levels of up to eight pins come out of the bits of a byte again. -/
theorem levelChars_bitsOf {levels : List Bool} (h : levels.length ≤ 8) :
    levelChars (bitsOf levels) levels.length = levels.map levelChar := by
  refine List.ext_getElem (by simp [levelChars]) fun i hi hi' => ?_
  have hlength : i < levels.length := by simpa using hi'
  simp only [levelChars, List.getElem_map, List.getElem_range]
  rw [and_shiftLeft_ne_zero _ (by omega), testBit_bitsOf _ (by omega),
    List.getD_eq_getElem _ _ hlength]

theorem InputLines.levelText_eq (lines : InputLines) :
    lines.levelText = (InputRole.all.map lines.read).map levelChar :=
  levelChars_bitsOf (show InputRole.all.length ≤ 8 by decide)

theorem OutputLines.levelText_eq (lines : OutputLines) :
    lines.levelText = (OutputRole.all.map lines.read).map levelChar :=
  levelChars_bitsOf (show OutputRole.all.length ≤ 8 by decide)

/-! ## What is written -/

/-- The count of a slot in four places, and what stands behind it. -/
def countText (slot : Slot) (counts : UInt16) : List Char :=
  Decimal.padded 4 counts.toNat ++ [if slot.val + 1 = 16 then '\r' else ' ']

/-- All counts in slot order. -/
def Samples.text (samples : Samples) : List Char :=
  (List.finRange 16).flatMap fun slot => countText slot (samples.get slot)

/-- The levels of the pins of an input port and of the output port with its number. -/
abbrev PortLevels := List Bool × List Bool

/-- The levels of a port as characters, and a blank. -/
def portText (levels : PortLevels) : List Char :=
  levels.1.map levelChar ++ levels.2.map levelChar ++ [' ']

/-- The levels of ports as characters, and a return. -/
def pinText (levels : List PortLevels) : List Char := levels.flatMap portText ++ ['\r']

/-- The analog report with all its parts. -/
def analogLayout (levels : List PortLevels) (samples : Samples) : List Char :=
  pinText levels ++ lineDown ++ samples.text ++ lineUp

theorem Samples.zipIdx_toList (samples : Samples) :
    samples.toList.zipIdx = (List.finRange 16).map fun slot => (samples.get slot, slot.val) := by
  refine List.ext_getElem (by simp [toList]) fun i hi hi' => ?_
  simp [toList, get]

theorem Samples.toList_eq (samples : Samples) :
    samples.toList = (List.finRange 16).map samples.get := by
  have h := congrArg (List.map Prod.fst) samples.zipIdx_toList
  rwa [List.zipIdx_map_fst, List.map_map] at h

theorem ascii_levels (levels : List Bool) : Ascii (levels.map levelChar) := by
  intro c hc
  obtain ⟨level, -, rfl⟩ := List.mem_map.mp hc
  cases level <;> decide

theorem ascii_pinText (levels : List PortLevels) : Ascii (pinText levels) :=
  .append (.flatMap (fun levels => ((ascii_levels levels.1).append (ascii_levels levels.2)).append
    (ascii_of_all rfl)) levels) (ascii_of_all rfl)

theorem ascii_text (samples : Samples) : Ascii samples.text :=
  .flatMap (fun slot => .append (fun _ => Decimal.toNat_lt_of_mem_padded)
    (by split <;> exact ascii_of_all rfl)) _

theorem ascii_analogLayout (levels : List PortLevels) (samples : Samples) :
    Ascii (analogLayout levels samples) :=
  (((ascii_pinText levels).append (ascii_of_all rfl)).append (ascii_text samples)).append
    (ascii_of_all rfl)

section Appends

variable {capacity : Nat}

open FixedText (Appends appends_add appends_addEach appends_write)

theorem appends_addCount (slot : Slot) (counts : UInt16) :
    Appends (fun text : FixedText capacity => text.addCount (counts, slot.val))
      (countText slot counts) := by
  have h := @appends_write capacity
    (Decimal.paddedPieces 4 counts.toNat ++ [[if slot.val + 1 = 16 then '\r' else ' ']])
  rwa [List.flatten_append, List.flatten_singleton] at h

theorem appends_addCounts (samples : Samples) :
    Appends (fun text : FixedText capacity => samples.toList.zipIdx.foldl FixedText.addCount text)
      samples.text := by
  rw [samples.zipIdx_toList]
  simp only [List.foldl_map]
  exact .foldl (fun slot => appends_addCount slot (samples.get slot)) (List.finRange 16)

end Appends

namespace Controller

variable {α : Type} {capacity : Nat}

open FixedText (Appends)

/-- The levels of all pins of a port. -/
def portLevels (c : Controller α) (port : Port) : PortLevels :=
  (InputRole.all.map (c.board.inputs.get port).lines.read,
    OutputRole.all.map (c.board.outputs.get port).lines.read)

/-- The levels of all pins of all ports. -/
def levels (c : Controller α) : List PortLevels := Port.all.map c.portLevels

theorem appends_addPortText (c : Controller α) (port : Port) :
    Appends (fun text : FixedText capacity => c.addPortText text port)
      (portText (c.portLevels port)) := by
  have hinput : c.levelText (.input port) = (c.portLevels port).1.map levelChar :=
    InputLines.levelText_eq _
  have houtput : c.levelText (.output port) = (c.portLevels port).2.map levelChar :=
    OutputLines.levelText_eq _
  unfold addPortText portText
  rw [hinput, houtput]
  exact ((@FixedText.appends_addEach capacity _).then (FixedText.appends_add [' ']) :)

theorem appends_addPinText (c : Controller α) :
    Appends (fun text : FixedText capacity => c.addPinText text) (pinText c.levels) := by
  have hports : Appends (fun text : FixedText capacity => Port.all.foldl c.addPortText text)
      (Port.all.flatMap fun port => portText (c.portLevels port)) :=
    .foldl c.appends_addPortText Port.all
  unfold pinText levels
  rw [List.flatMap_map]
  exact (hports.then (FixedText.appends_add ['\r']) :)

theorem length_pinText (c : Controller α) : (pinText c.levels).length = 45 := rfl

theorem length_text {samples : Samples} (h : samples.TwelveBits) : samples.text.length = 80 := by
  have hcount : ∀ slot, (countText slot (samples.get slot)).length = 5 := by
    intro slot
    have hcounts := h slot
    rw [countText, List.length_append, Decimal.length_padded (by decide) (by omega)]
    rfl
  simp only [Samples.text, List.length_flatMap, hcount]
  rfl

theorem length_analogLayout (c : Controller α) {samples : Samples} (h : samples.TwelveBits) :
    (analogLayout c.levels samples).length = 131 := by
  simp only [analogLayout, List.length_append, length_pinText, length_text h]
  rfl

/-- The analog report is complete as long as every sample fits into twelve bits. -/
theorem analogText_eq {c : Controller α} (h : c.board.samples.TwelveBits) :
    c.analogText = analogLayout c.levels c.board.samples := by
  have hpins := (@appends_addPinText α analogTextLength c).then (FixedText.appends_add lineDown)
  have hall := (hpins.then (appends_addCounts c.board.samples)).then (FixedText.appends_add lineUp)
  -- the room is looked at once, for all that is written
  exact hall.chars_eq (ascii_analogLayout c.levels c.board.samples)
    (Nat.le_of_eq (length_analogLayout c h))

/-- The pin report is complete in every state. -/
theorem pinReport_eq (c : Controller α) : c.pinReport = pinText c.levels ++ ['\x00'] := by
  have hall := (@appends_addPinText α pinReportLength c).then (FixedText.appends_add ['\x00'])
  exact hall.chars_eq ((ascii_pinText c.levels).append (ascii_of_all rfl)) (Nat.le_of_eq rfl)

end Controller

/-! ## What is read back -/

namespace TextReader

/-- Takes the character of a level. -/
def level : TextReader Bool := do
  match ← take 1 with
  | ['1'] => return true
  | ['0'] => return false
  | _ => failure

/-- Takes the levels of five input pins and five output pins, and a blank. -/
def portLevels : TextReader PortLevels := do
  let inputs ← InputRole.all.mapM fun _ => level
  let outputs ← OutputRole.all.mapM fun _ => level
  expect [' ']
  return (inputs, outputs)

/-- Takes the levels of four ports, and a return. -/
def pinPart : TextReader (List PortLevels) := do
  let levels ← Port.all.mapM fun _ => portLevels
  expect ['\r']
  return levels

/-- Takes the count of a slot in four places, and a blank, or a return behind that of the last
slot. -/
def count (slot : Slot) : TextReader UInt16 := do
  let counts ← decimal 4
  expect [if slot.val + 1 = 16 then '\r' else ' ']
  return UInt16.ofNat counts

/-- Takes the levels of all pins and the counts of all slots. -/
def analogReport : TextReader (List PortLevels × List UInt16) := do
  let levels ← pinPart
  expect lineDown
  let counts ← (List.finRange 16).mapM count
  expect lineUp
  return (levels, counts)

theorem reads_level (high : Bool) : level.Reads [levelChar high] high := by
  cases high with
  | true => exact (reads_take ['1']).bind_pure rfl
  | false => exact (reads_take ['0']).bind_pure rfl

theorem reads_levels {ι : Type} (read : ι → Bool) (roles : List ι) :
    (roles.mapM fun _ => level).Reads ((roles.map read).map levelChar) (roles.map read) := by
  have h := Reads.mapM (fun role => reads_level (read role)) roles
  rw [List.map_map, List.map_eq_flatMap]
  exact h

theorem reads_portLevels {α : Type} (c : Controller α) (port : Port) :
    portLevels.Reads (portText (c.portLevels port)) (c.portLevels port) := by
  unfold portText
  rw [List.append_assoc]
  refine (reads_levels _ InputRole.all).bind ?_
  refine (reads_levels _ OutputRole.all).bind ?_
  exact (reads_expect [' ']).bind_pure rfl

theorem reads_pinPart {α : Type} (c : Controller α) : pinPart.Reads (pinText c.levels) c.levels := by
  have hports := Reads.mapM (reads_portLevels c) Port.all
  unfold pinText Controller.levels
  rw [List.flatMap_map]
  exact hports.bind ((reads_expect ['\r']).bind_pure rfl)

theorem reads_count (slot : Slot) {counts : UInt16} (h : counts.toNat < 4096) :
    (count slot).Reads (countText slot counts) counts := by
  have hdecimal : (decimal 4).Reads (Decimal.padded 4 counts.toNat) counts.toNat :=
    reads_decimal (by decide) (by omega)
  refine hdecimal.bind ((reads_expect _).bind_pure ?_)
  rw [UInt16.ofNat_toNat]

theorem reads_analogReport {α : Type} (c : Controller α) {samples : Samples}
    (h : samples.TwelveBits) :
    analogReport.Reads (analogLayout c.levels samples) (c.levels, samples.toList) := by
  have hcounts := Reads.mapM (fun slot => reads_count slot (h slot)) (List.finRange 16)
  unfold analogLayout
  rw [samples.toList_eq, List.append_assoc, List.append_assoc]
  refine (reads_pinPart c).bind ?_
  refine (reads_expect lineDown).bind ?_
  refine hcounts.bind ?_
  exact (reads_expect lineUp).bind_pure rfl

end TextReader

namespace Controller

/-- **The reports have a fixed width and lose nothing.** Whatever the converter replies and whatever is
called, the analog report has 131 characters and all parts of its layout, and the level of every pin
and the count of every slot are read back from it. The pin report repeats its pin part, with a NUL. -/
theorem reports_lossless {α ε : Type} [Converter α ε] {adc : α} {board : Board} {config : Config}
    {fresh : Controller α} (hnew : Controller.new adc board config = .ok fresh)
    (hboard : board.samples = {}) (calls : List (Call α)) :
    let c := fresh.calls calls
    c.analogText.length = 131 ∧
      c.analogText = analogLayout c.levels c.board.samples ∧
      TextReader.analogReport.whole? c.analogText = some (c.levels, c.board.samples.toList) ∧
      c.pinReport = c.analogText.take 45 ++ ['\x00'] ∧ c.pinReport.length = 46 := by
  intro c
  have hrange : c.board.samples.TwelveBits := twelveBits_calls hnew hboard calls
  have hpins : c.pinReport = (analogLayout c.levels c.board.samples).take 45 ++ ['\x00'] := by
    have htake : (analogLayout c.levels c.board.samples).take (pinText c.levels).length
        = pinText c.levels := by
      simp only [analogLayout, List.append_assoc, List.take_left]
    rw [pinReport_eq, ← length_pinText c, htake]
  rw [analogText_eq hrange]
  refine ⟨length_analogLayout c hrange, rfl, ?_, hpins, ?_⟩
  · exact (TextReader.reads_analogReport c hrange).whole?
  · rw [pinReport_eq]
    rfl

/-- A converter that replies nothing but ones. One cycle of the sampler fills the slots of the input
ports with the highest count, and the report tells so. -/
theorem reports_lossless_ones :
    ∃ fresh,
      Controller.new ({ channels := Vector.replicate 16 0xFFFF } : Multiplexer) {} {} = .ok fresh ∧
        let c := fresh.calls (List.replicate 3 (.act .sample (by rintro clock ⟨⟩)))
        c.analogText.length = 131 ∧
          (TextReader.analogReport.whole? c.analogText).map Prod.snd =
            some (List.replicate 8 4095 ++ List.replicate 8 0) := by
  obtain ⟨fresh, hnew, hsamples⟩ : ∃ fresh,
      Controller.new ({ channels := Vector.replicate 16 0xFFFF } : Multiplexer) {} {} = .ok fresh ∧
        (fresh.calls (List.replicate 3 (.act .sample (by rintro clock ⟨⟩)))).board.samples.toList =
          List.replicate 8 4095 ++ List.replicate 8 0 := ⟨_, rfl, by decide +kernel⟩
  obtain ⟨hlength, -, hread, -⟩ := reports_lossless hnew rfl
    (List.replicate 3 (.act .sample (by rintro clock ⟨⟩)))
  refine ⟨fresh, hnew, hlength, ?_⟩
  rw [hread, hsamples]
  rfl

end Controller

end PlugWatch
