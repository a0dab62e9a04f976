import PlugWatch.Proofs.Wire.ClockEdges
import PlugWatch.Wire.SerialBus
/-!
# One format on both wires

A word reaches the converter by two ways: bit by bit over lines, where two registers are moved up
together, or in a frame of two bytes that a serial bus carries. Neither knows of the other, and they
must agree in the order of the bits and of the bytes for every word and every reply.

## Main Definitions

* `Frame.bits` : the bits of a frame in the order in which a bus sends them.
* `LineEvent.sent` : the levels that calls put on the data line.
* `Wiring.Sound` : no call on a line fails from now on.
* `Wiring.shown` : the levels that the answer line shows while bits are put on the data line.

## Main Statements

* `Wiring.exchange_of_sound` : an exchange on sound lines, call by call.
* `Wiring.one_wire_format` : both ways send the same bits, and read the same bits as the same reply.
-/

namespace PlugWatch

/-! ## Frames bit by bit -/

/-- The bits of a byte, the most significant first. -/
def byteBits (byte : UInt8) : List Bool := (List.range 8).map fun i => byte.toNat.testBit (7 - i)

namespace Frame

/-- The bits of a frame in the order in which they are sent. -/
def bits (frame : Frame) : List Bool := frame.bytes.flatMap byteBits

theorem bits_eq (frame : Frame) : frame.bits = byteBits frame.high ++ byteBits frame.low := by
  simp [bits, bytes]

end Frame

/-- The bits of a word are those of its upper half and behind them those of its lower half. -/
theorem Word.bits_eq_append (word : UInt16) :
    Word.bits word =
      (List.range 8).map (fun i => word.toNat.testBit (7 - i + 8)) ++
        (List.range 8).map (fun i => word.toNat.testBit (7 - i)) :=
  rfl

namespace Frame

/-- A frame of a word has the bits of the word. -/
theorem bits_ofWord (word : UInt16) : (ofWord word).bits = Word.bits word := by
  rw [bits_eq, Word.bits_eq_append]
  congr 1
  · refine List.map_congr_left fun i hi => ?_
    have hi : i < 8 := List.mem_range.mp hi
    have hbyte : (ofWord word).high.toNat = word.toNat >>> 8 % 2 ^ 8 := by simp [ofWord]
    rw [hbyte, Nat.testBit_mod_two_pow, Nat.testBit_shiftRight, Nat.add_comm]
    simp only [show 7 - i < 8 by omega, decide_true, Bool.true_and]
  · refine List.map_congr_left fun i hi => ?_
    have hbyte : (ofWord word).low.toNat = word.toNat % 2 ^ 8 := by simp [ofWord]
    rw [hbyte, Nat.testBit_mod_two_pow]
    simp only [show 7 - i < 8 by omega, decide_true, Bool.true_and]

/-- The word in a frame has the bits of the frame. -/
theorem bits_word (frame : Frame) : Word.bits frame.word = frame.bits := by
  have htestBit (i : Nat) (hi : i < 16) : frame.word.toNat.testBit i =
      ((decide (8 ≤ i) && frame.high.toNat.testBit (i - 8)) || frame.low.toNat.testBit i) := by
    have hword : frame.word.toNat = frame.high.toNat <<< 8 % 2 ^ 16 ||| frame.low.toNat := by
      simp [word]
    rw [hword, Nat.testBit_or, Nat.testBit_mod_two_pow, Nat.testBit_shiftLeft]
    simp only [hi, decide_true, Bool.true_and]
  rw [bits_eq, Word.bits_eq_append]
  congr 1
  · refine List.map_congr_left fun i hi => ?_
    have hi : i < 8 := List.mem_range.mp hi
    -- The lower byte does not reach into the upper half.
    have hlow : frame.low.toNat.testBit (7 - i + 8) = false :=
      Nat.testBit_lt_two_pow (Nat.lt_of_lt_of_le frame.low.toNat_lt
        (Nat.pow_le_pow_right (by decide) (Nat.le_add_left _ _)))
    rw [htestBit _ (by omega), hlow]
    simp
  · refine List.map_congr_left fun i hi => ?_
    rw [htestBit _ (by omega)]
    simp only [show ¬8 ≤ 7 - i by omega, decide_false, Bool.false_and, Bool.false_or]

/-- The bits of a frame write its word. -/
theorem ofBits_bits (frame : Frame) : Word.ofBits frame.bits = frame.word := by
  rw [← bits_word, Word.ofBits_bits]

end Frame

/-! ## Lines without faults -/

/-- The levels that calls put on the data line. -/
def LineEvent.sent (calls : List LineEvent) : List Bool :=
  calls.filterMap fun call => if call.line = .mosi then call.level else none

namespace Wiring

variable {wiring : Wiring}

/-- No call fails from now on. -/
def Sound (wiring : Wiring) : Prop :=
  ∀ line number, wiring.callNumber line ≤ number → wiring.fails line number = false

/-- The wiring behind a line that was set. -/
def drive (wiring : Wiring) (line : Line) (level : Bool) : Wiring :=
  if line = .mosi then { wiring.record line (some level) with data := level }
  else wiring.record line (some level)

/-- The wiring behind a read of the answer line. -/
def sense (wiring : Wiring) : Wiring :=
  if wiring.loopback then wiring.record .miso (some wiring.answer)
  else { wiring.record .miso (some wiring.answer) with answers := wiring.answers.tail }

/-- The wiring behind a bit that was moved. -/
def beat (wiring : Wiring) (bit : Bool) : Wiring :=
  (((wiring.drive .mosi bit).drive .clock true).sense).drive .clock false

/-- The levels that the answer line shows while bits are put on the data line. -/
def shown (wiring : Wiring) (bits : List Bool) : List Bool :=
  if wiring.loopback then bits
  else (List.range bits.length).map fun i => wiring.answers.getD i false

@[simp]
theorem length_shown (wiring : Wiring) (bits : List Bool) :
    (wiring.shown bits).length = bits.length := by
  unfold shown
  split <;> simp

/-- The answer line shows what is to come on it, bit after bit. -/
theorem shown_of_answers (hplain : wiring.loopback = false) {levels later : List Bool}
    (hanswers : wiring.answers = levels ++ later) {bits : List Bool}
    (hlength : levels.length = bits.length) : wiring.shown bits = levels := by
  rw [shown, hplain, hanswers, ← hlength]
  refine List.ext_getElem (by simp) fun i hi hi' => ?_
  simp [List.getD_eq_getElem?_getD, List.getElem?_append_left hi', hi']

theorem shown_nil (wiring : Wiring) : wiring.shown [] = [] := by
  simp [shown]

theorem shown_cons (wiring : Wiring) (bit : Bool) (rest : List Bool) :
    wiring.shown (bit :: rest) =
      ((wiring.drive .mosi bit).drive .clock true).answer :: (wiring.beat bit).shown rest := by
  cases h : wiring.loopback with
  | true => simp [shown, beat, drive, sense, answer, record, h]
  | false =>
    simp [shown, beat, drive, sense, answer, record, h, List.range_succ_eq_map,
      List.getD_eq_getElem?_getD, List.head?_eq_getElem?]

/-! ### Sound lines stay sound -/

theorem Sound.of_record (h : wiring.Sound) (line : Line) (level : Option Bool) {after : Wiring}
    (hfails : after.fails = wiring.fails)
    (hevents : after.events = (wiring.record line level).events) : after.Sound := by
  intro other number hnumber
  rw [hfails]
  refine h other number (Nat.le_trans ?_ hnumber)
  simp [callNumber, hevents, record, List.filter_append]

theorem Sound.drive (h : wiring.Sound) (line : Line) (level : Bool) :
    (wiring.drive line level).Sound := by
  unfold Wiring.drive
  split <;> exact h.of_record line (some level) rfl rfl

theorem Sound.sense (h : wiring.Sound) : wiring.sense.Sound := by
  unfold Wiring.sense
  split <;> exact h.of_record .miso (some wiring.answer) rfl rfl

theorem Sound.beat (h : wiring.Sound) (bit : Bool) : (wiring.beat bit).Sound :=
  (((h.drive _ _).drive _ _).sense).drive _ _

end Wiring

namespace Wire

variable {wiring : Wiring}

theorem traced_drive_of_sound (h : wiring.Sound) (line : Line) (level : Bool) :
    Traced (drive line level) wiring (.ok ()) [⟨line, some level⟩] (wiring.drive line level) where
  run := by rw [run_drive, Wiring.failsNext, h line _ le_rfl]; rfl
  events := by unfold Wiring.drive; split <;> rfl

theorem traced_sense_of_sound (h : wiring.Sound) :
    Traced sense wiring (.ok wiring.answer) [⟨.miso, some wiring.answer⟩] wiring.sense where
  run := by rw [run_sense, Wiring.failsNext, h .miso _ le_rfl]; rfl
  events := by unfold Wiring.sense; split <;> rfl

/-- On sound lines every bit is moved, and the levels that the answer line shows come back. -/
theorem traced_shiftBits_of_sound (h : wiring.Sound) (bits : List Bool) :
    ∃ after, after.Sound ∧ Traced (shiftBits bits) wiring (.ok (wiring.shown bits))
      (beats bits (wiring.shown bits)) after := by
  induction bits generalizing wiring with
  | nil =>
    rw [Wiring.shown_nil]
    exact ⟨wiring, h, .silent rfl⟩
  | cons bit rest ih =>
    obtain ⟨after, hafter, hrest⟩ := ih (h.beat bit)
    refine ⟨after, hafter, ?_⟩
    rw [Wiring.shown_cons]
    have hset := traced_drive_of_sound h .mosi bit
    have hraise := traced_drive_of_sound (h.drive .mosi bit) .clock true
    have hread := traced_sense_of_sound ((h.drive .mosi bit).drive .clock true)
    have hlower := traced_drive_of_sound ((h.drive .mosi bit).drive .clock true).sense .clock false
    refine hset.bind (hraise.bind (hread.bind (hlower.bind ?_)))
    rw [← List.append_nil (List.flatten _)]
    exact hrest.bind (.silent rfl)

/-- On sound lines an exchange selects the converter, moves every bit and releases the converter. -/
theorem traced_exchange_of_sound (h : wiring.Sound) (word : UInt16) :
    ∃ after, Traced (exchange word) wiring (.ok (Word.ofBits (wiring.shown (Word.bits word))))
      (⟨.select, some false⟩ :: beats (Word.bits word) (wiring.shown (Word.bits word)) ++
        [⟨.select, some true⟩]) after := by
  have hselect := traced_drive_of_sound h .select false
  obtain ⟨shifted, hsound, hbits⟩ :=
    traced_shiftBits_of_sound (h.drive .select false) (Word.bits word)
  have hshift := hbits.map Word.ofBits
  rw [← shift_sixteen] at hshift
  have hrelease := traced_drive_of_sound hsound .select true
  exact ⟨_, hselect.bind (hshift.attempt.bind (hrelease.attempt.bind (.silent rfl)))⟩

/-! ### What is sent -/

theorem sent_beats {bits levels : List Bool} (hlength : levels.length = bits.length) :
    LineEvent.sent (beats bits levels) = bits := by
  induction bits generalizing levels with
  | nil => rw [List.eq_nil_of_length_eq_zero hlength]; rfl
  | cons bit rest ih =>
    obtain - | ⟨level, levels⟩ := levels
    · cases hlength
    · exact congrArg (bit :: ·) (ih (Nat.succ.inj hlength))

/-- Selecting and releasing send nothing. -/
theorem sent_selected (first last : Option Bool) (calls : List LineEvent) :
    LineEvent.sent (⟨.select, first⟩ :: calls ++ [⟨.select, last⟩]) = LineEvent.sent calls := by
  simp [LineEvent.sent]

end Wire

namespace Wiring

variable {wiring : Wiring}

/-- The reply and the calls of an exchange on sound lines. -/
theorem exchange_of_sound (h : wiring.Sound) (word : UInt16) :
    wiring.reply word = .ok (Word.ofBits (wiring.shown (Word.bits word))) ∧
      wiring.calls word =
        ⟨.select, some false⟩ :: Wire.beats (Word.bits word) (wiring.shown (Word.bits word)) ++
          [⟨.select, some true⟩] := by
  obtain ⟨after, hexchange⟩ := Wire.traced_exchange_of_sound h word
  constructor
  · rw [reply, hexchange.run]
  · rw [calls, hexchange.run, hexchange.events, List.drop_left]

/-- **Both wires speak one format.** On lines without faults an exchange selects the converter, puts
each of the sixteen bits of the word on the data line, the most significant first, between raising
and lowering the clock reads the level that the answer line shows, and releases the converter. It
sends the bits of the two bytes that go over a serial bus, byte by byte; and where a device on the bus
answers with the same bits as the line, both exchanges give the same reply. -/
theorem one_wire_format {δ ε : Type} [SerialDevice δ ε] (hsound : wiring.Sound) (device : δ)
    (word : UInt16) :
    let levels := wiring.shown (Word.bits word)
    let frame := Frame.ofWord word
    levels.length = 16 ∧
      wiring.calls word =
        ⟨.select, some false⟩ :: Wire.beats (Word.bits word) levels ++ [⟨.select, some true⟩] ∧
      LineEvent.sent (wiring.calls word) = frame.bits ∧
      wiring.reply word = .ok (Word.ofBits levels) ∧
      ∀ (left : δ) (answer : Frame),
        SerialDevice.transfer device frame = (.ok answer, left) → answer.bits = levels →
          (FramedConverter.mk device).exchange word = (.ok (Word.ofBits levels), ⟨left⟩) := by
  intro levels frame
  have hlength : levels.length = (Word.bits word).length := length_shown wiring _
  obtain ⟨hreply, hcalls⟩ := exchange_of_sound hsound word
  refine ⟨hlength.trans (Word.length_bits word), hcalls, ?_, hreply, ?_⟩
  · rw [hcalls, Wire.sent_selected, Wire.sent_beats hlength, Frame.bits_ofWord]
  · intro left answer htransfer hanswer
    rw [FramedConverter.exchange, htransfer, ← hanswer, Frame.ofBits_bits]

/-- A word and a reply whose bytes and bits all stand unevenly. -/
theorem one_wire_format_uneven :
    let wiring : Wiring := { answers := Word.bits 0x0C35 }
    let device : RecordingDevice := { replies := [0x0C35] }
    wiring.Sound ∧ wiring.reply 0x1234 = .ok 0x0C35 ∧
      LineEvent.sent (wiring.calls 0x1234) = byteBits 0x12 ++ byteBits 0x34 ∧
      (FramedConverter.mk device).exchange 0x1234 =
        (.ok 0x0C35, ⟨{ frames := [⟨0x12, 0x34⟩] }⟩) := by
  intro wiring device
  have hsound : wiring.Sound := fun _ _ _ => rfl
  have hshown : wiring.shown (Word.bits 0x1234) = Word.bits 0x0C35 :=
    shown_of_answers rfl (List.append_nil _).symm rfl
  obtain ⟨-, -, hsent, hreply, hframed⟩ := one_wire_format hsound device 0x1234
  rw [hshown, Word.ofBits_bits] at hreply hframed
  refine ⟨hsound, hreply, hsent.trans (Frame.bits_eq _), ?_⟩
  exact hframed { frames := [⟨0x12, 0x34⟩] } (Frame.ofWord 0x0C35) rfl
    (Frame.bits_ofWord _)

end Wiring

end PlugWatch
