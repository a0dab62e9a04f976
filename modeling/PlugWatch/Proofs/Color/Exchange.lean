import PlugWatch.Proofs.Color.Wire
/-!
# The exchange of a colour session

A session that was started goes through its steps, whatever the levels on the lines are: it resets
the sensor, sends the command and takes the answer in. This file says for each step what the session
holds and what it has done on the wire so far, and proves that a period of the bit timer leads from
one of these situations to another one.

## Main Definitions

* `Session.Exchange` : a session that was started, and what it has done on the wire since.

## Main Statements

* `Session.exchange_start` : a session that is started has done nothing.
* `Session.Exchange.step` : a period of the bit timer goes on with the exchange.
* `Session.Exchange.whole_of_idle` : a session that is over has carried out its script, and holds the
  levels that it has read.
* `Session.Exchange.length_lt` : it is over before long.
* `PortState.exchange_colorTick`, `PortState.play_colorTick` : the same for a port in a period of the
  bit timer.

## Design Notes

There are two machines in a session, the steps and the bit engine, and each of them leaves fields
behind that the other one finds. The situations name the fields that count: the shift register is
what is left of the command, or what has come of a byte; of the buffer the bytes in front of the
current one are right.
-/

namespace PlugWatch

/-- A bit of a block: the byte, and the place of the bit in it, counted from the lowest. -/
def Block.bit (block : Block) (place : Fin 54) (i : Nat) : Bool :=
  (block.byte place).toNat.testBit i

/-- The first bytes of a block are made of levels, the lowest bit first. -/
def Block.Holds (block : Block) (levels : List Bool) (bytes : Nat) : Prop :=
  ∀ place : Fin 54, place.val < bytes → ∀ i < 8, levels[8 * place.val + i]? = some (block.bit place i)

theorem Block.holds_zero (block : Block) (levels : List Bool) : block.Holds levels 0 :=
  fun _ hplace => absurd hplace (Nat.not_lt_zero _)

/-- A block is made of levels, eight for each byte. -/
structure Block.MadeOf (block : Block) (levels : List Bool) : Prop where
  count : levels.length = 432
  holds : block.Holds levels 54

namespace Block.Holds

variable {block : Block} {levels : List Bool} {bytes : Nat}

/-- A further level changes nothing about the bytes that are there. -/
theorem concat (h : block.Holds levels bytes) (hbytes : 8 * bytes ≤ levels.length) (level : Bool) :
    block.Holds (levels ++ [level]) bytes := by
  intro place hplace i hi
  rw [List.getElem?_append_left (by omega)]
  exact h place hplace i hi

/-- A byte is put behind the ones that are there. -/
theorem store (h : block.Holds levels bytes) {byte : UInt8}
    (hbyte : ∀ i < 8, levels[8 * bytes + i]? = some (byte.toNat.testBit i)) :
    Block.Holds (block.setIfInBounds bytes byte) levels (bytes + 1) := by
  intro place hplace i hi
  by_cases hlast : place.val = bytes
  · have hget : Block.byte (block.setIfInBounds bytes byte) place = byte := by
      simp [Block.byte, ← hlast]
    rw [hlast, Block.bit, hget]
    exact hbyte i hi
  · have hget : Block.byte (block.setIfInBounds bytes byte) place = block.byte place := by
      simp [Block.byte, Ne.symm hlast]
    rw [Block.bit, hget]
    exact h place (by omega) i hi

end Block.Holds

namespace Session

open Script

/-! ## Bits of the shift register -/

theorem lowest_bit (byte : UInt8) : decide (byte &&& 1 ≠ 0) = byte.toNat.testBit 0 := by
  have hand : (byte &&& 1).toNat = byte.toNat % 2 := by
    rw [UInt8.toNat_and]
    exact Nat.and_one_is_mod _
  rw [Nat.testBit_zero, decide_eq_decide, ne_eq, ← UInt8.toNat_inj, hand]
  show ¬byte.toNat % 2 = 0 ↔ _
  omega

/-- A bit that is shifted in gets in at the top, and the others move down. -/
theorem testBit_shiftIn (byte : UInt8) (bit : Bool) {i : Nat} (hi : i < 8) :
    (shiftIn byte bit).toNat.testBit i =
      if i = 7 then bit else byte.toNat.testBit (i + 1) := by
  have htop : byte.toNat.testBit 8 = false := Nat.testBit_lt_two_pow byte.toNat_lt
  have hmoved : (byte >>> 1).toNat.testBit i = byte.toNat.testBit (i + 1) := by
    simp [Nat.testBit_shiftRight, Nat.add_comm]
  have hmask : ∀ i < 8, (0x80 : UInt8).toNat.testBit i = decide (i = 7) := by decide
  have hvacant : i = 7 → byte.toNat.testBit (i + 1) = false := by
    rintro rfl
    exact htop
  unfold shiftIn
  split
  · rename_i hbit
    rw [UInt8.toNat_or, Nat.testBit_or, hmoved, hmask i hi, hbit]
    by_cases hlast : i = 7
    · simp [hlast]
    · simp [hlast]
  · rename_i hbit
    rw [hmoved]
    by_cases hlast : i = 7
    · rw [if_pos hlast, hvacant hlast]
      simpa using hbit
    · rw [if_neg hlast]

/-- A level that is shifted in comes behind the bits of the byte that are there. -/
theorem shiftIn_concat {levels : List Bool} {bytes bits : Nat} {byte : UInt8}
    (hcount : levels.length = 8 * bytes + bits) (hbits : bits < 8)
    (h : ∀ i < bits, levels[8 * bytes + i]? = some (byte.toNat.testBit (8 - bits + i)))
    (level : Bool) :
    ∀ i < bits + 1, (levels ++ [level])[8 * bytes + i]? =
      some ((shiftIn byte level).toNat.testBit (8 - (bits + 1) + i)) := by
  intro i hi
  rw [testBit_shiftIn byte level (by omega)]
  rcases Nat.lt_or_eq_of_le (Nat.le_of_lt_succ hi) with hold | rfl
  · have hplace : 8 - (bits + 1) + i + 1 = 8 - bits + i := by omega
    rw [List.getElem?_append_left (by omega), h i hold, if_neg (by omega), hplace]
  · rw [if_pos (by omega), ← hcount, List.getElem?_concat_length]

/-! ## Situations of a session -/

/-- The bit engine has nothing to do. -/
structure Quiet (session : Session) (command : UInt8) : Prop where
  inUse : session.inUse = true
  command : session.command = command
  bitsLeft : session.bitsLeft = 0
  bytesLeft : session.bytesLeft = 0
  clockHigh : session.clockHigh = false

/-- The steps in front of the command leave the bit engine alone. -/
theorem Quiet.moved {session : Session} {command : UInt8} (h : session.Quiet command)
    (state : LinkState) (pulses : Nat) (ticks : UInt16) :
    Quiet { session with state := state, resetPulses := pulses, holdTicks := ticks } command :=
  ⟨h.inUse, h.command, h.bitsLeft, h.bytesLeft, h.clockHigh⟩

/-- The sensor is being reset, and the clock line has shown some levels in front of the pulses that
were made. -/
structure Resetting (session : Session) (command : UInt8) (seen : List Bool) : Prop extends
    Quiet session command where
  pulses : session.resetPulses = seen.length
  few : seen.length < 2
  ticks : session.holdTicks = 0

/-- The command is on its way out, and a number of its bits have been sent. -/
structure Sending (session : Session) (command : UInt8) (k : Nat) (high : Bool) : Prop where
  inUse : session.inUse = true
  state : session.state = .transmit
  transmit : session.transmit = true
  bitsLeft : session.bitsLeft = 8 - k
  bytesLeft : session.bytesLeft = 0
  clockHigh : session.clockHigh = high
  /-- The bit on the data line has left the shift register. -/
  shift : session.shift.toNat = command.toNat >>> (k + high.toNat)

theorem Sending.bitsLeft_pos {session : Session} {command : UInt8} {k : Nat} {high : Bool}
    (h : session.Sending command k high) (hk : k < 8) : 0 < session.bitsLeft := by
  rw [h.bitsLeft]
  omega

/-- The answer is on its way in: some bytes of it, and some bits of the next byte. -/
structure Receiving (session : Session) (levels : List Bool) (bytes bits : Nat) (high : Bool) :
    Prop where
  inUse : session.inUse = true
  state : session.state = .receive
  transmit : session.transmit = false
  count : levels.length = 8 * bytes + bits
  byteIndex : session.byteIndex = bytes
  bitsLeft : session.bitsLeft = 8 - bits
  bytesLeft : session.bytesLeft = 53 - bytes
  clockHigh : session.clockHigh = high
  /-- The bits of the byte are at the top of the shift register. -/
  shift : ∀ i < bits, levels[8 * bytes + i]? = some (session.shift.toNat.testBit (8 - bits + i))
  stored : session.buffer.Holds levels bytes

theorem Receiving.bitsLeft_pos {session : Session} {levels : List Bool} {bytes bits : Nat}
    {high : Bool} (h : session.Receiving levels bytes bits high) (hbits : bits < 8) :
    0 < session.bitsLeft := by
  rw [h.bitsLeft]
  omega

/-- Some bytes of the answer are in, and the next one has not been begun. -/
structure Between (session : Session) (levels : List Bool) (bytes : Nat) : Prop where
  inUse : session.inUse = true
  state : session.state = .receive
  transmit : session.transmit = false
  count : levels.length = 8 * bytes
  byteIndex : session.byteIndex = bytes
  bitsLeft : session.bitsLeft = 0
  bytesLeft : session.bytesLeft = 54 - bytes
  clockHigh : session.clockHigh = false
  stored : session.buffer.Holds levels bytes

/-- A session that was started with a command, and what it has done on the wire since: one situation
for each step, and two more for the places of a byte between which the bit engine goes to and fro. -/
inductive Exchange (delay : UInt16) (command : UInt8) (session : Session) (wire : List Period) :
    Prop
  | release (seen : List Bool) (resetting : session.Resetting command seen)
      (hstate : session.state = .release) (hwire : wire = seen.flatMap pulse)
  | sense (seen : List Bool) (resetting : session.Resetting command seen)
      (hstate : session.state = .sense)
      (hwire : wire = seen.flatMap pulse ++ [[⟨.release, .drive .pin5 .float⟩]])
  /-- A second pulse is made only if the clock line is low. -/
  | pulseHigh (seen : List Bool) (level : Bool) (resetting : session.Resetting command seen)
      (hstate : session.state = .pulseHigh) (hlevel : seen ≠ [] → level = false)
      (hwire : wire = seen.flatMap pulse ++
        [[⟨.release, .drive .pin5 .float⟩],
          [⟨.sense, .read .pin5 level⟩, ⟨.sense, .drive .pin5 .high⟩]])
  | resetHold (first again : Bool) (m : Nat) (quiet : session.Quiet command)
      (hstate : session.state = .resetHold) (hticks : session.holdTicks.toNat = m)
      (hm : m < holdPeriods delay)
      (hwire : wire = pulses first again ++ List.replicate m held)
  | loadCommand (first again : Bool) (quiet : session.Quiet command)
      (hstate : session.state = .loadCommand)
      (hwire : wire = pulses first again ++ List.replicate (holdPeriods delay) held)
  | sendLow (first again : Bool) (k : Nat) (hk : k ≤ 8)
      (sending : session.Sending command k false)
      (hwire : wire = lead delay first again ++ sent command k)
  | sendHigh (first again : Bool) (k : Nat) (hk : k < 8) (sending : session.Sending command k true)
      (hwire : wire = lead delay first again ++ sent command k ++ [raised command k])
  | between (first again : Bool) (levels : List Bool) (bytes : Nat) (hbytes : bytes ≤ 54)
      (between : session.Between levels bytes)
      (hwire : wire = lead delay first again ++ sent command 8 ++ taken levels)
  | receiveLow (first again : Bool) (levels : List Bool) (bytes bits : Nat) (hbytes : bytes < 54)
      (hbits : bits < 8) (receiving : session.Receiving levels bytes bits false)
      (hwire : wire = lead delay first again ++ sent command 8 ++
        (taken levels ++ gap levels.length))
  | receiveHigh (first again : Bool) (levels : List Bool) (bytes bits : Nat) (hbytes : bytes < 54)
      (hbits : bits < 8) (receiving : session.Receiving levels bytes bits true)
      (hwire : wire = lead delay first again ++ sent command 8 ++
        (taken levels ++ gap levels.length ++ [freed]))
  | done (first again : Bool) (levels : List Bool) (hinUse : session.inUse = true)
      (hstate : session.state = .done) (hbits : session.bitsLeft = 0)
      (hbytes : session.bytesLeft = 0) (answered : session.buffer.MadeOf levels)
      (hwire : wire = lead delay first again ++ sent command 8 ++ taken levels ++ [[]])
  | ended (first again : Bool) (levels : List Bool) (hstate : session.state = .idle)
      (answered : session.buffer.MadeOf levels)
      (hwire : wire = whole delay command first again levels)

/-- A session that is started has done nothing, whatever earlier sessions have left behind. -/
theorem exchange_start (delay : UInt16) (command : UInt8) (session : Session) :
    Exchange delay command (session.start command) [] :=
  .release [] ⟨⟨rfl, rfl, rfl, rfl, rfl⟩, rfl, by decide, rfl⟩ rfl rfl

/-! ## Periods in which the bit engine has nothing to do -/

section Turns

variable {delay : UInt16} {command : UInt8} {session : Session} {wire : List Period}

theorem step_of_ne_idle (delay : UInt16) {session : Session} (h : session.state ≠ .idle)
    (lines : InputLines) :
    session.step delay lines =
      (session.advance delay lines).1.clockBit (session.advance delay lines).2 := by
  rw [step, if_neg h]

theorem period_of_ne_idle (delay : UInt16) {session : Session} (h : session.state ≠ .idle)
    (lines : InputLines) :
    session.period delay lines =
      (session.advanceCalls lines).map (WireCall.mk session.state) ++
        ((session.advance delay lines).1.clockCalls (session.advance delay lines).2).map
          (WireCall.mk (session.advance delay lines).1.state) := by
  rw [period, if_neg h]

/-- The bit engine keeps still if there is no byte for it. -/
theorem turn_of_quiet {lines between : InputLines} {moved : Session}
    (h : session.state ≠ .idle) (hadvance : session.advance delay lines = (moved, between))
    (hbits : moved.bitsLeft = 0) (hbytes : moved.bytesLeft = 0) :
    (session.step delay lines).1 = moved ∧
      session.period delay lines =
        (session.advanceCalls lines).map (WireCall.mk session.state) := by
  rw [step_of_ne_idle delay h, period_of_ne_idle delay h, hadvance]
  simp [clockBit, clockCalls, hbits, hbytes]

/-- The bit engine begins a byte if it has none. -/
theorem turn_of_begin {lines between : InputLines} {moved : Session}
    (h : session.state ≠ .idle) (hadvance : session.advance delay lines = (moved, between))
    (hcalls : session.advanceCalls lines = []) (hbits : moved.bitsLeft = 0)
    (hbytes : 0 < moved.bytesLeft) :
    (session.step delay lines).1 = moved.beginByte ∧ session.period delay lines = [] := by
  rw [step_of_ne_idle delay h, period_of_ne_idle delay h, hadvance, hcalls]
  simp [clockBit, clockCalls, hbits, hbytes]

/-- While the bit engine is at a byte, the session keeps to its step. -/
theorem turn_of_edge (delay : UInt16) (lines : InputLines)
    (h : session.state = .transmit ∨ session.state = .receive) (hbits : 0 < session.bitsLeft) :
    session.step delay lines =
        (if session.clockHigh then session.lowerClock lines else session.raiseClock lines) ∧
      session.period delay lines =
        (session.clockCalls lines).map (WireCall.mk session.state) := by
  have hbusy : session.engineIdle = false := by
    simp [engineIdle, Nat.ne_of_gt hbits]
  have hadvance : session.advance delay lines = (session, lines) ∧
      session.advanceCalls lines = [] := by
    rcases h with h | h <;> simp [advance, advanceCalls, h, hbusy]
  have hne : session.state ≠ .idle := by
    rcases h with h | h <;> rw [h] <;> decide
  rw [step_of_ne_idle delay hne, period_of_ne_idle delay hne, hadvance.1, hadvance.2]
  simp [clockBit, hbits]

/-! ## The reset of the sensor -/

/-- The situation behind a period, with what the period did. -/
abbrev Goes (delay : UInt16) (command : UInt8) (session : Session) (wire : List Period)
    (lines : InputLines) : Prop :=
  Exchange delay command (session.step delay lines).1 (wire ++ [session.period delay lines])

theorem goes_release {seen : List Bool} (h : session.Resetting command seen)
    (hstate : session.state = .release) (hwire : wire = seen.flatMap pulse) (lines : InputLines) :
    Goes delay command session wire lines := by
  have hadvance : session.advance delay lines =
      ({ session with state := .sense }, lines.driveTo .pin5 .float) := by
    rw [advance, hstate]
  have hcalls : session.advanceCalls lines = [.drive .pin5 .float] := by
    rw [advanceCalls, hstate]
  obtain ⟨hstep, hperiod⟩ := turn_of_quiet (by rw [hstate]; decide) hadvance h.bitsLeft h.bytesLeft
  rw [Goes, hstep, hperiod, hcalls, hstate, hwire]
  exact .sense seen ⟨h.toQuiet.moved _ _ _, h.pulses, h.few, h.ticks⟩ rfl rfl

theorem goes_sense {seen : List Bool} (h : session.Resetting command seen)
    (hstate : session.state = .sense)
    (hwire : wire = seen.flatMap pulse ++ [[⟨.release, .drive .pin5 .float⟩]])
    (lines : InputLines) : Goes delay command session wire lines := by
  have hne : session.state ≠ .idle := by rw [hstate]; decide
  by_cases hagain : (lines.read .pin5 && 0 < session.resetPulses) = true
  · -- the sensor answers the first pulse
    have hadvance : session.advance delay lines =
        ({ session with state := .resetHold, holdTicks := 0 }, lines) := by
      simp [advance, hstate, hagain]
    have hcalls : session.advanceCalls lines = [.read .pin5 true] := by
      simp [advanceCalls, hstate, hagain]
    obtain ⟨hstep, hperiod⟩ := turn_of_quiet hne hadvance h.bitsLeft h.bytesLeft
    have hpulsed : 0 < seen.length := by
      rw [← h.pulses]
      simpa using (Bool.and_eq_true_iff.mp hagain).2
    obtain ⟨first, rfl⟩ : ∃ first, seen = [first] :=
      List.length_eq_one_iff.mp (Nat.le_antisymm (Nat.le_of_lt_succ h.few) hpulsed)
    rw [Goes, hstep, hperiod, hcalls, hstate, hwire]
    exact .resetHold first true 0 (h.toQuiet.moved _ _ _) rfl rfl (holdPeriods_pos delay) rfl
  · have hadvance : session.advance delay lines =
        ({ session with state := .pulseHigh }, lines.driveTo .pin5 .high) := by
      simp [advance, hstate, hagain]
    have hcalls : session.advanceCalls lines =
        [.read .pin5 (lines.read .pin5), .drive .pin5 .high] := by
      simp [advanceCalls, hstate, hagain]
    obtain ⟨hstep, hperiod⟩ := turn_of_quiet hne hadvance h.bitsLeft h.bytesLeft
    have hlow : seen ≠ [] → lines.read .pin5 = false := by
      intro hseen
      have hpulsed : 0 < session.resetPulses := h.pulses ▸ List.length_pos_iff.mpr hseen
      simpa [hpulsed] using hagain
    rw [Goes, hstep, hperiod, hcalls, hstate, hwire, List.append_assoc]
    exact .pulseHigh seen _ ⟨h.toQuiet.moved _ _ _, h.pulses, h.few, h.ticks⟩ rfl hlow rfl

theorem goes_pulseHigh {seen : List Bool} {level : Bool} (h : session.Resetting command seen)
    (hstate : session.state = .pulseHigh) (hlevel : seen ≠ [] → level = false)
    (hwire : wire = seen.flatMap pulse ++
      [[⟨.release, .drive .pin5 .float⟩],
        [⟨.sense, .read .pin5 level⟩, ⟨.sense, .drive .pin5 .high⟩]])
    (lines : InputLines) : Goes delay command session wire lines := by
  have hadvance : session.advance delay lines =
      ({ session with
          resetPulses := session.resetPulses + 1
          state := if pulsesWanted ≤ session.resetPulses + 1 then .resetHold else .release },
        lines.driveTo .pin5 .low) := by
    simp [advance, hstate]
  have hcalls : session.advanceCalls lines = [.drive .pin5 .low] := by
    rw [advanceCalls, hstate]
  obtain ⟨hstep, hperiod⟩ := turn_of_quiet (by rw [hstate]; decide) hadvance h.bitsLeft h.bytesLeft
  rw [Goes, hstep, hperiod, hcalls, hstate, hwire]
  have hpulses := h.pulses
  match seen, h.few with
  | [], _ =>
    exact .release [level] ⟨h.toQuiet.moved _ _ _, congrArg (· + 1) hpulses, Nat.one_lt_two,
      h.ticks⟩ (by simp [hpulses, pulsesWanted]) rfl
  | [first], _ =>
    -- the second pulse was made because the clock line was low
    obtain rfl := hlevel (by simp)
    exact .resetHold first false 0 (h.toQuiet.moved _ _ _) (by simp [hpulses, pulsesWanted])
      (congrArg UInt16.toNat h.ticks) (holdPeriods_pos delay) rfl

theorem goes_resetHold {first again : Bool} {m : Nat} (h : session.Quiet command)
    (hstate : session.state = .resetHold) (hticks : session.holdTicks.toNat = m)
    (hm : m < holdPeriods delay)
    (hwire : wire = pulses first again ++ List.replicate m held) (lines : InputLines) :
    Goes delay command session wire lines := by
  have hadvance : session.advance delay lines =
      ({ session with
          holdTicks := session.holdTicks + 1
          state := if delay ≤ session.holdTicks + 1 then .loadCommand else .resetHold },
        lines.driveTo .pin5 .low) := by
    simp [advance, hstate]
  have hcalls : session.advanceCalls lines = [.drive .pin5 .low] := by
    rw [advanceCalls, hstate]
  obtain ⟨hstep, hperiod⟩ := turn_of_quiet (by rw [hstate]; decide) hadvance h.bitsLeft h.bytesLeft
  have hheld : wire ++ [[⟨LinkState.resetHold, PinCall.drive .pin5 .low⟩]] =
      pulses first again ++ List.replicate (m + 1) held := by
    rw [hwire, List.replicate_succ', List.append_assoc]
    rfl
  -- the count of the periods does not overflow: it has not reached the delay
  have hsize : delay.toNat < 65536 := delay.toNat_lt
  have hcount : (session.holdTicks + 1).toNat = m + 1 := by
    unfold holdPeriods at hm
    rw [UInt16.toNat_add, hticks]
    show (m + 1) % 65536 = m + 1
    omega
  rw [Goes, hstep, hperiod, hcalls, hstate]
  by_cases hlast : delay ≤ session.holdTicks + 1
  · have hwhole : m + 1 = holdPeriods delay := by
      rw [UInt16.le_iff_toNat_le, hcount] at hlast
      unfold holdPeriods at hm ⊢
      omega
    exact .loadCommand first again (h.moved _ _ _) (if_pos hlast) (hwhole ▸ hheld)
  · have hmore : m + 1 < holdPeriods delay := by
      rw [UInt16.le_iff_toNat_le, hcount] at hlast
      unfold holdPeriods
      omega
    exact .resetHold first again (m + 1) (h.moved _ _ _) (if_neg hlast) hcount hmore hheld

/-! ## The command -/

theorem goes_loadCommand {first again : Bool} (h : session.Quiet command)
    (hstate : session.state = .loadCommand)
    (hwire : wire = pulses first again ++ List.replicate (holdPeriods delay) held)
    (lines : InputLines) : Goes delay command session wire lines := by
  have hadvance : session.advance delay lines =
      ({ session with
          buffer := session.buffer.set 0 session.command
          bytesLeft := 1
          byteIndex := 0
          transmit := true
          state := .transmit },
        lines) := by
    rw [advance, hstate]
  have hcalls : session.advanceCalls lines = [] := by
    rw [advanceCalls, hstate]
  obtain ⟨hstep, hperiod⟩ := turn_of_begin (by rw [hstate]; decide) hadvance hcalls h.bitsLeft
    Nat.one_pos
  rw [Goes, hstep, hperiod, hwire]
  refine .sendLow first again 0 (Nat.zero_le 8) ⟨h.inUse, rfl, rfl, rfl, rfl, h.clockHigh, ?_⟩ ?_
  · show ((session.buffer.set 0 session.command)[0]?.getD 0).toNat = command.toNat >>> 0
    simp [h.command]
  · simp [lead, sent]

/-- The next bit of the command goes out. -/
theorem goes_sendLow {first again : Bool} {k : Nat} (hk : k < 8)
    (h : session.Sending command k false) (hwire : wire = lead delay first again ++ sent command k)
    (lines : InputLines) : Goes delay command session wire lines := by
  have hbits := h.bitsLeft_pos hk
  have hbit : decide (session.shift &&& 1 ≠ 0) = command.toNat.testBit k := by
    rw [lowest_bit, h.shift, Nat.testBit_shiftRight]
    rfl
  have hcalls : session.clockCalls lines =
      [.drive .pin6 (.ofLevel (command.toNat.testBit k)), .drive .pin5 .high] := by
    rw [← hbit]
    simp [clockCalls, hbits, h.clockHigh, h.transmit]
  have hraise : (session.raiseClock lines).1 =
      { session with shift := session.shift >>> 1, clockHigh := true } := by
    simp [raiseClock, h.transmit]
  have hshift : (session.shift >>> 1).toNat = command.toNat >>> (k + 1) := by
    rw [Nat.shiftRight_add, ← show session.shift.toNat = command.toNat >>> k from h.shift]
    simp
  obtain ⟨hstep, hperiod⟩ := turn_of_edge delay lines (.inl h.state) hbits
  rw [Goes, hstep, hperiod, hcalls, h.state, h.clockHigh, if_neg Bool.false_ne_true, hraise, hwire]
  exact .sendHigh first again k hk
    ⟨h.inUse, h.state, h.transmit, h.bitsLeft, h.bytesLeft, rfl, hshift⟩ rfl

theorem goes_sendHigh {first again : Bool} {k : Nat} (hk : k < 8)
    (h : session.Sending command k true)
    (hwire : wire = lead delay first again ++ sent command k ++ [raised command k])
    (lines : InputLines) : Goes delay command session wire lines := by
  have hbits := h.bitsLeft_pos hk
  have hcalls : session.clockCalls lines = [.drive .pin5 .low] := by
    simp [clockCalls, hbits, h.clockHigh, h.transmit]
  have hlower : (session.lowerClock lines).1 =
      { session with bitsLeft := session.bitsLeft - 1, clockHigh := false } := by
    simp [lowerClock, h.transmit]
  have hleft : session.bitsLeft - 1 = 8 - (k + 1) := by
    rw [h.bitsLeft]
    omega
  obtain ⟨hstep, hperiod⟩ := turn_of_edge delay lines (.inl h.state) hbits
  rw [Goes, hstep, hperiod, hcalls, h.state, h.clockHigh, if_pos rfl, hlower, hwire]
  exact .sendLow first again (k + 1) hk
    ⟨h.inUse, h.state, h.transmit, hleft, h.bytesLeft, rfl, h.shift⟩ (by simp [sent])

/-- When the command is out, the first byte of the answer is begun. -/
theorem goes_sent {first again : Bool} (h : session.Sending command 8 false)
    (hwire : wire = lead delay first again ++ sent command 8) (lines : InputLines) :
    Goes delay command session wire lines := by
  have hidle : session.engineIdle = true := by
    simp [engineIdle, h.bitsLeft, h.bytesLeft]
  have hadvance : session.advance delay lines =
      ({ session with
          bytesLeft := answerBytes, byteIndex := 0, transmit := false, state := .receive },
        lines) := by
    simp [advance, h.state, hidle]
  have hcalls : session.advanceCalls lines = [] := by
    rw [advanceCalls, h.state]
  obtain ⟨hstep, hperiod⟩ := turn_of_begin (by rw [h.state]; decide) hadvance hcalls h.bitsLeft
    (show 0 < answerBytes by decide)
  rw [Goes, hstep, hperiod, hwire]
  refine .receiveLow first again [] 0 0 (by decide) (by decide) ?_ (by simp [taken, takenFrom, gap])
  exact ⟨h.inUse, rfl, rfl, rfl, rfl, rfl, rfl, h.clockHigh,
    fun _ hi => absurd hi (Nat.not_lt_zero _), Block.holds_zero _ _⟩

/-! ## The answer -/

theorem goes_between {first again : Bool} {levels : List Bool} {bytes : Nat} (hbytes : bytes < 54)
    (h : session.Between levels bytes)
    (hwire : wire = lead delay first again ++ sent command 8 ++ taken levels) (lines : InputLines) :
    Goes delay command session wire lines := by
  have hmore : 0 < session.bytesLeft := by
    rw [h.bytesLeft]
    omega
  have hbusy : session.engineIdle = false := by
    simp [engineIdle, Nat.ne_of_gt hmore]
  have hadvance : session.advance delay lines = (session, lines) := by
    simp [advance, h.state, hbusy]
  have hcalls : session.advanceCalls lines = [] := by
    rw [advanceCalls, h.state]
  have hbegin : session.beginByte =
      { session with bitsLeft := 8, bytesLeft := session.bytesLeft - 1 } := by
    simp [beginByte, h.transmit]
  have hleft : session.bytesLeft - 1 = 53 - bytes := by
    rw [h.bytesLeft]
    omega
  have hgap : gap levels.length = [[]] := by
    rw [gap, h.count, if_pos (Nat.mul_mod_right 8 bytes)]
  obtain ⟨hstep, hperiod⟩ := turn_of_begin (by rw [h.state]; decide) hadvance hcalls h.bitsLeft hmore
  rw [Goes, hstep, hperiod, hbegin, hwire]
  refine .receiveLow first again levels bytes 0 hbytes (by decide) ?_ (by simp [hgap])
  exact ⟨h.inUse, h.state, h.transmit, h.count, h.byteIndex, rfl, hleft, h.clockHigh,
    fun _ hi => absurd hi (Nat.not_lt_zero _), h.stored⟩

/-- When all bytes are in, the session is done. -/
theorem goes_answered {first again : Bool} {levels : List Bool} (h : session.Between levels 54)
    (hwire : wire = lead delay first again ++ sent command 8 ++ taken levels) (lines : InputLines) :
    Goes delay command session wire lines := by
  have hidle : session.engineIdle = true := by
    simp [engineIdle, h.bitsLeft, h.bytesLeft]
  have hadvance : session.advance delay lines = ({ session with state := .done }, lines) := by
    simp [advance, h.state, hidle]
  have hcalls : session.advanceCalls lines = [] := by
    rw [advanceCalls, h.state]
  obtain ⟨hstep, hperiod⟩ := turn_of_quiet (by rw [h.state]; decide) hadvance h.bitsLeft h.bytesLeft
  rw [Goes, hstep, hperiod, hcalls, hwire]
  exact .done first again levels h.inUse rfl h.bitsLeft h.bytesLeft ⟨h.count, h.stored⟩ rfl

theorem goes_receiveLow {first again : Bool} {levels : List Bool} {bytes bits : Nat}
    (hbytes : bytes < 54) (hbits : bits < 8) (h : session.Receiving levels bytes bits false)
    (hwire : wire = lead delay first again ++ sent command 8 ++
      (taken levels ++ gap levels.length)) (lines : InputLines) :
    Goes delay command session wire lines := by
  have hmore := h.bitsLeft_pos hbits
  have hcalls : session.clockCalls lines = [.drive .pin6 .float, .drive .pin5 .high] := by
    simp [clockCalls, hmore, h.clockHigh, h.transmit]
  have hraise : (session.raiseClock lines).1 = { session with clockHigh := true } := by
    simp [raiseClock, h.transmit]
  obtain ⟨hstep, hperiod⟩ := turn_of_edge delay lines (.inr h.state) hmore
  rw [Goes, hstep, hperiod, hcalls, h.state, h.clockHigh, if_neg Bool.false_ne_true, hraise, hwire]
  refine .receiveHigh first again levels bytes bits hbytes hbits ?_ (by simp [freed])
  exact ⟨h.inUse, h.state, h.transmit, h.count, h.byteIndex, h.bitsLeft, h.bytesLeft, rfl, h.shift,
    h.stored⟩

/-- A level is read just in front of the falling edge; behind the last one of a byte, the byte is
put into the buffer. -/
theorem goes_receiveHigh {first again : Bool} {levels : List Bool} {bytes bits : Nat}
    (hbytes : bytes < 54) (hbits : bits < 8) (h : session.Receiving levels bytes bits true)
    (hwire : wire = lead delay first again ++ sent command 8 ++
      (taken levels ++ gap levels.length ++ [freed])) (lines : InputLines) :
    Goes delay command session wire lines := by
  have hmore := h.bitsLeft_pos hbits
  have hcalls : session.clockCalls lines =
      [.read .pin6 (lines.read .pin6), .drive .pin5 .low] := by
    simp [clockCalls, hmore, h.clockHigh, h.transmit]
  have htaken : lead delay first again ++ sent command 8 ++
        (taken levels ++ gap levels.length ++ [freed]) ++ [lowered (lines.read .pin6)] =
      lead delay first again ++ sent command 8 ++ taken (levels ++ [lines.read .pin6]) := by
    simp [taken_concat]
  have hleft : session.bitsLeft - 1 = 8 - (bits + 1) := by
    rw [h.bitsLeft]
    omega
  have hcount : (levels ++ [lines.read .pin6]).length = 8 * bytes + (bits + 1) := by
    simp [h.count, Nat.add_assoc]
  have hshift := shiftIn_concat h.count hbits h.shift (lines.read .pin6)
  have hstored := h.stored.concat (h.count ▸ Nat.le_add_right _ _) (lines.read .pin6)
  obtain ⟨hstep, hperiod⟩ := turn_of_edge delay lines (.inr h.state) hmore
  rw [Goes, hstep, hperiod, hcalls, h.state, h.clockHigh, if_pos rfl, hwire]
  rcases Nat.lt_or_eq_of_le hbits with hnext | hlast
  · have hlower : (session.lowerClock lines).1 =
        { session with
          bitsLeft := session.bitsLeft - 1
          clockHigh := false
          shift := shiftIn session.shift (lines.read .pin6) } := by
      have hne : ¬session.bitsLeft - 1 = 0 := by omega
      simp [lowerClock, h.transmit, hne]
    have hgap : gap (levels ++ [lines.read .pin6]).length = [] := by
      rw [gap, hcount, if_neg (by omega)]
    rw [hlower]
    refine .receiveLow first again (levels ++ [lines.read .pin6]) bytes (bits + 1) hbytes hnext ?_ ?_
    · exact ⟨h.inUse, h.state, h.transmit, hcount, h.byteIndex, hleft, h.bytesLeft, rfl, hshift,
        hstored⟩
    · rw [hgap, List.append_nil]
      exact htaken
  · have hlower : (session.lowerClock lines).1 =
        { session with
          bitsLeft := session.bitsLeft - 1
          clockHigh := false
          shift := shiftIn session.shift (lines.read .pin6)
          buffer := session.buffer.setIfInBounds bytes (shiftIn session.shift (lines.read .pin6))
          byteIndex := session.byteIndex + 1 } := by
      have heq : session.bitsLeft - 1 = 0 := by omega
      simp [lowerClock, h.transmit, heq, h.byteIndex]
    obtain rfl : bits = 7 := by omega
    rw [hlower]
    refine .between first again (levels ++ [lines.read .pin6]) (bytes + 1) hbytes ?_ htaken
    refine ⟨h.inUse, h.state, h.transmit, hcount, ?_, hleft, ?_, rfl, ?_⟩
    · exact congrArg (· + 1) h.byteIndex
    · show session.bytesLeft = 54 - (bytes + 1)
      rw [h.bytesLeft]
      omega
    · refine hstored.store fun i hi => ?_
      have hbit := hshift i hi
      rwa [Nat.sub_self, Nat.zero_add] at hbit

theorem goes_done {first again : Bool} {levels : List Bool} (hstate : session.state = .done)
    (hbits : session.bitsLeft = 0) (hbytes : session.bytesLeft = 0)
    (answered : session.buffer.MadeOf levels)
    (hwire : wire = lead delay first again ++ sent command 8 ++ taken levels ++ [[]])
    (lines : InputLines) : Goes delay command session wire lines := by
  have hadvance : session.advance delay lines = ({ session with state := .idle }, lines) := by
    rw [advance, hstate]
  have hcalls : session.advanceCalls lines = [] := by
    rw [advanceCalls, hstate]
  obtain ⟨hstep, hperiod⟩ := turn_of_quiet (by rw [hstate]; decide) hadvance hbits hbytes
  rw [Goes, hstep, hperiod, hcalls, hwire]
  exact .ended first again levels rfl ⟨answered.count, answered.holds⟩ (by simp [whole])

namespace Exchange

/-- What a period does in each situation leads to another one. -/
theorem goes (h : Exchange delay command session wire) (hstate : session.state ≠ .idle)
    (lines : InputLines) : Goes delay command session wire lines := by
  cases h with
  | release seen resetting hstate hwire => exact goes_release resetting hstate hwire lines
  | sense seen resetting hstate hwire => exact goes_sense resetting hstate hwire lines
  | pulseHigh seen level resetting hstate hlevel hwire =>
    exact goes_pulseHigh resetting hstate hlevel hwire lines
  | resetHold first again m quiet hstate hticks hm hwire =>
    exact goes_resetHold quiet hstate hticks hm hwire lines
  | loadCommand first again quiet hstate hwire => exact goes_loadCommand quiet hstate hwire lines
  | sendLow first again k hk sending hwire =>
    rcases Nat.lt_or_eq_of_le hk with hmore | rfl
    · exact goes_sendLow hmore sending hwire lines
    · exact goes_sent sending hwire lines
  | sendHigh first again k hk sending hwire => exact goes_sendHigh hk sending hwire lines
  | between first again levels bytes hbytes between hwire =>
    rcases Nat.lt_or_eq_of_le hbytes with hmore | rfl
    · exact goes_between hmore between hwire lines
    · exact goes_answered between hwire lines
  | receiveLow first again levels bytes bits hbytes hbits receiving hwire =>
    exact goes_receiveLow hbytes hbits receiving hwire lines
  | receiveHigh first again levels bytes bits hbytes hbits receiving hwire =>
    exact goes_receiveHigh hbytes hbits receiving hwire lines
  | done first again levels hinUse hstate hbits hbytes answered hwire =>
    exact goes_done hstate hbits hbytes answered hwire lines
  | ended first again levels hidle answered hwire => exact absurd hidle hstate

/-- A session that was started is under way, and not for long; or it is over, has carried out its
script and holds the levels that it has read. -/
theorem underway_or_ended (h : Exchange delay command session wire) :
    (session.inUse = true ∧ session.state ≠ .idle ∧ wire.length < 943 + holdPeriods delay) ∨
      (session.state = .idle ∧ ∃ first again levels, session.buffer.MadeOf levels ∧
        wire = whole delay command first again levels) := by
  cases h with
  | release seen resetting hstate hwire =>
    refine .inl ⟨resetting.inUse, by simp [hstate], ?_⟩
    have hfew := resetting.few
    simp only [hwire, length_pulsed]
    omega
  | sense seen resetting hstate hwire =>
    refine .inl ⟨resetting.inUse, by simp [hstate], ?_⟩
    have hfew := resetting.few
    simp only [hwire, List.length_append, length_pulsed, List.length_singleton]
    omega
  | pulseHigh seen level resetting hstate hlevel hwire =>
    refine .inl ⟨resetting.inUse, by simp [hstate], ?_⟩
    have hfew := resetting.few
    simp only [hwire, List.length_append, length_pulsed, List.length_cons, List.length_nil]
    omega
  | resetHold first again m quiet hstate hticks hm hwire =>
    refine .inl ⟨quiet.inUse, by simp [hstate], ?_⟩
    have hpulses := length_pulses_le first again
    simp only [hwire, List.length_append, List.length_replicate]
    omega
  | loadCommand first again quiet hstate hwire =>
    refine .inl ⟨quiet.inUse, by simp [hstate], ?_⟩
    have hpulses := length_pulses_le first again
    simp only [hwire, List.length_append, List.length_replicate]
    omega
  | sendLow first again k hk sending hwire =>
    refine .inl ⟨sending.inUse, by simp [sending.state], ?_⟩
    have hlead := length_lead_le delay first again
    simp only [hwire, List.length_append, length_sent]
    omega
  | sendHigh first again k hk sending hwire =>
    refine .inl ⟨sending.inUse, by simp [sending.state], ?_⟩
    have hlead := length_lead_le delay first again
    simp only [hwire, List.length_append, length_sent, List.length_singleton]
    omega
  | between first again levels bytes hbytes between hwire =>
    refine .inl ⟨between.inUse, by simp [between.state], ?_⟩
    have hlead := length_lead_le delay first again
    simp only [hwire, List.length_append, length_sent, length_taken, between.count]
    omega
  | receiveLow first again levels bytes bits hbytes hbits receiving hwire =>
    refine .inl ⟨receiving.inUse, by simp [receiving.state], ?_⟩
    have hlead := length_lead_le delay first again
    have hgap := length_gap_le levels.length
    simp only [hwire, List.length_append, length_sent, length_taken, receiving.count] at hgap ⊢
    omega
  | receiveHigh first again levels bytes bits hbytes hbits receiving hwire =>
    refine .inl ⟨receiving.inUse, by simp [receiving.state], ?_⟩
    have hlead := length_lead_le delay first again
    have hgap := length_gap_le levels.length
    simp only [hwire, List.length_append, length_sent, length_taken, receiving.count,
      List.length_singleton] at hgap ⊢
    omega
  | done first again levels hinUse hstate hbits hbytes answered hwire =>
    refine .inl ⟨hinUse, by simp [hstate], ?_⟩
    have hlead := length_lead_le delay first again
    simp only [hwire, List.length_append, length_sent, length_taken, answered.count,
      List.length_singleton]
    omega
  | ended first again levels hidle answered hwire =>
    exact .inr ⟨hidle, first, again, levels, answered, hwire⟩

/-- A session that was started is in use until it is over. -/
theorem inUse (h : Exchange delay command session wire) (hstate : session.state ≠ .idle) :
    session.inUse = true := by
  rcases h.underway_or_ended with ⟨hinUse, -⟩ | ⟨hover, -⟩
  · exact hinUse
  · exact absurd hover hstate

/-- A session that is over has carried out its script, and holds the levels that it has read. -/
theorem whole_of_idle (h : Exchange delay command session wire) (hstate : session.state = .idle) :
    ∃ first again levels, session.buffer.MadeOf levels ∧
      wire = whole delay command first again levels := by
  rcases h.underway_or_ended with ⟨-, hunderway, -⟩ | ⟨-, hwhole⟩
  · exact absurd hstate hunderway
  · exact hwhole

/-- A session is over before long. -/
theorem length_lt (h : Exchange delay command session wire) (hstate : session.state ≠ .idle) :
    wire.length < 943 + holdPeriods delay := by
  rcases h.underway_or_ended with ⟨-, -, hlength⟩ | ⟨hover, -⟩
  · exact hlength
  · exact absurd hover hstate

/-- **A period of the bit timer goes on with the exchange**, or leaves it alone if it is over. -/
theorem step (h : Exchange delay command session wire) (lines : InputLines) :
    Exchange delay command (session.step delay lines).1
      (wire ++ (session.period? delay lines).toList) := by
  by_cases hstate : session.state = .idle
  · have hstep : session.step delay lines = (session, lines) := by
      rw [Session.step, if_pos hstate]
    have hperiod : session.period? delay lines = none := by
      simp [period?, hstate]
    rw [hstep, hperiod]
    simpa using h
  · have hperiod : session.period? delay lines = some (session.period delay lines) := by
      simp [period?, hstate, h.inUse hstate]
    rw [hperiod]
    exact h.goes hstate lines

end Exchange

end Turns

end Session

namespace PortState

/-- What the session of a port does on the wire in a period of the bit timer, if it is in use and not
over. -/
def period? (delay : UInt16) (state : PortState) : Option Period :=
  state.session.bind fun session => session.period? delay state.socket.lines

/-- A period of the bit timer goes on with the exchange at a port. -/
theorem exchange_colorTick {delay : UInt16} {command : UInt8} {state : PortState}
    {session : Session} {wire : List Period} (hsession : state.session = some session)
    (h : session.Exchange delay command wire) :
    ∃ stepped, (state.colorTick delay).session = some stepped ∧
      stepped.Exchange delay command (wire ++ (state.period? delay).toList) := by
  unfold colorTick period?
  rw [hsession, Option.bind_some]
  dsimp only
  split
  · exact ⟨_, rfl, h.step state.socket.lines⟩
  · -- a session that is not in use has come to its end
    rename_i hidle
    have hperiod : session.period? delay state.socket.lines = none := by
      simp [Session.period?, hidle]
    rw [hperiod]
    exact ⟨session, hsession, by simpa using h⟩

/-- A session that is over is left as it is, and does nothing on the wire. -/
theorem colorTick_of_idle (delay : UInt16) {state : PortState} {session : Session}
    (hsession : state.session = some session) (hidle : session.state = .idle) :
    (state.colorTick delay).session = some session ∧ state.period? delay = none := by
  unfold colorTick period?
  rw [hsession, Option.bind_some]
  dsimp only
  refine ⟨?_, by simp [Session.period?, hidle]⟩
  split
  · rw [Session.step, if_pos hidle]
  · exact hsession

/-- What a period of the bit timer does to the lines of a port is what its calls do. -/
theorem play_colorTick (delay : UInt16) (state : PortState) :
    Period.play? (state.period? delay).toList.flatten state.socket.lines =
      some (state.colorTick delay).socket.lines := by
  unfold colorTick period?
  rcases hsession : state.session with - | session
  · rfl
  · dsimp only [Option.bind_some]
    by_cases hrunning : session.inUse = true ∧ session.state ≠ .idle
    · have hperiod : session.period? delay state.socket.lines =
          some (session.period delay state.socket.lines) := by
        simp [Session.period?, hrunning.1, hrunning.2]
      rw [hperiod, if_pos hrunning.1]
      simpa using session.play_period delay state.socket.lines
    · have hperiod : session.period? delay state.socket.lines = none := by
        rw [Session.period?, if_neg (by simpa using hrunning)]
      rw [hperiod]
      split
      · -- a session that is over leaves the lines alone
        rename_i hinUse
        have hidle : session.state = .idle := by simpa [hinUse] using hrunning
        rw [Session.step, if_pos hidle]
        rfl
      · rfl

end PortState

end PlugWatch
