import PlugWatch.Proofs.Color.ResetHold
/-!
# How long a colour session takes

A session goes through its script one period after the other, so it is over when the script is, and the
script has two lengths: it is one period shorter if the sensor holds the clock line high when it is looked
at for the second time. On the way the bit engine counts bits and bytes down and goes through the buffer.
The code does not look whether a counter is empty before it takes one off, or whether a place is in the
buffer. Here a second engine does look, and the two are shown to do the same.

## Main Definitions

* `Session.step?` : a period in which an empty counter and a place outside of the buffer are faults.
* `Session.Fits` : what the bit engine is about to use is there.
* `Script.sensed` : the levels that the released clock line has shown.

## Main Statements

* `Session.Exchange.step?_eq` : a session that was started has no faults.
* `Script.length_whole` : the length of a script.
* `LinkWorld.session_ends_on_time` : when a session is over, and that it stays inside its buffer.
-/

namespace PlugWatch

namespace Session

/-! ## The bit engine with its faults -/

/-- A counter with one taken off; an empty counter is a fault. -/
def takeOne? : Nat → Option Nat
  | 0 => none
  | n + 1 => some n

theorem takeOne?_of_pos {n : Nat} (h : 0 < n) : takeOne? n = some (n - 1) := by
  cases n with
  | zero => cases h
  | succ n => rfl

/-- A falling clock edge. The byte behind the last bit has to have a place in the buffer. -/
def lowerClock? (session : Session) (lines : InputLines) : Option (Session × InputLines) :=
  (takeOne? session.bitsLeft).bind fun left =>
    let lowered := lines.driveTo .pin5 .low
    if session.transmit then some ({ session with bitsLeft := left, clockHigh := false }, lowered)
    else
      let shift := shiftIn session.shift (lines.read .pin6)
      if left = 0 then
        if h : session.byteIndex < 54 then
          some
            ({ session with
                bitsLeft := left
                clockHigh := false
                shift := shift
                buffer := session.buffer.set session.byteIndex shift h
                byteIndex := session.byteIndex + 1 },
              lowered)
        else none
      else some ({ session with bitsLeft := left, clockHigh := false, shift := shift }, lowered)

/-- Begins the next byte. One that is to be sent has to have a place in the buffer. -/
def beginByte? (session : Session) : Option Session :=
  (takeOne? session.bytesLeft).bind fun left =>
    if session.transmit then
      session.buffer[session.byteIndex]?.map fun byte =>
        { session with
          shift := byte
          byteIndex := session.byteIndex + 1
          bitsLeft := 8
          bytesLeft := left }
    else some { session with bitsLeft := 8, bytesLeft := left }

/-- The second half of a period, with its faults. -/
def clockBit? (session : Session) (lines : InputLines) : Option (Session × InputLines) :=
  if 0 < session.bitsLeft then
    if session.clockHigh then session.lowerClock? lines else some (session.raiseClock lines)
  else if 0 < session.bytesLeft then session.beginByte?.map fun begun => (begun, lines)
  else some (session, lines)

/-- A period of the bit timer, with its faults. -/
def step? (initDelay : UInt16) (session : Session) (lines : InputLines) :
    Option (Session × InputLines) :=
  if session.state = .idle then some (session, lines)
  else
    let (moved, lines) := session.advance initDelay lines
    moved.clockBit? lines

/-- What the bit engine is about to use is there: the byte to be sent, or the place for the byte whose
last bit comes in. -/
structure Fits (session : Session) : Prop where
  load : session.transmit = true → session.bitsLeft = 0 → 0 < session.bytesLeft →
    session.byteIndex < 54
  store : session.transmit = false → session.bitsLeft = 1 → session.byteIndex < 54

variable {session : Session}

/-- An engine that has nothing to do uses nothing. -/
theorem Fits.of_idle (hbits : session.bitsLeft = 0) (hbytes : session.bytesLeft = 0) :
    session.Fits where
  load _ _ h := absurd h (by omega)
  store _ h := absurd h (by omega)

theorem setIfInBounds_of_lt (block : Block) (byte : UInt8) {place : Nat} (h : place < 54) :
    block.setIfInBounds place byte = block.set place byte h := by
  ext i hi
  simp [Vector.getElem_set, Vector.getElem_setIfInBounds]

theorem lowerClock?_eq (h : session.Fits) (hbits : 0 < session.bitsLeft) (lines : InputLines) :
    session.lowerClock? lines = some (session.lowerClock lines) := by
  unfold lowerClock? lowerClock
  rw [takeOne?_of_pos hbits, Option.bind_some]
  dsimp only
  cases htransmit : session.transmit with
  | true => rfl
  | false =>
    rw [if_neg Bool.false_ne_true, if_neg Bool.false_ne_true]
    by_cases hlast : session.bitsLeft - 1 = 0
    · have hplace := h.store htransmit (by omega)
      rw [if_pos hlast, if_pos hlast, dif_pos hplace, setIfInBounds_of_lt _ _ hplace]
    · rw [if_neg hlast, if_neg hlast]

theorem beginByte?_eq (h : session.Fits) (hbits : session.bitsLeft = 0)
    (hbytes : 0 < session.bytesLeft) : session.beginByte? = some session.beginByte := by
  unfold beginByte? beginByte
  rw [takeOne?_of_pos hbytes, Option.bind_some]
  cases htransmit : session.transmit with
  | true =>
    have hplace := h.load htransmit hbits hbytes
    have hbyte : session.buffer[session.byteIndex]? = some session.currentByte := by
      rw [currentByte, Vector.getElem?_eq_getElem hplace]
      rfl
    rw [if_pos rfl, if_pos rfl, hbyte]
    rfl
  | false => rfl

theorem clockBit?_eq (h : session.Fits) (lines : InputLines) :
    session.clockBit? lines = some (session.clockBit lines) := by
  unfold clockBit? clockBit
  by_cases hbits : 0 < session.bitsLeft
  · rw [if_pos hbits, if_pos hbits]
    split
    · exact lowerClock?_eq h hbits lines
    · rfl
  · rw [if_neg hbits, if_neg hbits]
    split
    · rename_i hbytes
      rw [beginByte?_eq h (by omega) hbytes]
      rfl
    · rfl

/-- The first half of a period leaves the engine with what it needs: it begins the command and the answer
at the first place of the buffer, and else does not touch the engine. -/
theorem fits_advance (h : session.Fits) (delay : UInt16) (lines : InputLines) :
    (session.advance delay lines).1.Fits := by
  have hkept : ∀ (state : LinkState) (pulses : Nat) (ticks : UInt16),
      Fits { session with state := state, resetPulses := pulses, holdTicks := ticks } :=
    fun _ _ _ => ⟨h.load, h.store⟩
  unfold advance
  cases session.state with
  | idle => exact h
  | release => exact hkept _ _ _
  | sense =>
    dsimp only
    split
    · exact hkept _ _ _
    · exact hkept _ _ _
  | pulseHigh => exact hkept _ _ _
  | resetHold => exact hkept _ _ _
  | loadCommand =>
    exact ⟨fun _ _ _ => Nat.zero_lt_succ 53, fun hreceives => Bool.noConfusion hreceives⟩
  | transmit =>
    dsimp only
    split
    · rename_i hidle
      have hbits : session.bitsLeft = 0 := by
        simp only [engineIdle, Bool.and_eq_true, decide_eq_true_eq] at hidle
        exact hidle.1
      exact ⟨fun hsends => Bool.noConfusion hsends,
        fun _ hlast => absurd (hbits.symm.trans hlast) (by decide)⟩
    · exact h
  | receive =>
    dsimp only
    split
    · exact hkept _ _ _
    · exact h
  | done => exact hkept _ _ _

namespace Exchange

variable {delay : UInt16} {command : UInt8} {wire : List Period}

/-- In every situation of a session what the bit engine is about to use is there. -/
theorem fits (h : session.Exchange delay command wire) (hstate : session.state ≠ .idle) :
    session.Fits := by
  cases h with
  | release _ resetting => exact .of_idle resetting.bitsLeft resetting.bytesLeft
  | sense _ resetting => exact .of_idle resetting.bitsLeft resetting.bytesLeft
  | pulseHigh _ _ resetting => exact .of_idle resetting.bitsLeft resetting.bytesLeft
  | resetHold _ _ _ quiet => exact .of_idle quiet.bitsLeft quiet.bytesLeft
  | loadCommand _ _ quiet => exact .of_idle quiet.bitsLeft quiet.bytesLeft
  | sendLow _ _ _ _ sending =>
    exact ⟨fun _ _ hbytes => absurd hbytes (by rw [sending.bytesLeft]; decide),
      fun hreceives => absurd (sending.transmit.symm.trans hreceives) (by decide)⟩
  | sendHigh _ _ _ _ sending =>
    exact ⟨fun _ _ hbytes => absurd hbytes (by rw [sending.bytesLeft]; decide),
      fun hreceives => absurd (sending.transmit.symm.trans hreceives) (by decide)⟩
  | between _ _ _ _ _ between =>
    exact ⟨fun hsends => absurd (between.transmit.symm.trans hsends) (by decide),
      fun _ hlast => absurd (between.bitsLeft.symm.trans hlast) (by decide)⟩
  | receiveLow _ _ _ _ _ hbytes _ receiving =>
    exact ⟨fun _ _ _ => receiving.byteIndex ▸ hbytes, fun _ _ => receiving.byteIndex ▸ hbytes⟩
  | receiveHigh _ _ _ _ _ hbytes _ receiving =>
    exact ⟨fun _ _ _ => receiving.byteIndex ▸ hbytes, fun _ _ => receiving.byteIndex ▸ hbytes⟩
  | done _ _ _ _ _ hbits hbytes => exact .of_idle hbits hbytes
  | ended _ _ _ hidle => exact absurd hidle hstate

/-- **A session that was started has no faults**, whatever the levels on its lines are. -/
theorem step?_eq (h : session.Exchange delay command wire) (lines : InputLines) :
    session.step? delay lines = some (session.step delay lines) := by
  unfold step? Session.step
  by_cases hstate : session.state = .idle
  · rw [if_pos hstate, if_pos hstate]
  · rw [if_neg hstate, if_neg hstate]
    exact clockBit?_eq (fits_advance (h.fits hstate) delay lines) _

end Exchange

end Session

/-! ## The length of a script -/

namespace WireCall

/-- The level that a call finds on the released clock line. -/
def sensed? : WireCall → Option Bool
  | ⟨.sense, .read .pin5 level⟩ => some level
  | _ => none

end WireCall

namespace Script

/-- The levels that the released clock line has shown, one for each look at it. -/
def sensed (wire : List Period) : List Bool := wire.flatten.filterMap WireCall.sensed?

theorem sensed_append (before after : List Period) :
    sensed (before ++ after) = sensed before ++ sensed after := by
  rw [sensed, List.flatten_append, List.filterMap_append]
  rfl

theorem sensed_pulses (first again : Bool) : sensed (pulses first again) = [first, again] := by
  revert first again
  decide

/-- What a session does from its reset pulses on tells the two levels that it has seen. -/
theorem sensed_of_prefix {wire : List Period} {first again : Bool}
    (h : pulses first again <+: wire) : (sensed wire)[1]? = some again := by
  obtain ⟨rest, rfl⟩ := h
  rw [sensed_append, sensed_pulses]
  rfl

theorem length_pulses (first again : Bool) :
    (pulses first again).length = if again then 5 else 6 := by
  revert first again
  decide

/-- The number of periods of a session whose clock line has shown some levels: the reset pulses are over
one period earlier if the second level is high. -/
def duration (delay : UInt16) (seen : List Bool) : Nat :=
  (if seen[1]? = some true then 942 else 943) + holdPeriods delay

theorem duration_le (delay : UInt16) (seen : List Bool) :
    942 + holdPeriods delay ≤ duration delay seen := by
  unfold duration
  split <;> omega

theorem pulses_prefix_whole (delay : UInt16) (command : UInt8) (first again : Bool)
    (levels : List Bool) : pulses first again <+: whole delay command first again levels := by
  simp [whole, lead]

/-- **The length of a script**, with all the bits of an answer. -/
theorem length_whole (delay : UInt16) (command : UInt8) (first again : Bool) {levels : List Bool}
    (h : levels.length = 432) :
    (whole delay command first again levels).length =
      duration delay (sensed (whole delay command first again levels)) := by
  rw [duration, sensed_of_prefix (pulses_prefix_whole delay command first again levels)]
  simp only [whole, lead, List.length_append, length_pulses, List.length_replicate, length_sent,
    length_taken, h, List.length_cons, List.length_nil]
  cases again with
  | true => simp only [if_true]; omega
  | false => simp; omega

end Script

/-! ## The end of a session -/

namespace LinkWorld

open Script

variable (world : LinkWorld) (port : Port) (command : UInt8) {run : List LinkEvent}

/-- A session does no more periods than the bit timer has made. -/
theorem length_wire_le_ticks (run : List LinkEvent) :
    (world.wire port run).length ≤ run.countP LinkEvent.isTick := by
  induction run generalizing world with
  | nil => exact Nat.le_refl 0
  | cons event rest ih =>
    have hperiod : (world.during port event).length ≤ if event.isTick then 1 else 0 := by
      cases event with
      | tick => exact Option.length_toList_le
      | _ => exact Nat.le_refl 0
    rw [wire, List.length_append, List.countP_cons]
    have hrest := ih (world.event event)
    omega

/-- A session that is under way does something in the next period of the bit timer. -/
theorem length_wire_tick_pos {wire : List Period} {delay : UInt16}
    (h : (world.session port).Exchange delay command wire)
    (hstate : (world.session port).state ≠ .idle) : 0 < (world.wire port [.tick]).length := by
  rw [LinkWorld.wire]
  simp [during, Session.period?, h.inUse hstate, hstate]

/-- What a session does on the wire is a part of a script from the beginning, and it is all of the script
exactly if the session is over. -/
theorem ready_iff_whole (hrun : ∀ event ∈ run, event.restarts port = false) :
    let begun := world.event (.start port command)
    ∃ first again levels, levels.length = 432 ∧
      let script := whole world.link.initDelay command first again levels
      begun.wire port run <+: script ∧
        ((begun.events run).link.ready port = true ↔ begun.wire port run = script) := by
  intro begun
  have hexchange := exchange_started world port command hrun
  rw [ready_iff]
  by_cases hidle : ((begun.events run).session port).state = .idle
  · obtain ⟨first, again, levels, hanswered, hwhole⟩ := hexchange.whole_of_idle hidle
    exact ⟨first, again, levels, hanswered.count, hwhole ▸ List.prefix_rfl,
      iff_of_true hidle hwhole⟩
  · -- one more period belongs to the script, and is not on the wire yet
    have hlonger : ∀ event ∈ run ++ [.tick], event.restarts port = false := by
      intro event hmem
      rcases List.mem_append.mp hmem with hmem | hmem
      · exact hrun event hmem
      · rw [List.mem_singleton.mp hmem]
        rfl
    obtain ⟨first, again, levels, hcount, hprefix⟩ := wire_prefix_whole world port command hlonger
    rw [wire_append] at hprefix
    refine ⟨first, again, levels, hcount, (List.prefix_append _ _).trans hprefix,
      iff_of_false hidle fun hwhole => ?_⟩
    rw [← hwhole] at hprefix
    have hmore := length_wire_tick_pos (begun.events run) port command hexchange hidle
    have hlength := hprefix.length_le
    rw [List.length_append] at hlength
    exact absurd (Nat.lt_of_lt_of_le (Nat.lt_add_of_pos_right hmore) hlength) (Nat.lt_irrefl _)

/-- **A session ends on time and stays inside its buffer.** A link is in any state, and a session is
started that is neither started again nor stopped; the lines and the other sessions do what they like.

* With a reset hold of `hold` periods it is over behind the period `942 + hold` if the clock line was high
  when it was looked at for the second time, and behind the one after that otherwise. It is not over
  earlier.
* Whenever the bit timer makes a period, the session takes nothing off an empty counter, and reads and
  writes no byte outside of the buffer. -/
theorem session_ends_on_time (hrun : ∀ event ∈ run, event.restarts port = false) :
    let begun := world.event (.start port command)
    let after := begun.events run
    let delay := world.link.initDelay
    let hold := max 1 delay.toNat
    let seen := sensed (begun.wire port run)
    (after.link.ready port = true ↔
        (if seen[1]? = some true then 942 + hold else 943 + hold) ≤ run.countP LinkEvent.isTick) ∧
      after.link.initDelay = delay ∧
      (after.session port).step? delay (after.lines port) =
        some ((after.session port).step delay (after.lines port)) := by
  intro begun after delay hold seen
  have hexchange := exchange_started world port command hrun
  have hduration : (if seen[1]? = some true then 942 + hold else 943 + hold) =
      duration delay seen := by
    unfold duration
    split <;> rfl
  obtain ⟨first, again, levels, hcount, hprefix, hready⟩ := ready_iff_whole world port command hrun
  refine ⟨?_, ?_, hexchange.step?_eq (after.lines port)⟩
  · rw [hduration, hready]
    have hlength := length_whole delay command first again hcount
    have hticks := length_wire_le_ticks begun port run
    constructor
    · intro hwhole
      rw [← hwhole] at hlength
      exact hlength ▸ hticks
    · intro hlong
      rcases ticks_le_length_wire hrun (exchange_begun world port command) with hlogged | hidle
      · -- the second level has been seen long before
        have hpulses : (pulses first again).length ≤ (begun.wire port run).length :=
          calc (pulses first again).length ≤ 6 := length_pulses_le first again
            _ ≤ 942 + holdPeriods delay := by omega
            _ ≤ duration delay seen := duration_le delay seen
            _ ≤ run.countP LinkEvent.isTick := hlong
            _ ≤ (begun.wire port run).length := hlogged
        have hseen : seen[1]? = some again :=
          sensed_of_prefix
            (List.prefix_of_prefix_length_le (pulses_prefix_whole ..) hprefix hpulses)
        rw [duration, sensed_of_prefix (pulses_prefix_whole ..), ← hseen] at hlength
        exact hprefix.eq_of_length_le (hlength ▸ Nat.le_trans hlong hlogged)
      · exact hready.mp ((ready_iff _ port).mpr hidle)
  · exact (initDelay_events _ run).trans (initDelay_event world _)

/-- With a hold of three periods and a clock line that nothing pulls down a session is over behind period
945, and not behind the one before. -/
theorem session_ends_on_time_high :
    let begun := (LinkWorld.mk { initDelay := 3 } {}).event (.start .p2 0x0D)
    let early := List.replicate 944 LinkEvent.tick
    (∀ event ∈ early ++ [.tick], event.restarts .p2 = false) ∧
      (sensed (begun.wire .p2 early))[1]? = some true ∧
      (begun.events early).link.ready .p2 = false ∧
      (begun.events (early ++ [.tick])).link.ready .p2 = true := by
  intro begun early
  have htick : ∀ event ∈ early ++ [.tick], event = .tick := by
    intro event hmem
    rcases List.mem_append.mp hmem with hmem | hmem
    · exact List.eq_of_mem_replicate hmem
    · exact List.mem_singleton.mp hmem
  have hrun : ∀ event ∈ early ++ [.tick], event.restarts .p2 = false := by
    intro event hmem
    rw [htick event hmem]
    rfl
  have hearly : ∀ event ∈ early, event.restarts .p2 = false := fun event hmem =>
    hrun event (List.mem_append_left _ hmem)
  have hcount : early.countP LinkEvent.isTick = 944 := by
    rw [List.countP_replicate]
    rfl
  have hseen : (sensed (begun.wire .p2 early))[1]? = some true := by decide +kernel
  have hseen' : (sensed (begun.wire .p2 (early ++ [.tick])))[1]? = some true := by decide +kernel
  obtain ⟨hbefore, -⟩ := session_ends_on_time ⟨{ initDelay := 3 }, {}⟩ .p2 0x0D hearly
  obtain ⟨hbehind, -⟩ := session_ends_on_time ⟨{ initDelay := 3 }, {}⟩ .p2 0x0D hrun
  refine ⟨hrun, hseen, ?_, ?_⟩
  · rw [Bool.eq_false_iff, ne_eq, hbefore, hcount]
    rw [if_pos hseen]
    decide
  · rw [hbehind, if_pos hseen', List.countP_append, hcount]
    decide

end LinkWorld

end PlugWatch
