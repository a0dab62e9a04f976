import PlugWatch.Color.Calibration
import PlugWatch.Hardware.Lines
/-!
# One colour session

A session resets the sensor with two pulses on the clock line (pin 5) and a hold, clocks one
command byte out on the data line (pin 6) and clocks the 54 bytes of the answer back in. Bytes
travel lowest bit first; the sensor takes a bit at the rising clock edge, and the brick at the
falling one.

```text
 release ──► sense ──► pulseHigh ──► release ...
                │          (after the second pulse)
                ▼              ▼
            resetHold ──► loadCommand ──► transmit ──► receive ──► done ──► idle
```

## Main Definitions

* `LinkState` : the step a session is at.
* `Session` : a session with its bit engine.
* `Session.start`, `Session.step` : begin a session, advance it by one bit-timer period.

## Design Notes

A period has two halves. The first half moves the session from step to step; the second half is
the bit engine, which loads bytes and makes clock edges whatever the step is.
-/

namespace PlugWatch

/-- The step a session is at. -/
inductive LinkState where
  /-- No session. -/
  | idle
  /-- Release the clock line. -/
  | release
  /-- Look at the released clock line. -/
  | sense
  /-- The clock line is high for a reset pulse. -/
  | pulseHigh
  /-- The clock line is held low. -/
  | resetHold
  /-- Queue the command byte. -/
  | loadCommand
  /-- The command byte goes out. -/
  | transmit
  /-- The answer comes in. -/
  | receive
  /-- All bytes are in. -/
  | done
  deriving DecidableEq, Repr, Inhabited

/-- The name of a step in diagnostics. -/
def LinkState.label : LinkState → String
  | .idle => "Idle"
  | .release => "Release"
  | .sense => "Sense"
  | .pulseHigh => "PulseHigh"
  | .resetHold => "ResetHold"
  | .loadCommand => "LoadCommand"
  | .transmit => "Transmit"
  | .receive => "Receive"
  | .done => "Done"

/-- A session on one port. -/
structure Session where
  /-- Whether the session holds the bit timer. -/
  inUse : Bool := false
  state : LinkState := .idle
  command : UInt8 := 0
  /-- The byte on its way out or in. -/
  shift : UInt8 := 0
  /-- Whether the bit engine sends; otherwise it receives. -/
  transmit : Bool := false
  clockHigh : Bool := false
  /-- Place of the next byte in the buffer. -/
  byteIndex : Nat := 0
  /-- Bytes that have not been begun. -/
  bytesLeft : Nat := 0
  /-- Bits left of the byte that was begun. -/
  bitsLeft : Nat := 0
  /-- Reset pulses made. -/
  resetPulses : Nat := 0
  /-- Periods spent in the reset hold. -/
  holdTicks : UInt16 := 0
  buffer : Block := .zero
  deriving DecidableEq, Repr

namespace Session

instance : Inhabited Session := ⟨{}⟩

/-- Number of reset pulses before the hold. -/
def pulsesWanted : Nat := 2

/-- Number of bytes in an answer. -/
def answerBytes : Nat := 54

/-- Begins a session; what earlier sessions left in the bit engine is dropped. -/
def start (session : Session) (command : UInt8) : Session :=
  { session with
    inUse := true
    state := .release
    command := command
    resetPulses := 0
    holdTicks := 0
    byteIndex := 0
    bytesLeft := 0
    bitsLeft := 0
    clockHigh := false }

/-- Releases the session. -/
def stop (session : Session) : Session := { session with inUse := false, state := .idle }

/-- The byte at the current place of the buffer. -/
def currentByte (session : Session) : UInt8 := session.buffer[session.byteIndex]?.getD 0

/-- Whether the bit engine has nothing left to do. -/
def engineIdle (session : Session) : Bool := session.bitsLeft = 0 && session.bytesLeft = 0

/-- The first half of a period: moves the session from step to step. -/
def advance (initDelay : UInt16) (session : Session) (lines : InputLines) :
    Session × InputLines :=
  match session.state with
  | .idle => (session, lines)
  | .release => ({ session with state := .sense }, lines.driveTo .pin5 .float)
  | .sense =>
    if lines.read .pin5 && 0 < session.resetPulses then
      ({ session with state := .resetHold, holdTicks := 0 }, lines)
    else ({ session with state := .pulseHigh }, lines.driveTo .pin5 .high)
  | .pulseHigh =>
    let pulses := session.resetPulses + 1
    ({ session with
        resetPulses := pulses
        state := if pulsesWanted ≤ pulses then .resetHold else .release },
      lines.driveTo .pin5 .low)
  | .resetHold =>
    let ticks := session.holdTicks + 1
    ({ session with
        holdTicks := ticks
        state := if initDelay ≤ ticks then .loadCommand else .resetHold },
      lines.driveTo .pin5 .low)
  | .loadCommand =>
    ({ session with
        buffer := session.buffer.set 0 session.command
        bytesLeft := 1
        byteIndex := 0
        transmit := true
        state := .transmit },
      lines)
  | .transmit =>
    if session.engineIdle then
      ({ session with
          bytesLeft := answerBytes, byteIndex := 0, transmit := false, state := .receive },
        lines)
    else (session, lines)
  | .receive =>
    if session.engineIdle then ({ session with state := .done }, lines) else (session, lines)
  | .done => ({ session with state := .idle }, lines)

/-- A rising clock edge: before it, the next bit goes on the data line, or the line is released. -/
def raiseClock (session : Session) (lines : InputLines) : Session × InputLines :=
  if session.transmit then
    let bit := session.shift &&& 1 ≠ 0
    ({ session with shift := session.shift >>> 1, clockHigh := true },
      (lines.driveTo .pin6 (.ofLevel bit)).driveTo .pin5 .high)
  else
    ({ session with clockHigh := true }, (lines.driveTo .pin6 .float).driveTo .pin5 .high)

/-- A byte moved on by one received bit, which enters at the top. -/
def shiftIn (byte : UInt8) (bit : Bool) : UInt8 :=
  if bit then (byte >>> 1) ||| 0x80 else byte >>> 1

/-- A falling clock edge: when receiving, the data line is read just before it, and behind the
last bit of a byte the byte is stored. -/
def lowerClock (session : Session) (lines : InputLines) : Session × InputLines :=
  let left := session.bitsLeft - 1
  let lowered := lines.driveTo .pin5 .low
  if session.transmit then ({ session with bitsLeft := left, clockHigh := false }, lowered)
  else
    let shift := shiftIn session.shift (lines.read .pin6)
    if left = 0 then
      ({ session with
          bitsLeft := left
          clockHigh := false
          shift := shift
          buffer := session.buffer.setIfInBounds session.byteIndex shift
          byteIndex := session.byteIndex + 1 },
        lowered)
    else ({ session with bitsLeft := left, clockHigh := false, shift := shift }, lowered)

/-- Begins the next byte. -/
def beginByte (session : Session) : Session :=
  if session.transmit then
    { session with
      shift := session.currentByte
      byteIndex := session.byteIndex + 1
      bitsLeft := 8
      bytesLeft := session.bytesLeft - 1 }
  else { session with bitsLeft := 8, bytesLeft := session.bytesLeft - 1 }

/-- The second half of a period: the bit engine makes one clock edge, or begins a byte. -/
def clockBit (session : Session) (lines : InputLines) : Session × InputLines :=
  if 0 < session.bitsLeft then
    if session.clockHigh then session.lowerClock lines else session.raiseClock lines
  else if 0 < session.bytesLeft then (session.beginByte, lines)
  else (session, lines)

/-- Advances a session by one period of the bit timer. -/
def step (initDelay : UInt16) (session : Session) (lines : InputLines) : Session × InputLines :=
  if session.state = .idle then (session, lines)
  else
    let (moved, lines) := session.advance initDelay lines
    moved.clockBit lines

end Session

end PlugWatch
