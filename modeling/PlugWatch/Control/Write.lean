import PlugWatch.Control.Error
import PlugWatch.Controller
/-!
# Byte-level requests

User space writes short byte sequences and test-pin requests.

| Request | Bytes | Effect |
|---------|-------|--------|
| control | `e` and one byte per input port | `1` and `0` switch detection on and off |
| control | `t` and one connection code per input port | forces a classification |
| pins | one byte per input port | `f` releases, `0` to `7` set pin 5, 13 to 17 colour command |
| test pin | `TestPinRequest` | test mode, raw reads and writes |

## Main Definitions

* `Controller.writeControl`, `Controller.writePins` : the byte sequences.
* `TestPinRequest`, `Controller.testPin` : test mode and raw pin access.

## Design Notes

Every check comes before every effect, so a request that is turned down leaves no trace: the
functions answer either an error or a new controller.
-/

namespace PlugWatch

/-- The byte of an ASCII character. -/
def byteOf (c : Char) : UInt8 := UInt8.ofNat c.toNat

/-- The first four bytes, one for each input port; the rest is left alone. -/
def portBytes? : List UInt8 → Option (PerPort UInt8)
  | a :: b :: c :: d :: _ => some ⟨a, b, c, d⟩
  | _ => none

/-- Test mode and raw pin access. Ports 0 to 3 are inputs and 4 to 7 outputs. -/
inductive TestPinRequest where
  /-- Leave test mode. -/
  | off
  /-- Enter test mode. -/
  | on
  /-- Read the pin levels of a port into a text of a length, terminator included. -/
  | read (port : UInt8) (length : Nat)
  /-- Drive the pins of a port, one character per pin. -/
  | write (port : UInt8) (data : List UInt8)
  deriving DecidableEq, Repr

/-- The text of a request in diagnostics. -/
def TestPinRequest.describe : TestPinRequest → String
  | .off => "Off"
  | .on => "On"
  | .read port length =>
    "Read \x7b port: " ++ toString port.toNat ++ ", length: " ++ toString length ++ " \x7d"
  | .write port data =>
    "Write \x7b port: " ++ toString port.toNat ++ ", data: ["
      ++ String.intercalate ", " (data.map fun byte => toString byte.toNat) ++ "] \x7d"

/-- A port of either side. -/
inductive TestPort where
  | input (port : Port)
  | output (port : Port)
  deriving DecidableEq, Repr

namespace TestPort

/-- The port with a number: inputs first, then outputs. -/
def ofRaw (raw : UInt8) : Except ControlError TestPort :=
  match Port.ofIndex? raw.toNat with
  | some port => .ok (.input port)
  | none =>
    if raw.toNat < 4 then .error (.portOutOfRange raw)
    else
      match Port.ofIndex? (raw.toNat - 4) with
      | some port => .ok (.output port)
      | none => .error (.portOutOfRange raw)

end TestPort

/-- The longest test-pin text, terminator included. -/
def testPinLength : Nat := 16

/-- The drive that a character asks for; other characters leave the pin alone. -/
def driveOfByte? (byte : UInt8) : Option Drive :=
  if byte = byteOf '0' then some .low
  else if byte = byteOf '1' then some .high
  else if byte = byteOf 'x' ∨ byte = byteOf 'X' then some .float
  else none

/-- A level as a character. -/
def levelChar (high : Bool) : Char := if high then '1' else '0'

/-- The levels in the lowest bits of a byte as characters, the lowest bit first. -/
def levelChars (levels : UInt8) (count : Nat) : List Char :=
  (List.range count).map fun bit => levelChar (levels &&& (1 <<< UInt8.ofNat bit) ≠ 0)

/-- The levels of all pins of an input port as characters. -/
def InputLines.levelText (lines : InputLines) : List Char :=
  levelChars lines.levels InputRole.all.length

/-- The levels of all pins of an output port as characters. -/
def OutputLines.levelText (lines : OutputLines) : List Char :=
  levelChars lines.levels OutputRole.all.length

/-- Drives the pins of an input port, one character per pin. -/
def InputLines.driveAll (lines : InputLines) (data : List UInt8) : InputLines :=
  (InputRole.all.zip data).foldl
    (fun lines (role, byte) =>
      match driveOfByte? byte with
      | some drive => lines.driveTo role drive
      | none => lines)
    lines

/-- Drives the pins of an output port, one character per pin. -/
def OutputLines.driveAll (lines : OutputLines) (data : List UInt8) : OutputLines :=
  (OutputRole.all.zip data).foldl
    (fun lines (role, byte) =>
      match driveOfByte? byte with
      | some drive => lines.driveTo role drive
      | none => lines)
    lines

namespace Controller

variable {α : Type}

/-! ## Control bytes -/

/-- Switches detection of a port as its byte says. -/
def applyEnable (c : Controller α) (port : Port) (byte : UInt8) : Controller α :=
  if byte = byteOf '0' then c.setEnabled port false
  else if byte = byteOf '1' then c.setEnabled port true
  else c

/-- Forces the classification that a port's byte names, where that is allowed. -/
def applyForce (c : Controller α) (port : Port) (byte : UInt8) : Controller α :=
  match Classification.forced? byte with
  | none => c
  | some classification =>
    match c.force port classification with
    | (true, c) => c.note (.classificationForced port classification)
    | (false, c) => c

/-- Carries out a step for each port with its byte, in port order. -/
def eachPort (step : Controller α → Port → UInt8 → Controller α) (bytes : PerPort UInt8)
    (c : Controller α) : Controller α :=
  Port.all.foldl (fun c port => step c port (bytes.get port)) c

/-- Carries out a control write and answers the number of bytes taken. -/
def writeControl (c : Controller α) (bytes : List UInt8) :
    Except ControlError (Nat × Controller α) :=
  match bytes with
  | [] => .error .empty
  | command :: rest =>
    match portBytes? rest with
    | none => .error (.tooShort 5 bytes.length)
    | some ports =>
      if command = byteOf 'e' then .ok (bytes.length, c.eachPort applyEnable ports)
      else if command = byteOf 't' then .ok (bytes.length, c.eachPort applyForce ports)
      else .error (.unknownCommand command)

/-! ## Raw-pin bytes -/

/-- Carries out the raw-pin byte of a port. Everything but a release needs a connected port, and
a colour command needs the link. -/
def applyPin (c : Controller α) (port : Port) (byte : UInt8) : Controller α :=
  if byte = byteOf '-' then c
  else if byte = byteOf 'f' then c.modifyInputLines port .release
  else if !(c.manager.inputs.get port).connected then c
  else if byte &&& 0xF8 = byteOf '0' then
    c.modifyInputLines port fun lines => lines.driveTo .pin5 (.ofLevel (byte &&& 2 ≠ 0))
  else if 0x0D ≤ byte ∧ byte ≤ 0x11 ∧ c.link.isSome then
    (c.requestCommand port byte).2.note (.commandQueued port byte)
  else c

/-- Carries out a raw-pin write and answers the number of bytes taken. -/
def writePins (c : Controller α) (bytes : List UInt8) :
    Except ControlError (Nat × Controller α) :=
  match portBytes? bytes with
  | none => .error (.tooShort 4 bytes.length)
  | some ports => .ok (bytes.length, c.eachPort applyPin ports)

/-! ## Test pins -/

/-- The level characters of a port of either side. -/
def levelText (c : Controller α) : TestPort → List Char
  | .input port => (c.board.inputs.get port).lines.levelText
  | .output port => (c.board.outputs.get port).lines.levelText

/-- A text cut or filled with blanks to a length, the last place of which is a NUL. -/
def terminated (length : Nat) (text : List Char) : List UInt8 :=
  match length with
  | 0 => []
  | n + 1 => ((text ++ List.replicate n ' ').take n).map byteOf ++ [0]

/-- Carries out a test-pin request. Only a read answers text. -/
def testPin (c : Controller α) :
    TestPinRequest → Except ControlError (Option (List UInt8) × Controller α)
  | .off => .ok (none, c.setTestMode false)
  | .on => .ok (none, c.setTestMode true)
  | .read port length =>
    if testPinLength < length then .error (.invalidLength length)
    else
      match TestPort.ofRaw port with
      | .error e => .error e
      | .ok port => .ok (some (terminated length (c.levelText port)), c)
  | .write port data =>
    if data.length = 0 ∨ testPinLength ≤ data.length then .error (.invalidLength data.length)
    else
      match TestPort.ofRaw port with
      | .error e => .error e
      | .ok (.input port) => .ok (none, c.modifyInputLines port fun lines => lines.driveAll data)
      | .ok (.output port) => .ok (none, c.modifyOutputLines port fun lines => lines.driveAll data)

end Controller

end PlugWatch
