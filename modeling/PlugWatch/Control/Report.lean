import PlugWatch.Control.Write
import PlugWatch.Text.Decimal
import PlugWatch.Text.Fixed
/-!
# Reports for user space

Fixed layouts that tools read.

| Report | Layout |
|--------|--------|
| analog | pin bits of each port, return, line down, sixteen counts, line up |
| pins | pin bits of each port, return, NUL |
| types | four input codes, four output codes, return, NUL |

## Main Definitions

* `Controller.addPinText` : writes the pin bits that two of the reports begin with.
* `Controller.analogText`, `Controller.pinReport`, `Controller.typeCodes` : the reports.
-/

namespace PlugWatch

/-- The place of a report in a terminal: one line down. -/
def lineDown : List Char := ['\x1b', '[', 'B']

/-- The place of a report in a terminal: one line up. -/
def lineUp : List Char := ['\x1b', '[', 'A']

/-- Number of characters for each port in the pin text. -/
def portTextLength : Nat := InputRole.all.length + OutputRole.all.length + 1

/-- Number of characters of the analog report. -/
def analogTextLength : Nat := 4 * portTextLength + 1 + 3 + 16 * 5 + 3

/-- Number of characters of the pin report. -/
def pinReportLength : Nat := 4 * portTextLength + 2

/-- Number of bytes of the type report. -/
def typeCodesLength : Nat := 4 + 4 + 2

/-- Writes the count of a slot in four places, and a blank; a return follows that of the last slot. -/
def FixedText.addCount {capacity : Nat} (text : FixedText capacity) (count : UInt16 × Nat) :
    FixedText capacity :=
  let (counts, slot) := count
  text.write (Decimal.paddedPieces 4 counts.toNat ++ [[if slot + 1 = 16 then '\r' else ' ']])

namespace Controller

variable {α : Type} {capacity : Nat}

/-- Writes the pin bits of one port: input pins, output pins and a blank. -/
def addPortText (c : Controller α) (text : FixedText capacity) (port : Port) :
    FixedText capacity :=
  (text.addEach (c.levelText (.input port) ++ c.levelText (.output port))).add [' ']

/-- Writes the pin bits of every port, and a return. -/
def addPinText (c : Controller α) (text : FixedText capacity) : FixedText capacity :=
  (Port.all.foldl c.addPortText text).add ['\r']

/-- Pin levels and counts as terminal text. -/
def analogText (c : Controller α) : List Char :=
  let text : FixedText analogTextLength := (c.addPinText .empty).add lineDown
  let text := c.board.samples.toList.zipIdx.foldl FixedText.addCount text
  (text.add lineUp).chars

/-- Pin levels as text with a NUL at its end. -/
def pinReport (c : Controller α) : List Char :=
  let text : FixedText pinReportLength := c.addPinText .empty
  (text.add ['\x00']).chars

/-- The published device codes, inputs first, with a return and a NUL at the end. -/
def typeCodes (c : Controller α) : List UInt8 :=
  (Port.all.map fun port => (c.board.inputs.get port).verdict.device.code)
    ++ (Port.all.map fun port => (c.board.outputs.get port).verdict.device.code)
    ++ [byteOf '\r', 0]

end Controller

end PlugWatch
