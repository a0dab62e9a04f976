import PlugWatch.Config
import PlugWatch.Port
import PlugWatch.Sampling.Samples
/-!
# Sampling schedules

The sampler walks a fixed table of exchanges in bursts. Each entry says which channel to ask for
and what becomes of the reply that arrives meanwhile, which belongs to the request two exchanges
earlier. So a reply stands two entries behind its request.

## Main Definitions

* `Entry` : one exchange with its request, reply, clock action and pause.
* `Schedule` : the normal and the colour schedule; `Schedule.entries` is the table.
-/

namespace PlugWatch

/-- The channel an entry asks for. -/
inductive Request where
  /-- A fixed slot. -/
  | slot (slot : Slot)
  /-- The slow slot whose turn it is. -/
  | slow
  /-- Pin 6 of the port served in this cycle. -/
  | colorPort
  deriving DecidableEq, Repr

/-- What becomes of the reply that arrives with an entry. -/
inductive Reply where
  /-- It belongs to nothing and is dropped. -/
  | discard
  /-- It goes to a fixed slot. -/
  | slot (slot : Slot)
  /-- It goes to the slow slot whose turn it is, and the turn passes on. -/
  | slow
  /-- It is a raw colour conversion of the port served in this cycle. -/
  | colorRaw (color : Fin 4)
  deriving DecidableEq, Repr

/-- The name of a request in a listing. -/
def Request.label : Request → String
  | .slot s => "Slot(" ++ toString s.val ++ ")"
  | .slow => "Slow"
  | .colorPort => "ColorPort"

/-- The name of a reply in a listing. -/
def Reply.label : Reply → String
  | .discard => "Discard"
  | .slot s => "Slot(" ++ toString s.val ++ ")"
  | .slow => "Slow"
  | .colorRaw color => "ColorRaw(" ++ toString color.val ++ ")"

/-- What an entry does to pin 5 of the port served in this cycle. -/
inductive ClockAction where
  | hold
  | high
  | release
  | low
  deriving DecidableEq, Repr

/-- The name of a clock action in a listing. -/
def ClockAction.label : ClockAction → String
  | .hold => "Hold"
  | .high => "High"
  | .release => "Release"
  | .low => "Low"

/-- The drive of a clock action, if it has one. -/
def ClockAction.drive? : ClockAction → Option Drive
  | .hold => none
  | .high => some .high
  | .release => some .float
  | .low => some .low

/-- Whether a burst ends behind an entry, and how long the sampler then waits. -/
inductive Pause where
  /-- The burst goes on. -/
  | none
  /-- The burst ends; the short period follows. -/
  | short
  /-- The burst ends; the long period follows. -/
  | long
  deriving DecidableEq, Repr

/-- The name of a pause in a listing. -/
def Pause.label : Pause → String
  | .none => "None"
  | .short => "Short"
  | .long => "Long"

/-- One exchange of a schedule. -/
structure Entry where
  request : Request
  reply : Reply
  clock : ClockAction := .hold
  pause : Pause := .none
  deriving DecidableEq, Repr

/-- The columns of an entry in a listing. -/
def Entry.columns (entry : Entry) : List String :=
  [entry.request.label, entry.reply.label, entry.clock.label, entry.pause.label]

/-- Which table a cycle walks. -/
inductive Schedule where
  | normal
  | color
  deriving DecidableEq, Repr, Inhabited

namespace Schedule

/-- The name of a schedule in diagnostics. -/
def label : Schedule → String
  | normal => "Normal"
  | color => "Color"

/-- The table used while no colour sensor is active. -/
def normalEntries : List Entry :=
  [{ request := .slot 0, reply := .discard },
   { request := .slot 1, reply := .slow },
   { request := .slot 2, reply := .slot 0 },
   { request := .slot 3, reply := .slot 1, pause := .short },
   { request := .slot 4, reply := .slot 2 },
   { request := .slot 5, reply := .slot 3 },
   { request := .slot 6, reply := .slot 4 },
   { request := .slot 7, reply := .slot 5, pause := .long },
   { request := .slow, reply := .slot 6 },
   { request := .slow, reply := .slot 7, pause := .short }]

/-- The table used while some colour sensor is active: it also reads the four colours of the port
served in the cycle and clocks its pin 5. -/
def colorEntries : List Entry :=
  [{ request := .colorPort, reply := .discard },
   { request := .slot 0, reply := .slow, clock := .high },
   { request := .slot 1, reply := .colorRaw 3 },
   { request := .slot 2, reply := .slot 0, pause := .short },
   { request := .colorPort, reply := .slot 1 },
   { request := .slot 3, reply := .slot 2, clock := .low },
   { request := .slot 4, reply := .colorRaw 0 },
   { request := .slot 5, reply := .slot 3, pause := .short },
   { request := .colorPort, reply := .slot 4 },
   { request := .slot 6, reply := .slot 5, clock := .release },
   { request := .slot 7, reply := .colorRaw 1 },
   { request := .slow, reply := .slot 6, pause := .long },
   { request := .colorPort, reply := .slot 7 },
   { request := .slow, reply := .discard, clock := .low },
   { request := .slow, reply := .colorRaw 2, pause := .short }]

/-- The table of a schedule. -/
def entries : Schedule → List Entry
  | normal => normalEntries
  | color => colorEntries

/-- The pauses of a schedule, each at least one microsecond. -/
def periods (config : SamplerConfig) : Schedule → Periods
  | normal => config.normal.clamped
  | color => config.color.clamped

end Schedule

end PlugWatch
