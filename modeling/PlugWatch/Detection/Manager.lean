import PlugWatch.Detection.InputWatch
import PlugWatch.Detection.OutputWatch
/-!
# The connection manager

All port watches behind a power-up gate: after power-up and after every switch of test mode the
watches stand still until a hold-off has passed.

## Main Definitions

* `Startup` : the position of the power-up gate.
* `Manager` : the watches, the gate and the configuration.
* `Shared` : the board, the colour sessions and the journal.
* `Manager.tick` : one tick, of the gate or of every watch.
* `Manager.overflows` : whether some count has no room for the tick.
* `Manager.tick?` : one tick, if there is room for it.
* `Manager.setTestMode`, `Manager.setEnabled`, `Manager.force?`, `Manager.requestCommand?` :
  what user space may ask for.
-/

namespace PlugWatch

/-- The position of the power-up gate. -/
inductive Startup where
  /-- Until test mode is off. -/
  | waitTestMode
  /-- The hold-off is about to begin. -/
  | reset
  /-- The hold-off, with the ticks that have passed. -/
  | holdoff (elapsed : UInt16)
  /-- The watches run. -/
  | running
  deriving DecidableEq, Repr, Inhabited

/-- The name of a position of the gate in a listing. -/
def Startup.label : Startup → String
  | .waitTestMode => "WaitTestMode"
  | .reset => "Reset"
  | .holdoff elapsed => "Holdoff(" ++ toString elapsed.toNat ++ ")"
  | .running => "Running"

/-- The board and the colour sessions, with a journal of what happens. -/
structure Shared (κ : Type) where
  board : Board := {}
  /-- The colour sessions, if there is a link. -/
  link : Option κ
  journal : Journal := #[]

/-- The port watches behind the power-up gate. -/
structure Manager where
  config : DetectionConfig
  startup : Startup := .waitTestMode
  testMode : Bool := false
  inputs : PerPort InputWatch := .const {}
  outputs : PerPort OutputWatch := .const {}
  deriving DecidableEq, Repr

namespace Manager

variable {κ : Type}

/-- Whether the watches run. -/
def isRunning (manager : Manager) : Bool := manager.startup = .running

/-- Enters or leaves test mode, and reports it. Either way the gate closes and every watch starts
over. -/
def setTestMode (manager : Manager) (on : Bool) : Manager × Notice :=
  ({ manager with
      testMode := on
      startup := .waitTestMode
      inputs := manager.inputs.map InputWatch.reset
      outputs := manager.outputs.map OutputWatch.reset },
    .testMode on)

/-- Switches detection of an input port on or off. -/
def setEnabled (manager : Manager) (port : Port) (on : Bool) : Manager :=
  { manager with inputs := manager.inputs.modify port fun watch => watch.setEnabled on }

/-- Whether a classification may be forced on an input port: detection is off and the port is
taken to be connected. -/
def mayForce (manager : Manager) (port : Port) : Bool :=
  let watch := manager.inputs.get port
  !watch.enabled && watch.connected

/-- Publishes a forced classification, where that is allowed. -/
def force? (manager : Manager) (port : Port) (classification : Classification) (board : Board) :
    Option Board :=
  if manager.mayForce port then
    some { board with
      inputs := board.inputs.modify port fun socket => { socket with verdict := classification } }
  else none

/-- Asks for a colour command, which a connected port takes. -/
def requestCommand? (manager : Manager) (port : Port) (command : UInt8) : Option Manager :=
  if (manager.inputs.get port).connected then
    some { manager with
      inputs := manager.inputs.modify port fun watch => watch.requestCommand command }
  else none

/-- What the watch of an input port finds. -/
def inputScene (state : Manager × Shared κ) (port : Port) : InputScene κ :=
  { watch := state.1.inputs.get port
    socket := state.2.board.inputs.get port
    link := state.2.link
    journal := state.2.journal }

/-- What the watch of an output port finds. -/
def outputScene (state : Manager × Shared κ) (port : Port) : OutputScene :=
  { watch := state.1.outputs.get port
    socket := state.2.board.outputs.get port
    journal := state.2.journal }

/-- One tick of the watch of an input port. -/
def tickInput [ColorProtocol κ] (port : Port) (state : Manager × Shared κ) :
    Manager × Shared κ :=
  let (manager, shared) := state
  let scene := (inputScene state port).tick manager.config port (shared.board.samples.inPin1 port)
  ({ manager with inputs := manager.inputs.set port scene.watch },
    { board := { shared.board with inputs := shared.board.inputs.set port scene.socket }
      link := scene.link
      journal := scene.journal })

/-- One tick of the watch of an output port. -/
def tickOutput (port : Port) (state : Manager × Shared κ) : Manager × Shared κ :=
  let (manager, shared) := state
  let scene := (outputScene state port).tick manager.config port (shared.board.samples.outPin5 port)
  ({ manager with outputs := manager.outputs.set port scene.watch },
    { shared with
      board := { shared.board with outputs := shared.board.outputs.set port scene.socket }
      journal := scene.journal })

/-- One tick of every watch: the input ports in order, then the output ports. -/
def tickWatches [ColorProtocol κ] (state : Manager × Shared κ) : Manager × Shared κ :=
  let state := Port.all.foldl (fun state port => tickInput port state) state
  Port.all.foldl (fun state port => tickOutput port state) state

/-- One tick of the connection manager: a step of the gate, or of every watch once it is open. -/
def tick [ColorProtocol κ] (manager : Manager) (shared : Shared κ) : Manager × Shared κ :=
  match manager.startup with
  | .waitTestMode =>
    (if manager.testMode then manager else { manager with startup := .reset }, shared)
  | .reset => ({ manager with startup := .holdoff 0 }, shared)
  | .holdoff elapsed =>
    let elapsed := elapsed + 1
    if manager.config.resetTicks ≤ elapsed then
      ({ manager with startup := .running },
        { shared with journal := shared.journal.push .managerRunning })
    else ({ manager with startup := .holdoff elapsed }, shared)
  | .running => tickWatches (manager, shared)

/-! ## Counts without room -/

/-- The count of an input port has no room for its turn. -/
def inputOverflows [ColorProtocol κ] (port : Port) (state : Manager × Shared κ) : Bool :=
  (inputScene state port).overflows state.1.config port (state.2.board.samples.inPin1 port)

/-- The count of an output port has no room for its turn. -/
def outputOverflows (port : Port) (state : Manager × Shared κ) : Bool :=
  (outputScene state port).overflows (state.2.board.samples.outPin5 port)

/-- In a round of input ports some count has no room. Each port finds what the ones in front of it have
left. -/
def inputsOverflow [ColorProtocol κ] : List Port → Manager × Shared κ → Bool
  | [], _ => false
  | port :: rest, state => inputOverflows port state || inputsOverflow rest (tickInput port state)

/-- In a round of output ports some count has no room. -/
def outputsOverflow : List Port → Manager × Shared κ → Bool
  | [], _ => false
  | port :: rest, state => outputOverflows port state || outputsOverflow rest (tickOutput port state)

/-- Some count has no room for the coming tick: the hold-off, or the count of some watch. -/
def overflows [ColorProtocol κ] (manager : Manager) (shared : Shared κ) : Bool :=
  match manager.startup with
  | .waitTestMode | .reset => false
  | .holdoff elapsed => elapsed = 65535
  | .running =>
    inputsOverflow Port.all (manager, shared) ||
      outputsOverflow Port.all
        (Port.all.foldl (fun state port => tickInput port state) (manager, shared))

/-- One tick of the connection manager, if every count has room for it. -/
def tick? [ColorProtocol κ] (manager : Manager) (shared : Shared κ) : Option (Manager × Shared κ) :=
  if manager.overflows shared then none else some (manager.tick shared)

end Manager

end PlugWatch
