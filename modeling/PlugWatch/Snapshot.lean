import PlugWatch.Controller
/-!
# Snapshots

The published view of the brick, and what changed between two views.

## Main Definitions

* `PortSnapshot`, `BrickSnapshot` : the view of a port and of the whole brick.
* `Controller.snapshot` : the present view.
* `BrickSnapshot.changes` : the devices that appeared or went between two views.
-/

namespace PlugWatch

/-- The published view of one port. -/
structure PortSnapshot where
  port : Port
  stage : Stage
  classification : Classification
  connected : Bool
  /-- Whether detection is switched on; it always is on output ports. -/
  enabled : Bool
  /-- Input pin 1 or output pin 5. -/
  millivolts : UInt16
  deriving DecidableEq, Repr

/-- The published view of the brick. -/
structure BrickSnapshot where
  running : Bool
  testMode : Bool
  cycles : UInt32
  /-- Whether the sampler walks the colour schedule. -/
  colorSchedule : Bool
  inputs : PerPort PortSnapshot
  outputs : PerPort PortSnapshot
  deriving DecidableEq, Repr

namespace Controller

variable {α : Type}

/-- The view of an input port. -/
def inputSnapshot (c : Controller α) (port : Port) : PortSnapshot :=
  let watch := c.manager.inputs.get port
  { port := port
    stage := watch.stage
    classification := (c.board.inputs.get port).verdict
    connected := watch.connected
    enabled := watch.enabled
    millivolts := millivoltsOfCounts (c.board.samples.inPin1 port) }

/-- The view of an output port. -/
def outputSnapshot (c : Controller α) (port : Port) : PortSnapshot :=
  let watch := c.manager.outputs.get port
  { port := port
    stage := watch.stage
    classification := (c.board.outputs.get port).verdict
    connected := watch.connected
    enabled := true
    millivolts := millivoltsOfCounts (c.board.samples.outPin5 port) }

/-- The present view. -/
def snapshot (c : Controller α) : BrickSnapshot where
  running := c.manager.isRunning
  testMode := c.manager.testMode
  cycles := c.board.cycles
  colorSchedule := c.sampler.schedule = .color
  inputs := .ofFn c.inputSnapshot
  outputs := .ofFn c.outputSnapshot

end Controller

namespace PortSnapshot

/-- What happened to a port's device between two views. -/
def change? (side : Side) (before after : PortSnapshot) : Option Notice :=
  if before.classification = after.classification then none
  else if after.classification = .none then some (.deviceRemoved side after.port)
  else some (.deviceDetected side after.port after.classification after.millivolts)

end PortSnapshot

/-- What happened to the devices between two views: the input ports in order, then the output
ports. -/
def BrickSnapshot.changes (before after : BrickSnapshot) : List Notice :=
  (Port.all.filterMap fun port =>
    PortSnapshot.change? .input (before.inputs.get port) (after.inputs.get port))
  ++ (Port.all.filterMap fun port =>
    PortSnapshot.change? .output (before.outputs.get port) (after.outputs.get port))

end PlugWatch
