import PlugWatch.Detection.Manager
/-!
# What the connection manager is doing

## Main Definitions

* `Activity` : the position of the gate and the stages of all watches.
* `Activity.changes` : what differs between two activities, in text.
-/

namespace PlugWatch

/-- The position of the gate and the stages of all watches. -/
structure Activity where
  startup : Startup
  inputs : PerPort Stage
  outputs : PerPort Stage
  deriving DecidableEq, Repr

/-- What the connection manager is doing. -/
def Manager.activity (manager : Manager) : Activity where
  startup := manager.startup
  inputs := manager.inputs.map InputWatch.stage
  outputs := manager.outputs.map OutputWatch.stage

/-- Whether the gate moved; the hold-off counts as one position. -/
def Startup.movedTo : Startup → Startup → Bool
  | .holdoff _, .holdoff _ => false
  | before, after => before ≠ after

namespace Activity

/-- The stages that changed on one side, each with the name of its port. -/
def stageChanges (side : Side) (before after : PerPort Stage) : List (String × String) :=
  Port.all.filterMap fun port =>
    if before.get port = after.get port then none
    else some (side.label ++ toString port.index, (after.get port).name)

/-- What changed: the gate, then the input ports, then the output ports, each with its new
value. -/
def changes (before after : Activity) : List (String × String) :=
  (if before.startup.movedTo after.startup then [("startup", after.startup.label)] else [])
    ++ stageChanges .input before.inputs after.inputs
    ++ stageChanges .output before.outputs after.outputs

end Activity

end PlugWatch
