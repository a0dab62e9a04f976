import PlugWatch.Color.Calibration
import PlugWatch.Notice
import PlugWatch.Port
/-!
# Colour sessions as a port watch sees them

A watch starts a session on its port, asks now and then whether it is over, collects the answer
and releases the session.

## Main Definitions

* `ColorProtocol` : what a watch can do with sessions.
-/

namespace PlugWatch

/-- Sessions with legacy colour sensors, at most one on each input port. Starting and stopping
report what they did. -/
class ColorProtocol (κ : Type) where
  /-- Begins a session that sends a command and reads the calibration block. -/
  start : κ → Port → UInt8 → κ × List Notice
  /-- Whether the session of a port is over, or there was none. -/
  ready : κ → Port → Bool
  /-- Gives up or releases the session of a port. -/
  stop : κ → Port → κ × List Notice
  /-- The bytes that the last session of a port took in. -/
  response : κ → Port → Block

end PlugWatch
