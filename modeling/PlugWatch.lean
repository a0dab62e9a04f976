import PlugWatch.Bench.Bench
import PlugWatch.Control.Report
import PlugWatch.Detection.Activity
import PlugWatch.Json.ConfigForm
import PlugWatch.Main
import PlugWatch.Options
import PlugWatch.Simulation
import PlugWatch.Web.Surface
import PlugWatch.Wire.BitBang
import PlugWatch.Wire.SerialBus
import PlugWatch.Proofs.Sampling.Retry
import PlugWatch.Proofs.Sampling.Routing
import PlugWatch.Proofs.Color.Codec
import PlugWatch.Proofs.Color.Exclusion
import PlugWatch.Proofs.Color.Holding
import PlugWatch.Proofs.Color.Publication
import PlugWatch.Proofs.Detection.Disabled
import PlugWatch.Proofs.Detection.Forced
import PlugWatch.Proofs.Detection.Gate
import PlugWatch.Proofs.Detection.Independence
import PlugWatch.Proofs.Detection.Presets
import PlugWatch.Proofs.Detection.Release
import PlugWatch.Proofs.Detection.Restart
import PlugWatch.Proofs.Detection.Settled
import PlugWatch.Proofs.Detection.TestMode
import PlugWatch.Proofs.Detection.Unplugged
import PlugWatch.Proofs.Timing.JobLog
import PlugWatch.Proofs.Calls
import PlugWatch.Proofs.Color.Timeout
import PlugWatch.Proofs.Detection.Connect
import PlugWatch.Proofs.Detection.Sticking
import PlugWatch.Proofs.Detection.BalanceBand
import PlugWatch.Proofs.Detection.LoadedOutput
import PlugWatch.Proofs.Detection.ProbeDrive
import PlugWatch.Proofs.Detection.ReleaseDebounce
import PlugWatch.Proofs.Detection.OutputBands
import PlugWatch.Proofs.Detection.InputCount
import PlugWatch.Proofs.Detection.OutputCount
import PlugWatch.Proofs.Detection.Overflow
import PlugWatch.Proofs.Color.ResetHold
import PlugWatch.Proofs.Wire.ClockEdges
import PlugWatch.Proofs.Wire.Format
import PlugWatch.Proofs.Text.Short
import PlugWatch.Proofs.Sampling.FastLog
import PlugWatch.Proofs.Control.Report
import PlugWatch.Proofs.Control.TestPins
import PlugWatch.Proofs.Timing.Rounds
import PlugWatch.Proofs.Sampling.Cycles
import PlugWatch.Proofs.Bench.Grammar
import PlugWatch.Proofs.Color.Duration
import PlugWatch.Proofs.Json.RoundTrip
import PlugWatch.Proofs.Sampling.Bounds
