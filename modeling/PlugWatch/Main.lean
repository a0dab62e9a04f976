import PlugWatch.Simulation
/-!
# The simulator

Keeps a simulated brick on wall time, prints what happens on its ports, and answers requests to
the web surface that are written to standard input, one per line: method, path and body with a
blank between them.
-/

namespace PlugWatch

/-- The help text. -/
def helpText : String :=
  String.intercalate "\n"
    [ "Simulated brick: ports, sampler and connection manager in real time",
      "",
      "Usage: plugwatch [OPTIONS]",
      "",
      "Options:",
      "      --host <HOST>         Address of the web surface [default: 0.0.0.0]",
      "  -p, --port <PORT>         Port of the web surface [default: 8080]",
      "      --plug <PORT=DEVICE>  Device to plug at the start; may be repeated",
      "      --reset-ms <MS>       Hold-off after power-up [default: 2000]",
      "      --pin2-detection      Watch pin 2 for legacy sensors",
      "      --tick-ms <MS>        Time between two rounds [default: 1]",
      "      --no-web              Answer no requests",
      "      --no-cors             Give no leave to pages of other origins",
      "  -h, --help                Print help",
      "  -V, --version             Print version" ]

/-- The version text. -/
def versionText : String := "plugwatch 0.1.0"

/-- A line being read from standard input. -/
abbrev PendingLine := Task (Except IO.Error String)

/-- Begins to read a line. -/
def beginLine : IO PendingLine := do
  let input ← IO.getStdin
  IO.asTask input.getLine

/-- Answers the line that was read, if there is one, and begins to read the next. -/
def serveLine (simulation : Simulation) (pending : Option PendingLine) :
    IO (Simulation × Option PendingLine) := do
  match pending with
  | none => return (simulation, none)
  | some task =>
    if ← IO.hasFinished task then
      match task.get with
      | .error _ => return (simulation, none)
      | .ok line =>
        if line.isEmpty then return (simulation, none)
        let (answer, simulation) := simulation.request line.trimAscii.toString
        IO.println answer
        return (simulation, some (← beginLine))
    else return (simulation, pending)

/-- Keeps the brick on wall time, round after round, as long as the words of the controller are long
enough. -/
partial def runForever (periodMs : UInt32) (startNanos : Nat) (simulation : Simulation)
    (pending : Option PendingLine) : IO Unit := do
  let now ← IO.monoNanosNow
  match simulation.advance (UInt64.ofNat ((now - startNanos) / 1000)) with
  | .error _ => IO.eprintln "ERROR a word of the controller is too short"
  | .ok (lines, simulation) =>
    for line in lines do
      IO.println line
    let (simulation, pending) ← serveLine simulation pending
    (← IO.getStdout).flush
    IO.sleep periodMs
    runForever periodMs startNanos simulation pending

/-- Starts a run. -/
def runWith (options : Options) : IO UInt32 := do
  for plug in options.plugs do
    IO.println ("INFO plugged plug=" ++ plug.describe)
  match Simulation.start options with
  | .error fault =>
    IO.eprintln ("ERROR failed to configure the ADC: " ++ fault.message)
    return 1
  | .ok simulation =>
    let pending ←
      if options.noWeb then do
        IO.println "INFO HTTP API disabled"
        pure none
      else do
        IO.println ("INFO API: http://" ++ simulation.web.address.render ++ "/api/ports")
        pure (some (← beginLine))
    let periodMs := UInt32.ofNat (min (max options.tickMs.toNat 1) (UInt32.size - 1))
    runForever periodMs (← IO.monoNanosNow) simulation pending
    return 0

/-- Carries out a command line and answers its exit code. -/
def runCommand (arguments : List String) : IO UInt32 := do
  match Options.parse arguments with
  | .ok options => runWith options
  | .error .help =>
    IO.println helpText
    return 0
  | .error .version =>
    IO.println versionText
    return 0
  | .error .usage =>
    IO.eprintln "error: the arguments make no sense; try --help"
    return 2

end PlugWatch

/-- The simulator's command line. -/
def main (arguments : List String) : IO UInt32 := PlugWatch.runCommand arguments
