import PlugWatch.Bench.Plug
import PlugWatch.Config
/-!
# Options of the simulator

| Option | Value | Usual value |
|--------|-------|-------------|
| `--host` | address of the web surface | 0.0.0.0 |
| `--port`, `-p` | port of the web surface | 8080 |
| `--plug` | `<port>=<device>`, may be repeated | |
| `--reset-ms` | hold-off after power-up | 2000 |
| `--pin2-detection` | | off |
| `--tick-ms` | time between two rounds of the simulator | 1 |
| `--no-web`, `--no-cors` | | off |
| `--help`, `-h` and `--version`, `-V` | | |

## Main Definitions

* `Argument` : what a single argument says.
* `Options` : the options of a run.
* `Options.parse` : reads the arguments of a run.
* `Options.config` : the configuration they ask for.

## Design Notes

Arguments are read from left to right, and the first that asks for help or cannot stand where it
does decides the outcome. A value follows its option behind an equals sign or as the next argument;
a next argument that starts with a minus sign is an option of its own.
-/

namespace PlugWatch

/-- An option that takes a value. -/
inductive Setting where
  | host
  | port
  | plug
  | resetMs
  | tickMs
  deriving DecidableEq, Repr

/-- An option that takes none. -/
inductive Switch where
  | pin2Detection
  | noWeb
  | noCors
  deriving DecidableEq, Repr

/-- What a single argument says. -/
inductive Argument where
  /-- An option that takes a value, with the value if it stands in the same argument. -/
  | setting (setting : Setting) (value : Option (List Char))
  | switch (switch : Switch)
  | help
  | version
  /-- Two minus signs: no option may follow. -/
  | endOfOptions
  /-- Nothing known. -/
  | unknown
  deriving DecidableEq, Repr

namespace Argument

/-- The long option with a name. -/
def ofLong (name : List Char) (value : Option (List Char)) : Argument :=
  if name = "host".toList then .setting .host value
  else if name = "port".toList then .setting .port value
  else if name = "plug".toList then .setting .plug value
  else if name = "reset-ms".toList then .setting .resetMs value
  else if name = "tick-ms".toList then .setting .tickMs value
  else if value.isSome then .unknown
  else if name = "pin2-detection".toList then .switch .pin2Detection
  else if name = "no-web".toList then .switch .noWeb
  else if name = "no-cors".toList then .switch .noCors
  else if name = "help".toList then .help
  else if name = "version".toList then .version
  else .unknown

/-- The short option that an argument starts with; what follows its letter is the value of an
option that takes one, and comes too late behind a request for help. -/
def ofShort : List Char → Argument
  | ['p'] => .setting .port none
  | 'p' :: '=' :: value => .setting .port (some value)
  | 'p' :: value => .setting .port (some value)
  | 'h' :: _ => .help
  | 'V' :: _ => .version
  | _ => .unknown

/-- What an argument says. -/
def ofChars : List Char → Argument
  | ['-', '-'] => .endOfOptions
  | '-' :: '-' :: rest =>
    let (name, value) := Plug.cut '=' rest
    ofLong name value
  | '-' :: c :: rest => ofShort (c :: rest)
  | _ => .unknown

end Argument

/-- The options of a run. -/
structure Options where
  host : String := "0.0.0.0"
  port : UInt16 := 8080
  plugs : List Plug := []
  resetMs : UInt16 := 2000
  pin2Detection : Bool := false
  tickMs : UInt64 := 1
  noWeb : Bool := false
  noCors : Bool := false
  deriving DecidableEq, Repr

/-- Why no run starts. -/
inductive Refusal where
  /-- Help was asked for. -/
  | help
  /-- The version was asked for. -/
  | version
  /-- The arguments make no sense. -/
  | usage
  deriving DecidableEq, Repr

namespace Options

/-- Options read so far, with those that may not be given again. -/
structure Draft where
  options : Options := {}
  settings : List Setting := []
  switches : List Switch := []

namespace Draft

/-- A number up to a limit as the value of an option. -/
def number (limit : Nat) (text : List Char) : Except Refusal Nat :=
  match Decimal.readSigned limit text with
  | .ok n => .ok n
  | .error _ => .error .usage

/-- The options with the value of one of them. -/
def assign (options : Options) (setting : Setting) (value : List Char) :
    Except Refusal Options :=
  match setting with
  | .host => .ok { options with host := String.ofList value }
  | .port => do return { options with port := UInt16.ofNat (← number 65535 value) }
  | .resetMs => do return { options with resetMs := UInt16.ofNat (← number 65535 value) }
  | .tickMs =>
    match Decimal.readUnsigned (UInt64.size - 1) value with
    | .ok n => .ok { options with tickMs := UInt64.ofNat n }
    | .error _ => .error .usage
  | .plug =>
    match Plug.parseChars value with
    | .ok plug => .ok { options with plugs := options.plugs ++ [plug] }
    | .error _ => .error .usage

/-- Takes the value of an option; only plugs may be given more than once. -/
def set (draft : Draft) (setting : Setting) (value : List Char) : Except Refusal Draft :=
  if setting ≠ .plug ∧ setting ∈ draft.settings then .error .usage
  else do
    let options ← assign draft.options setting value
    return { draft with options := options, settings := setting :: draft.settings }

/-- Turns an option on, which may be done once. -/
def turnOn (draft : Draft) (switch : Switch) : Except Refusal Draft :=
  if switch ∈ draft.switches then .error .usage
  else
    let options := match switch with
      | .pin2Detection => { draft.options with pin2Detection := true }
      | .noWeb => { draft.options with noWeb := true }
      | .noCors => { draft.options with noCors := true }
    .ok { draft with options := options, switches := switch :: draft.switches }

/-- Whether an argument can be the value of the option before it: a minus sign alone can, other
arguments that start with one cannot. -/
def isValue : List Char → Bool
  | '-' :: _ :: _ => false
  | _ => true

/-- Reads arguments from left to right. -/
def read (draft : Draft) : List (List Char) → Except Refusal Options
  | [] => .ok draft.options
  | argument :: rest =>
    match Argument.ofChars argument, rest with
    | .setting setting (some value), rest => do (← draft.set setting value).read rest
    | .setting setting none, value :: rest =>
      if isValue value then do (← draft.set setting value).read rest else .error .usage
    | .setting _ none, [] => .error .usage
    | .switch switch, rest => do (← draft.turnOn switch).read rest
    | .help, _ => .error .help
    | .version, _ => .error .version
    | .endOfOptions, [] => .ok draft.options
    | .endOfOptions, _ :: _ => .error .usage
    | .unknown, _ => .error .usage

end Draft

/-- Reads the arguments of a run. -/
def parse (arguments : List String) : Except Refusal Options :=
  Draft.read {} (arguments.map String.toList)

/-- The configuration of a run. -/
def config (options : Options) : Config where
  detection := { resetMs := options.resetMs, pin2Detection := options.pin2Detection }
  web := {
    host := ShortText.ofString options.host
    port := options.port
    corsPermissive := !options.noCors
    enabled := !options.noWeb }

end Options

end PlugWatch
