import PlugWatch.Bench.Plug
import PlugWatch.Options
import PlugWatch.Web.Surface
/-!
# The simulated brick

A controller over simulated hardware with the devices of a run plugged. Time is handed in from
outside; what happens comes back as lines of text.

## Main Definitions

* `Simulation` : a controller and what was last said about its ports.
* `Simulation.start` : plugs the devices of a run and starts the controller.
* `Simulation.advance` : runs up to an instant and tells what changed.
* `Simulation.request` : answers a request to the web surface, written as one line.
-/

namespace PlugWatch

/-- The text of a notice: level, message and fields. -/
def Notice.render (notice : Notice) : String :=
  String.intercalate " "
    (notice.level.label :: notice.message ::
      notice.fields.map fun (name, value) => name ++ "=" ++ value)

/-- Whether a notice is of interest outside of diagnostics. -/
def Notice.isPublic (notice : Notice) : Bool :=
  match notice.level with
  | .info | .warn => true
  | .trace | .debug => false

/-- A simulated brick. -/
structure Simulation where
  controller : Controller Multiplexer
  web : ServerOptions
  /-- The view of the ports that was last told. -/
  told : BrickSnapshot

namespace Simulation

/-- Takes the notices that are of interest outside, as text, and empties the journal. -/
def takeNotices (simulation : Simulation) : List String × Simulation :=
  let notices := simulation.controller.journal.toList.filter Notice.isPublic
  (notices.map Notice.render,
    { simulation with controller := { simulation.controller with journal := #[] } })

/-- Plugs the devices of a run and starts the controller. -/
def start (options : Options) : Except BusFault Simulation :=
  let board := options.plugs.foldl (fun board plug => plug.plugBoard board) {}
  let adc := options.plugs.foldl (fun adc plug => plug.plugAnalog adc) Multiplexer.empty
  match Controller.new adc board options.config with
  | .error fault => .error fault
  | .ok controller =>
    .ok {
      controller := controller
      web := .ofConfig options.config.web
      told := controller.snapshot }

/-- Runs up to an instant, in microseconds since the start, and tells what changed. A word that is too
short is the end of the simulation. -/
def advance (simulation : Simulation) (instant : UInt64) :
    Except Overflow (List String × Simulation) :=
  match simulation.controller.runUntil instant with
  | (.error (.overflow word), _) => .error word
  | (.error (.fault fault), controller) =>
    let (lines, simulation) := { simulation with controller := controller }.takeNotices
    .ok (lines ++ ["ERROR ADC exchange failed: " ++ fault.message], simulation)
  | (.ok (), controller) =>
    let seen := controller.snapshot
    let changes := simulation.told.changes seen
    let (lines, simulation) :=
      { simulation with controller := controller, told := seen }.takeNotices
    .ok (lines ++ changes.map Notice.render, simulation)

/-- The text of an answer: the number of its status, and its body if there is one. -/
def answerText (answer : HttpAnswer) : String :=
  let body := match answer.body with
    | .empty => ""
    | .json value => value.toText
    | .text text => text
    | .bytes bytes => Hex.encode bytes
  toString answer.status.code ++ (if answer.headOnly then "" else " " ++ body)

/-- The pieces of a request line: method, target and the rest as body. -/
def requestOfLine (line : List Char) : HttpRequest :=
  let (method, rest) := Plug.cut ' ' line
  let (target, rest) := Plug.cut ' ' (rest.getD [])
  { method := .ofName (String.ofList method)
    target := target
    body := (String.ofList (rest.getD [])).toUTF8.data.toList }

/-- Answers a request to the web surface, written as one line. -/
def request (simulation : Simulation) (line : String) : String × Simulation :=
  let (answer, controller) :=
    simulation.controller.answer simulation.web (requestOfLine line.toList)
  (answerText answer, { simulation with controller := controller })

end Simulation

end PlugWatch
