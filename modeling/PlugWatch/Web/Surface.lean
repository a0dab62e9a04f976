import PlugWatch.Control.Report
import PlugWatch.Json.BrickForm
import PlugWatch.Web.Route
import PlugWatch.Web.Server
import PlugWatch.Web.TestPinBody
/-!
# The web surface

Reads and writes of a controller as web requests. A request that the controller turns down is
answered like any other, with the reason in the body.

## Main Definitions

* `HttpRequest`, `HttpAnswer` : a request and its answer.
* `Controller.serve` : carries out what a route stands for.
* `Controller.answer` : the answer to a request, and the controller behind it.
-/

namespace PlugWatch

open JsonForm (encode)

/-- A request. -/
structure HttpRequest where
  method : HttpMethod
  target : List Char
  body : List UInt8

/-- The body of an answer. -/
inductive HttpBody where
  /-- A body without a type, and without contents. -/
  | empty
  | json (value : Json)
  | text (text : String)
  | bytes (bytes : List UInt8)

/-- The type of a body. -/
def HttpBody.contentType? : HttpBody → Option String
  | empty => none
  | json _ => some "application/json"
  | text _ => some "text/plain; charset=utf-8"
  | bytes _ => some "application/octet-stream"

/-- How a request went. -/
inductive HttpStatus where
  | ok
  | notFound
  | methodNotAllowed
  deriving DecidableEq, Repr

/-- The number of a status. -/
def HttpStatus.code : HttpStatus → Nat
  | ok => 200
  | notFound => 404
  | methodNotAllowed => 405

/-- An answer. -/
structure HttpAnswer where
  status : HttpStatus := .ok
  body : HttpBody
  /-- Whether only the head of the answer is sent. -/
  headOnly : Bool := false
  /-- Whether pages of any origin may read the answer. -/
  anyOrigin : Bool := false

/-- The answer to a request that worked. -/
def successBody (data : Json) : HttpBody :=
  .json (.object [("success", .bool true), ("data", data)])

/-- The answer to a request that was turned down. -/
def failureBody (reason : String) : HttpBody :=
  .json (.object [("success", .bool false), ("error", .text reason)])

/-- A text in UTF-8. -/
def textOfBytes? (bytes : List UInt8) : Option String := String.fromUTF8? ⟨bytes.toArray⟩

/-- The test-pin request in the body of a web request. -/
def TestPinBody.ofBytes? (bytes : List UInt8) : Option TestPinBody := do
  JsonForm.ofText? (← textOfBytes? bytes).toList

namespace Controller

variable {α : Type}

/-- The view of every port with the instant it was taken at. -/
def portsData (c : Controller α) : Json :=
  .object (("now_us", .nat c.clock.now.toNat) :: c.snapshot.fields)

/-- The body that tells how a write went, and the controller behind it. -/
def writeBody (c : Controller α) :
    Except ControlError (Nat × Controller α) → HttpBody × Controller α
  | .ok (accepted, c) => (successBody (.object [("accepted", .nat accepted)]), c)
  | .error e => (failureBody e.message, c)

/-- Carries out a test-pin request. The pin characters of a read are answered without what follows
the first NUL. -/
def serveTestPin (c : Controller α) (request : TestPinRequest) : HttpBody × Controller α :=
  match c.testPin request with
  | .ok (reply, c) =>
    let fields := match reply with
      | none => []
      | some pins =>
        let shown := (pins.takeWhile (· ≠ 0)).map fun byte => Char.ofNat byte.toNat
        [("pins", Json.text (String.ofList shown))]
    (successBody (.object fields), c)
  | .error e => (failureBody e.message, c)

/-- Carries out what a route stands for. -/
def serve (c : Controller α) (route : Route) (body : List UInt8) : HttpBody × Controller α :=
  match route with
  | .ports => (successBody c.portsData, c)
  | .analog => (.text (String.ofList c.analogText), c)
  | .types => (.bytes c.typeCodes, c)
  | .control => c.writeBody (c.writeControl body)
  | .pins => c.writeBody (c.writePins body)
  | .testMode on => c.serveTestPin (if on then .on else .off)
  | .testPin =>
    match TestPinBody.ofBytes? body with
    | some request => c.serveTestPin request.request
    | none => (failureBody "Invalid test-pin request", c)

/-- The answer to a request, and the controller behind it. With leave for other origins, every
OPTIONS request asks for that leave and reaches no route. -/
def answer (c : Controller α) (options : ServerOptions) (request : HttpRequest) :
    HttpAnswer × Controller α :=
  let anyOrigin := options.corsPermissive
  if anyOrigin && request.method = .options then ({ body := .empty, anyOrigin := true }, c)
  else
    match Route.ofTarget? request.target with
    | none =>
      ({ status := .notFound, body := failureBody "Not found", anyOrigin := anyOrigin }, c)
    | some route =>
      if route.accepts request.method then
        let (body, c) := c.serve route request.body
        ({ body := body, headOnly := request.method = .head, anyOrigin := anyOrigin }, c)
      else ({ status := .methodNotAllowed, body := .empty, anyOrigin := anyOrigin }, c)

end Controller

end PlugWatch
