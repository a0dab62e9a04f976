/-!
# Routes of the web surface

## Main Definitions

* `HttpMethod` : the methods that the surface tells apart.
* `Route` : the resources it offers.
* `Route.pathOf` : the path in a request target.
* `Route.ofTarget?` : the resource that a request names.
* `Route.accepts` : the methods of a resource.
-/

namespace PlugWatch

/-- The methods that the surface tells apart. -/
inductive HttpMethod where
  | get
  | head
  | post
  | options
  | other
  deriving DecidableEq, Repr

/-- The method with a name; names are written in capitals. -/
def HttpMethod.ofName (name : String) : HttpMethod :=
  if name = "GET" then .get
  else if name = "HEAD" then .head
  else if name = "POST" then .post
  else if name = "OPTIONS" then .options
  else .other

/-- The resources of the surface. -/
inductive Route where
  /-- Every port, as JSON. -/
  | ports
  /-- The analog report. -/
  | analog
  /-- The published device codes. -/
  | types
  /-- A control write. -/
  | control
  /-- A raw-pin write. -/
  | pins
  /-- Test mode on or off. -/
  | testMode (on : Bool)
  /-- A test-pin request. -/
  | testPin
  deriving DecidableEq, Repr

namespace Route

/-- The path of a resource. -/
def path : Route → String
  | ports => "/api/ports"
  | analog => "/api/analog"
  | types => "/api/dcm"
  | control => "/api/control"
  | pins => "/api/pins"
  | testMode true => "/api/test-mode/on"
  | testMode false => "/api/test-mode/off"
  | testPin => "/api/test-pin"

/-- All resources. -/
def all : List Route :=
  [ports, analog, types, control, pins, testMode true, testMode false, testPin]

theorem mem_all (route : Route) : route ∈ all := by
  rcases route with _ | _ | _ | _ | _ | (_ | _) | _ <;> decide

/-- Whether a character ends the part of a target that names a host. -/
def endsHost (c : Char) : Bool := c = '/' || c = '?' || c = '#'

/-- Whether a character may occur in the name of a scheme. -/
def inScheme (c : Char) : Bool := c.isAlphanum || c = '+' || c = '-' || c = '.'

/-- What stands behind a scheme and its `://`; `none` for a target without a scheme. -/
def behindScheme? : List Char → Option (List Char)
  | ':' :: '/' :: '/' :: rest => some rest
  | c :: rest => if inScheme c then behindScheme? rest else none
  | [] => none

/-- A path without the query or the fragment behind it. -/
def withoutQuery (target : List Char) : List Char := target.takeWhile fun c => c ≠ '?' && c ≠ '#'

/-- The path in a request target. A target is a path, or a scheme and a host with a path behind
them; a host alone and a star name no path. -/
def pathOf (target : List Char) : List Char :=
  match target with
  | '/' :: _ => withoutQuery target
  | _ =>
    match behindScheme? target with
    | some rest => withoutQuery (rest.dropWhile fun c => !endsHost c)
    | none => []

/-- The resource that a request target names. -/
def ofTarget? (target : List Char) : Option Route :=
  all.find? fun route => route.path.toList = pathOf target

/-- Whether a resource is read rather than written. -/
def isRead : Route → Bool
  | ports | analog | types => true
  | _ => false

/-- Whether a resource takes a method: what is read takes GET and HEAD, what is written takes
POST. -/
def accepts (route : Route) : HttpMethod → Bool
  | .get | .head => route.isRead
  | .post => !route.isRead
  | _ => false

end Route

end PlugWatch
