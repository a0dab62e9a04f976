import PlugWatch.Control.Write
import PlugWatch.Json.Form
import PlugWatch.Json.Magnitude
/-!
# Test-pin requests as JSON

A test-pin request is a record whose field `op` tells the kind of request, or a list that starts
with the kind. The kind may stand behind the other fields, so these are set aside until it is
known; only plain values of a bounded depth can be set aside.

## Main Definitions

* `TestPinBody` : the request as it is sent.
* `TestPinBody.request` : what it asks for.
-/

namespace PlugWatch

open JsonForm (encode decode?)

/-- A test-pin request as it is sent. -/
inductive TestPinBody where
  | off
  | on
  | read (port : UInt8) (length : UInt64)
  | write (port : UInt8) (data : String)
  deriving DecidableEq, Repr

namespace TestPinBody

/-- What a request asks for; data is sent as its bytes in UTF-8. -/
def request : TestPinBody → TestPinRequest
  | off => .off
  | on => .on
  | read port length => .read port length.toNat
  | write port data => .write port data.toUTF8.data.toList

/-- The deepest nesting of values that can be set aside. -/
def maxDepth : Nat := 127

/-- The request of a kind with the given values. -/
def ofParts? (kind : String) (parts : List String → Option (List Json)) : Option TestPinBody :=
  match kind with
  | "off" => return .off
  | "on" => return .on
  | "read" => do
    match ← parts ["port", "length"] with
    | [port, length] => return .read (← decode? port) (← decode? length)
    | _ => none
  | "write" => do
    match ← parts ["port", "data"] with
    | [port, data] => return .write (← decode? port) (← decode? data)
    | _ => none
  | _ => none

/-- The request that a JSON value writes. -/
def ofJson? (json : Json) : Option TestPinBody :=
  if json.isPlain && json.depth ≤ maxDepth then
    match json with
    | .record fields => do
      let kind ← decode? (← Json.field? fields "op")
      ofParts? kind fun names => Json.fields? names json
    | .list (.str (some kind) :: items) =>
      if (kind = "off" || kind = "on") && !items.isEmpty then none
      else ofParts? kind fun names => Json.fields? names (.list items)
    | _ => none
  else none

instance : JsonForm TestPinBody where
  encode
    | off => .object [("op", .text "off")]
    | on => .object [("op", .text "on")]
    | read port length =>
      .object [("op", .text "read"), ("port", encode port), ("length", encode length)]
    | write port data =>
      .object [("op", .text "write"), ("port", encode port), ("data", encode data)]
  decode? := ofJson?

end TestPinBody

end PlugWatch
