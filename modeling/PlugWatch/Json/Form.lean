import PlugWatch.Json.Reader
import PlugWatch.Port
import PlugWatch.Text.Short
/-!
# JSON forms of types

A structure is written as a record. It is read from a record with its fields in any order, where
fields of other names are passed over, or from the list of its fields in their own order.

## Main Definitions

* `JsonForm` : a type with a JSON form; `JsonForm.ofText?` reads a value out of a text.
* `Json.field?`, `Json.fields?` : the values of named fields.
* `JsonForm.ofKeys` : the form of a type whose values have names.
-/

namespace PlugWatch

/-- A type whose values have a JSON form. -/
class JsonForm (α : Type) where
  /-- The form of a value. -/
  encode : α → Json
  /-- The value that a form stands for. -/
  decode? : Json → Option α

open JsonForm (encode decode?)

/-! ## Fields -/

namespace Json

/-- The value of the field with a name; `none` if there is none or more than one. -/
def field? (fields : List (Option String × Json)) (name : String) : Option Json :=
  match fields.filter fun field => field.1 = some name with
  | [(_, value)] => some value
  | _ => none

/-- The values of named fields, in the order of the names. -/
def fields? (names : List String) : Json → Option (List Json)
  | list items => if items.length = names.length then some items else none
  | record fields =>
    if fields.all fun field => field.1.isSome then names.mapM (field? fields) else none
  | _ => none

end Json

/-! ## Forms -/

namespace JsonForm

variable {α : Type}

/-- The compact text of a value. -/
def toText [JsonForm α] (value : α) : String := (encode value).toText

/-- Reads a value out of a text. -/
def ofText? [JsonForm α] (text : List Char) : Option α := do
  decode? (← Json.parse text)

/-- The form of a type whose values have names: the name as a text. A record that gives `null` to
the name is read as well. -/
abbrev ofKeys (all : List α) (key : α → String) : JsonForm α where
  encode value := .text (key value)
  decode?
    | .str (some name) => all.find? fun value => key value = name
    | .record [(some name, .null)] => all.find? fun value => key value = name
    | _ => none

instance : JsonForm Bool where
  encode := .bool
  decode?
    | .bool b => some b
    | _ => none

instance : JsonForm UInt8 where
  encode n := .nat n.toNat
  decode?
    | .nat n => if n < UInt8.size then some (UInt8.ofNat n) else none
    | _ => none

instance : JsonForm UInt16 where
  encode n := .nat n.toNat
  decode?
    | .nat n => if n < UInt16.size then some (UInt16.ofNat n) else none
    | _ => none

instance : JsonForm UInt32 where
  encode n := .nat n.toNat
  decode?
    | .nat n => if n < UInt32.size then some (UInt32.ofNat n) else none
    | _ => none

instance : JsonForm UInt64 where
  encode n := .nat n.toNat
  decode?
    | .nat n => if n < UInt64.size then some (UInt64.ofNat n) else none
    | _ => none

instance : JsonForm String where
  encode := .text
  decode?
    | .str text => text
    | _ => none

instance : JsonForm ShortText where
  encode host := .text host.text
  decode?
    | .str (some text) => ShortText.ofFitting? text
    | _ => none

instance [JsonForm α] {n : Nat} : JsonForm (Vector α n) where
  encode values := .list (values.toList.map encode)
  decode?
    | .list items => do
      let values ← items.mapM decode?
      if h : values.length = n then some ⟨values.toArray, by simpa using h⟩ else none
    | _ => none

instance [JsonForm α] : JsonForm (PerPort α) where
  encode values := .list (values.toList.map encode)
  decode?
    | .list [a, b, c, d] => return ⟨← decode? a, ← decode? b, ← decode? c, ← decode? d⟩
    | _ => none

end JsonForm

end PlugWatch
