import PlugWatch.Text.Decimal
import PlugWatch.Text.Hex
/-!
# JSON values and their text

## Main Definitions

* `Json` : a JSON value; the fields of a record keep their order, and a name may occur twice.
* `Json.render` : the compact text of a value.
* `Json.depth` : how deeply lists and records are nested.

## Design Notes

The only numbers this library writes are natural ones. Other numbers are kept as they were
written, so that a reader can tell them apart from the numbers it wants. A text whose escapes name
no characters is kept as `none`.
-/

namespace PlugWatch

/-- A JSON value. -/
inductive Json where
  | null
  | bool (b : Bool)
  /-- A number written with digits only. -/
  | nat (n : Nat)
  /-- A number written with a sign, a fraction or an exponent. -/
  | decimal (text : List Char)
  /-- A text; `none` if its escapes name no characters. -/
  | str (text : Option String)
  | list (items : List Json)
  | record (fields : List (Option String × Json))

namespace Json

instance : Inhabited Json := ⟨null⟩

/-- A text. -/
def text (s : String) : Json := str (some s)

/-- A record with names that are texts. -/
def object (fields : List (String × Json)) : Json :=
  record (fields.map fun (name, value) => (some name, value))

/-- The written form of a character inside a text: quotes, backslashes and controls are escaped,
everything else stands for itself. -/
def escape (c : Char) : List Char :=
  match c with
  | '"' => ['\\', '"']
  | '\\' => ['\\', '\\']
  | '\n' => ['\\', 'n']
  | '\r' => ['\\', 'r']
  | '\t' => ['\\', 't']
  | '\x08' => ['\\', 'b']
  | '\x0c' => ['\\', 'f']
  | _ => if c.toNat < 32 then ['\\', 'u', '0', '0'] ++ Hex.byte (UInt8.ofNat c.toNat) else [c]

/-- The written form of a text. -/
def renderText (s : List Char) : List Char := '"' :: s.flatMap escape ++ ['"']

/-- The characters of a text, or nothing where it names none. -/
def charsOf : Option String → List Char
  | some s => s.toList
  | none => []

mutual

/-- The compact text of a value. -/
def render : Json → List Char
  | null => ['n', 'u', 'l', 'l']
  | bool true => ['t', 'r', 'u', 'e']
  | bool false => ['f', 'a', 'l', 's', 'e']
  | nat n => Decimal.digits n
  | decimal text => text
  | str s => renderText (charsOf s)
  | list items => '[' :: renderItems items ++ [']']
  | record fields => '\x7b' :: renderFields fields ++ ['\x7d']

/-- The items of a list with commas between them. -/
def renderItems : List Json → List Char
  | [] => []
  | [item] => render item
  | item :: rest => render item ++ ',' :: renderItems rest

/-- The fields of a record with commas between them. -/
def renderFields : List (Option String × Json) → List Char
  | [] => []
  | [(name, value)] => renderText (charsOf name) ++ ':' :: render value
  | (name, value) :: rest =>
    renderText (charsOf name) ++ ':' :: render value ++ ',' :: renderFields rest

end

/-- The compact text of a value. -/
def toText (value : Json) : String := String.ofList value.render

mutual

/-- How deeply lists and records are nested; other values have depth zero. -/
def depth : Json → Nat
  | list items => depthItems items + 1
  | record fields => depthFields fields + 1
  | _ => 0

/-- The greatest depth among items. -/
def depthItems : List Json → Nat
  | [] => 0
  | item :: rest => max (depth item) (depthItems rest)

/-- The greatest depth among the values of fields. -/
def depthFields : List (Option String × Json) → Nat
  | [] => 0
  | (_, value) :: rest => max (depth value) (depthFields rest)

end

end Json

end PlugWatch
