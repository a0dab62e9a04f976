import PlugWatch.Json.Token
/-!
# Reading JSON

Tokens are read one after another. What is open around the current place is kept on a stack, so
that lists and records may be nested to any depth.

## Main Definitions

* `Json.Frame`, `Json.Expected` : what is open, and what may come next.
* `Json.Reading.read` : one token.
* `Json.parse` : reads a whole text.
-/

namespace PlugWatch.Json

/-- A list or record around the value being read; its finished parts are kept last first. -/
inductive Frame where
  | list (items : List Json)
  | record (fields : List (Option String × Json)) (name : Option String)

/-- What may come next. -/
inductive Expected where
  | value
  /-- An item behind the given ones, or the end of a list that has none. -/
  | item (items : List Json)
  /-- A name behind the given fields, or the end of a record that has none. -/
  | name (fields : List (Option String × Json))
  | colon (fields : List (Option String × Json)) (name : Option String)
  /-- Whatever may follow a finished value. -/
  | behind (value : Json)

/-- A reading that has got somewhere. -/
structure Reading where
  stack : List Frame := []
  expected : Expected := .value

namespace Reading

/-- A value starts with this token. -/
def startValue (stack : List Frame) : Token → Option Reading
  | .scalar value => some ⟨stack, .behind value⟩
  | .beginList => some ⟨stack, .item []⟩
  | .beginRecord => some ⟨stack, .name []⟩
  | _ => none

/-- Reads one token; `none` if it may not come next. -/
def read (reading : Reading) (token : Token) : Option Reading :=
  match reading.expected, reading.stack, token with
  | .value, stack, _ => startValue stack token
  | .item [], stack, .endList => some ⟨stack, .behind (.list [])⟩
  | .item items, stack, _ => startValue (.list items :: stack) token
  | .name [], stack, .endRecord => some ⟨stack, .behind (.record [])⟩
  | .name fields, stack, .scalar (.str name) => some ⟨stack, .colon fields name⟩
  | .colon fields name, stack, .colon => some ⟨.record fields name :: stack, .value⟩
  | .behind value, .list items :: stack, .comma => some ⟨stack, .item (value :: items)⟩
  | .behind value, .list items :: stack, .endList =>
    some ⟨stack, .behind (.list (value :: items).reverse)⟩
  | .behind value, .record fields name :: stack, .comma =>
    some ⟨stack, .name ((name, value) :: fields)⟩
  | .behind value, .record fields name :: stack, .endRecord =>
    some ⟨stack, .behind (.record ((name, value) :: fields).reverse)⟩
  | _, _, _ => none

/-- The value that has been read, if nothing is open. -/
def finish? (reading : Reading) : Option Json :=
  match reading.stack, reading.expected with
  | [], .behind value => some value
  | _, _ => none

end Reading

/-- Reads a text that holds one value and nothing else but blanks. -/
def parse (text : List Char) : Option Json := do
  let reading ← (← tokens text).foldlM Reading.read {}
  reading.finish?

end PlugWatch.Json
