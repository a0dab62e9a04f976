import PlugWatch.Json.Reader
import PlugWatch.Proofs.Json.Tokens
/-!
# What is written is read back

The reader has no recursion of its own: it goes from token to token, with a stack of what is open. A value
that has been written makes one stretch of tokens, and whatever is open around it, the reader goes over that
stretch and has the value in hand.

Not every value has a text. A number that is kept as it was written is one only if it was one, and a text
whose escapes name no characters is no longer known.

## Main Definitions

* `Json.WellSpelled` : the values that have a text.
* `Json.tokensOf` : the tokens of a value.

## Main Statements

* `Json.tokens_render` : the text of a value is cut into its tokens.
* `Json.read_tokensOf` : the tokens of a value are read as that value.
* `Json.parse_render` : the text of a value is read as that value.
-/

namespace PlugWatch.Json

mutual

/-- The values that have a text: their numbers are numbers, and their names and texts are known. -/
def WellSpelled : Json → Prop
  | null | bool _ | nat _ => True
  | decimal text => numberToken? text = some (.decimal text)
  | str text => text.isSome = true
  | list items => WellSpelledItems items
  | record fields => WellSpelledFields fields

/-- All items have a text. -/
def WellSpelledItems : List Json → Prop
  | [] => True
  | item :: rest => WellSpelled item ∧ WellSpelledItems rest

/-- All fields have a name and a text. -/
def WellSpelledFields : List (Option String × Json) → Prop
  | [] => True
  | (name, value) :: rest => name.isSome = true ∧ WellSpelled value ∧ WellSpelledFields rest

end

mutual

/-- The tokens of a value. -/
def tokensOf : Json → List Token
  | null => [.scalar null]
  | bool b => [.scalar (bool b)]
  | nat n => [.scalar (nat n)]
  | decimal text => [.scalar (decimal text)]
  | str text => [.scalar (str text)]
  | list items => .beginList :: tokensOfItems items ++ [.endList]
  | record fields => .beginRecord :: tokensOfFields fields ++ [.endRecord]

/-- The tokens of items with commas between them. -/
def tokensOfItems : List Json → List Token
  | [] => []
  | [item] => tokensOf item
  | item :: rest => tokensOf item ++ .comma :: tokensOfItems rest

/-- The tokens of fields with commas between them. -/
def tokensOfFields : List (Option String × Json) → List Token
  | [] => []
  | [(name, value)] => .scalar (str name) :: .colon :: tokensOf value
  | (name, value) :: rest =>
    .scalar (str name) :: .colon :: tokensOf value ++ .comma :: tokensOfFields rest

end

/-! ## Tokens -/

mutual

/-- The text of a value is cut into its tokens, and those of what follows. -/
theorem tokens_render : ∀ {value : Json}, value.WellSpelled → ∀ {rest : List Char},
    EndsScalar rest → ∀ {more : List Token}, tokens rest = some more →
      tokens (value.render ++ rest) = some (value.tokensOf ++ more)
  | null, _, _, hends, _, hrest => tokens_word rfl hends hrest
  | bool true, _, _, hends, _, hrest => tokens_word rfl hends hrest
  | bool false, _, _, hends, _, hrest => tokens_word rfl hends hrest
  | nat n, _, _, hends, _, hrest => tokens_number (numberToken?_digits n) hends hrest
  | decimal _, h, _, hends, _, hrest => tokens_number h hends hrest
  | str (some s), _, _, _, _, hrest => tokens_text s hrest
  | list items, h, rest, _, more, hrest => by
    have hends : EndsScalar (']' :: rest) := rfl
    have hitems : tokens (renderItems items ++ ']' :: rest) =
        some (tokensOfItems items ++ .endList :: more) :=
      tokens_renderItems h hends (tokens_mark rfl hrest)
    simpa [render, tokensOf] using tokens_mark (c := '[') rfl hitems
  | record fields, h, rest, _, more, hrest => by
    have hends : EndsScalar ('\x7d' :: rest) := rfl
    have hfields : tokens (renderFields fields ++ '\x7d' :: rest) =
        some (tokensOfFields fields ++ .endRecord :: more) :=
      tokens_renderFields h hends (tokens_mark rfl hrest)
    simpa [render, tokensOf] using tokens_mark (c := '\x7b') rfl hfields

theorem tokens_renderItems : ∀ {items : List Json}, WellSpelledItems items → ∀ {rest : List Char},
    EndsScalar rest → ∀ {more : List Token}, tokens rest = some more →
      tokens (renderItems items ++ rest) = some (tokensOfItems items ++ more)
  | [], _, _, _, _, hrest => hrest
  | [_], h, _, hends, _, hrest => tokens_render h.1 hends hrest
  | item :: next :: items, h, rest, hends, more, hrest => by
    -- the comma behind the item is where a number or a word in it ends
    have hitems : tokens (renderItems (next :: items) ++ rest) =
        some (tokensOfItems (next :: items) ++ more) := tokens_renderItems h.2 hends hrest
    have hcomma : EndsScalar (',' :: (renderItems (next :: items) ++ rest)) := rfl
    simpa [renderItems, tokensOfItems] using
      tokens_render h.1 hcomma (tokens_mark rfl hitems)

theorem tokens_renderFields : ∀ {fields : List (Option String × Json)}, WellSpelledFields fields →
    ∀ {rest : List Char}, EndsScalar rest → ∀ {more : List Token}, tokens rest = some more →
      tokens (renderFields fields ++ rest) = some (tokensOfFields fields ++ more)
  | [], _, _, _, _, hrest => hrest
  | [(some name, value)], h, rest, hends, more, hrest => by
    have hvalue : tokens (value.render ++ rest) = some (value.tokensOf ++ more) :=
      tokens_render h.2.1 hends hrest
    simpa [renderFields, tokensOfFields, charsOf, text] using
      tokens_text name (tokens_mark (c := ':') rfl hvalue)
  | (some name, value) :: next :: fields, h, rest, hends, more, hrest => by
    have hfields : tokens (renderFields (next :: fields) ++ rest) =
        some (tokensOfFields (next :: fields) ++ more) := tokens_renderFields h.2.2 hends hrest
    have hcomma : EndsScalar (',' :: (renderFields (next :: fields) ++ rest)) := rfl
    have hvalue : tokens (value.render ++ ',' :: (renderFields (next :: fields) ++ rest)) =
        some (value.tokensOf ++ .comma :: (tokensOfFields (next :: fields) ++ more)) :=
      tokens_render h.2.1 hcomma (tokens_mark rfl hfields)
    simpa [renderFields, tokensOfFields, charsOf, text] using
      tokens_text name (tokens_mark (c := ':') rfl hvalue)

end

/-! ## Reading -/

/-- Behind the items of a list a value is read as anywhere else, within that list. -/
theorem foldlM_item (value : Json) (items : List Json) (stack : List Frame) :
    value.tokensOf.foldlM Reading.read ⟨stack, .item items⟩ =
      value.tokensOf.foldlM Reading.read ⟨.list items :: stack, .value⟩ := by
  cases value <;> cases items <;> rfl

/-- A name and a colon open the field that the value behind them is read into. -/
theorem read_named (name : Option String) (value : Json) (behind : List Token)
    (done : List (Option String × Json)) (stack : List Frame) :
    (.scalar (str name) :: .colon :: value.tokensOf ++ behind).foldlM Reading.read
        ⟨stack, .name done⟩ =
      value.tokensOf.foldlM Reading.read ⟨.record done name :: stack, .value⟩ >>=
        fun reading => behind.foldlM Reading.read reading := by
  rw [← List.foldlM_append]
  cases done <;> rfl

mutual

/-- **The tokens of a value are read as that value, whatever is open around it.** -/
theorem read_tokensOf : ∀ (value : Json) (stack : List Frame),
    value.tokensOf.foldlM Reading.read ⟨stack, .value⟩ = some ⟨stack, .behind value⟩
  | null, _ | bool _, _ | nat _, _ | decimal _, _ | str _, _ => rfl
  | list [], _ | record [], _ => rfl
  | list (item :: items), stack => read_items (item :: items) (List.cons_ne_nil _ _) [] stack
  | record (field :: fields), stack => read_fields (field :: fields) (List.cons_ne_nil _ _) [] stack

/-- The rest of a list is read behind the items that have been. -/
theorem read_items : ∀ (items : List Json), items ≠ [] → ∀ (done : List Json) (stack : List Frame),
    (tokensOfItems items ++ [Token.endList]).foldlM Reading.read ⟨stack, .item done⟩ =
      some ⟨stack, .behind (.list (done.reverse ++ items))⟩
  | [], hsome, _, _ => absurd rfl hsome
  | [item], _, done, stack => by
    rw [tokensOfItems, List.foldlM_append, foldlM_item, read_tokensOf]
    simp [Reading.read]
  | item :: next :: items, _, done, stack => by
    have hrest := read_items (next :: items) (List.cons_ne_nil _ _) (item :: done) stack
    have htokens : tokensOfItems (item :: next :: items) ++ [.endList] =
        item.tokensOf ++ .comma :: (tokensOfItems (next :: items) ++ [.endList]) := by
      simp [tokensOfItems]
    rw [htokens, List.foldlM_append, foldlM_item, read_tokensOf]
    simpa [Reading.read] using hrest

/-- The rest of a record is read behind the fields that have been. -/
theorem read_fields : ∀ (fields : List (Option String × Json)), fields ≠ [] →
    ∀ (done : List (Option String × Json)) (stack : List Frame),
    (tokensOfFields fields ++ [Token.endRecord]).foldlM Reading.read ⟨stack, .name done⟩ =
      some ⟨stack, .behind (.record (done.reverse ++ fields))⟩
  | [], hsome, _, _ => absurd rfl hsome
  | [(name, value)], _, done, stack => by
    have hname := read_named name value [Token.endRecord] done stack
    rw [read_tokensOf] at hname
    simpa [tokensOfFields, Reading.read] using hname
  | (name, value) :: next :: fields, _, done, stack => by
    have hrest := read_fields (next :: fields) (List.cons_ne_nil _ _) ((name, value) :: done) stack
    have hname := read_named name value
      (.comma :: (tokensOfFields (next :: fields) ++ [.endRecord])) done stack
    rw [read_tokensOf] at hname
    simpa [tokensOfFields, Reading.read] using hname.trans hrest

end

/-- **The compact text of a value is read as that value**, if the value has one. -/
theorem parse_render {value : Json} (h : value.WellSpelled) : parse value.render = some value := by
  have hend : EndsScalar [] := trivial
  have htokens : tokens (value.render ++ []) = some (value.tokensOf ++ []) :=
    tokens_render h hend (by rw [tokens])
  rw [List.append_nil, List.append_nil] at htokens
  rw [parse, htokens]
  exact congrArg (· >>= Reading.finish?) (read_tokensOf value [])

end PlugWatch.Json
