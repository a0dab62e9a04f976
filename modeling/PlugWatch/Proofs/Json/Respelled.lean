import Mathlib.Data.List.Nodup
import Mathlib.Data.Option.Basic
import PlugWatch.Json.Form
import PlugWatch.Proofs.Json.Reader
/-!
# Spellings of a value

The fields of a record may come in any order, and fields that nobody asks for may stand among them. So a
value has many spellings besides the one in which it is written, and a reader that goes by the names of
fields makes the same of all of them. The names of a form have to be different for that: a name that occurs
twice is refused.

## Main Definitions

* `Json.Respelled` : a value, and another one that spells it with its fields in any order and with other
  fields among them, at every depth.
* `LawfulJsonForm` : a form that reads every spelling of what it writes.

## Main Statements

* `Json.field?_of_respelled`, `Json.fields?_of_respelled` : the named fields of a spelling spell those of
  the record.
* `JsonForm.decode?_of_fields` : a form that asks for the fields that it writes reads every spelling.
-/

namespace PlugWatch

namespace Json

/-- A name that is not among those of a record. -/
def NewName (fields : List (Option String × Json)) (name : Option String) : Prop :=
  name.isSome = true ∧ name ∉ fields.map Prod.fst

mutual

/-- The spellings of a value. -/
inductive Respelled : Json → Json → Prop
  | same (value : Json) : Respelled value value
  | list {items others : List Json} (hitems : RespelledItems items others) :
    Respelled (.list items) (.list others)
  /-- Each field is respelled, others are inserted, and then the order is changed. -/
  | record {fields kept inserted others : List (Option String × Json)}
      (hkept : RespelledFields fields kept) (hnew : ∀ field ∈ inserted, NewName fields field.1)
      (horder : others.Perm (kept ++ inserted)) :
    Respelled (.record fields) (.record others)

/-- The spellings of items, one by one. -/
inductive RespelledItems : List Json → List Json → Prop
  | nil : RespelledItems [] []
  | cons {item other : Json} {items others : List Json} (hitem : Respelled item other)
      (hitems : RespelledItems items others) : RespelledItems (item :: items) (other :: others)

/-- The spellings of fields, one by one; a name has only one. -/
inductive RespelledFields :
    List (Option String × Json) → List (Option String × Json) → Prop
  | nil : RespelledFields [] []
  | cons {name : Option String} {value other : Json} {fields others : List (Option String × Json)}
      (hvalue : Respelled value other) (hfields : RespelledFields fields others) :
    RespelledFields ((name, value) :: fields) ((name, other) :: others)

end

variable {json : Json}

theorem Respelled.of_bool {b : Bool} (h : Respelled (.bool b) json) : json = .bool b := by
  cases h
  rfl

theorem Respelled.of_nat {n : Nat} (h : Respelled (.nat n) json) : json = .nat n := by
  cases h
  rfl

theorem Respelled.of_text {s : String} (h : Respelled (.text s) json) : json = .text s := by
  cases h
  rfl

theorem RespelledItems.refl : ∀ items : List Json, RespelledItems items items
  | [] => .nil
  | item :: items => .cons (.same item) (refl items)

theorem RespelledFields.refl : ∀ fields : List (Option String × Json), RespelledFields fields fields
  | [] => .nil
  | (_, value) :: fields => .cons (.same value) (refl fields)

/-- A list is spelled item by item. -/
theorem Respelled.of_list {items : List Json} (h : Respelled (.list items) json) :
    ∃ others, json = .list others ∧ RespelledItems items others := by
  cases h with
  | same => exact ⟨items, rfl, .refl items⟩
  | list hitems => exact ⟨_, rfl, hitems⟩

/-- A record is spelled field by field, with other fields among them. -/
theorem Respelled.of_record {fields : List (Option String × Json)}
    (h : Respelled (.record fields) json) :
    ∃ kept inserted others, json = .record others ∧ RespelledFields fields kept ∧
      (∀ field ∈ inserted, NewName fields field.1) ∧ others.Perm (kept ++ inserted) := by
  cases h with
  | same => exact ⟨fields, [], fields, rfl, .refl fields, by simp, by simp⟩
  | record hkept hnew horder => exact ⟨_, _, _, rfl, hkept, hnew, horder⟩

/-! ## Named fields -/

theorem RespelledFields.map_fst {fields others : List (Option String × Json)}
    (h : RespelledFields fields others) : others.map Prod.fst = fields.map Prod.fst := by
  induction fields generalizing others with
  | nil =>
    cases h
    rfl
  | cons field fields ih =>
    cases h with
    | cons hvalue hfields => rw [List.map_cons, List.map_cons, ih hfields]

theorem RespelledFields.exists_mem {fields others : List (Option String × Json)}
    (h : RespelledFields fields others) {name : Option String} {value : Json}
    (hmem : (name, value) ∈ fields) :
    ∃ other, (name, other) ∈ others ∧ Respelled value other := by
  induction fields generalizing others with
  | nil => cases hmem
  | cons field fields ih =>
    cases h with
    | cons hvalue hfields =>
      rcases List.mem_cons.mp hmem with heq | hmem
      · cases heq
        exact ⟨_, List.mem_cons_self, hvalue⟩
      · obtain ⟨other, hother, hspelled⟩ := ih hfields hmem
        exact ⟨other, List.mem_cons_of_mem _ hother, hspelled⟩

/-- The entry of a name is the only one, where names are different. -/
theorem filter_eq_singleton {fields : List (Option String × Json)}
    (hnodup : (fields.map Prod.fst).Nodup) {name : Option String} {value : Json}
    (hmem : (name, value) ∈ fields) :
    (fields.filter fun field => field.1 = name) = [(name, value)] := by
  induction fields with
  | nil => cases hmem
  | cons field fields ih =>
    obtain ⟨hnew, hnodup⟩ := List.nodup_cons.mp hnodup
    rcases List.mem_cons.mp hmem with rfl | hmem
    · have hrest : (fields.filter fun field => field.1 = name) = [] :=
        List.filter_eq_nil_iff.mpr fun field hfield hname =>
          hnew (List.mem_map.mpr ⟨field, hfield, of_decide_eq_true hname⟩)
      rw [List.filter_cons_of_pos (by simp), hrest]
    · have hother : field.1 ≠ name := by
        rintro rfl
        exact hnew (List.mem_map.mpr ⟨_, hmem, rfl⟩)
      rw [List.filter_cons_of_neg (by simpa using hother), ih hnodup hmem]

variable {fields : List (String × Json)}

/-- **The value of a name is found among the fields of every spelling**, and spells that of the record. -/
theorem field?_of_respelled (hnodup : (fields.map Prod.fst).Nodup)
    {others : List (Option String × Json)} (h : Respelled (.object fields) (.record others))
    {name : String} {value : Json} (hmem : (name, value) ∈ fields) :
    ∃ other, field? others name = some other ∧ Respelled value other := by
  obtain ⟨kept, inserted, _, heq, hkept, hnew, horder⟩ := h.of_record
  cases heq
  have hrecord : (some name, value) ∈ fields.map fun field => (some field.1, field.2) :=
    List.mem_map.mpr ⟨_, hmem, rfl⟩
  obtain ⟨other, hother, hspelled⟩ := hkept.exists_mem hrecord
  have hnames : (kept.map Prod.fst).Nodup := by
    have hsome := hnodup.map (Option.some_injective String)
    rw [List.map_map] at hsome
    rw [hkept.map_fst, List.map_map]
    exact hsome
  have hinserted : (inserted.filter fun field => field.1 = some name) = [] :=
    List.filter_eq_nil_iff.mpr fun field hfield hname =>
      (hnew field hfield).2 (of_decide_eq_true hname ▸ List.mem_map.mpr ⟨_, hrecord, rfl⟩)
  have hfilter : (others.filter fun field => field.1 = some name) = [(some name, other)] := by
    have hperm := horder.filter fun field => field.1 = some name
    rw [List.filter_append, filter_eq_singleton hnames hother, hinserted, List.append_nil] at hperm
    exact List.perm_singleton.mp hperm
  exact ⟨other, by rw [field?, hfilter], hspelled⟩

/-- The values of some names of a record are found in every spelling. -/
theorem mapM_field?_of_respelled (hnodup : (fields.map Prod.fst).Nodup)
    {others : List (Option String × Json)} (h : Respelled (.object fields) (.record others)) :
    ∀ {asked : List (String × Json)}, (∀ field ∈ asked, field ∈ fields) →
      ∃ values, (asked.map Prod.fst).mapM (field? others) = some values ∧
        RespelledItems (asked.map Prod.snd) values
  | [], _ => ⟨[], rfl, .nil⟩
  | (name, value) :: asked, hasked => by
    obtain ⟨hname, hasked⟩ := List.forall_mem_cons.mp hasked
    obtain ⟨other, hother, hspelled⟩ := field?_of_respelled hnodup h hname
    obtain ⟨values, hvalues, hitems⟩ := mapM_field?_of_respelled hnodup h hasked
    refine ⟨other :: values, ?_, .cons hspelled hitems⟩
    rw [List.map_cons, List.mapM_cons, hother, hvalues]
    rfl

/-- All fields of a spelling have names that are texts. -/
theorem isSome_of_respelled {others : List (Option String × Json)}
    (h : Respelled (.object fields) (.record others)) :
    (others.all fun field => field.1.isSome) = true := by
  obtain ⟨kept, inserted, _, heq, hkept, hnew, horder⟩ := h.of_record
  cases heq
  rw [List.all_eq_true]
  intro field hfield
  rcases List.mem_append.mp (horder.mem_iff.mp hfield) with hmem | hmem
  · have hname : field.1 ∈ kept.map Prod.fst := List.mem_map.mpr ⟨field, hmem, rfl⟩
    rw [hkept.map_fst, List.map_map] at hname
    obtain ⟨_, _, hsome⟩ := List.mem_map.mp hname
    rw [← hsome]
    rfl
  · exact (hnew field hmem).1

/-- **Fields that a record has are found in every spelling of it, each with a spelling of its value.** -/
theorem fields?_of_respelled (hnodup : (fields.map Prod.fst).Nodup)
    (h : Respelled (.object fields) json) {asked : List (String × Json)}
    (hasked : ∀ field ∈ asked, field ∈ fields) :
    ∃ values, json.fields? (asked.map Prod.fst) = some values ∧
      RespelledItems (asked.map Prod.snd) values := by
  obtain ⟨_, _, others, rfl, -⟩ := h.of_record
  obtain ⟨values, hvalues, hitems⟩ := mapM_field?_of_respelled hnodup h hasked
  exact ⟨values, by rw [fields?, if_pos (isSome_of_respelled h), hvalues], hitems⟩

end Json

/-! ## Lawful forms -/

open JsonForm (encode decode?)
open Json (Respelled RespelledItems)

/-- A form that reads every spelling of what it writes, and writes only what has a text. -/
class LawfulJsonForm (α : Type) [JsonForm α] : Prop where
  wellSpelled_encode : ∀ value : α, (encode value).WellSpelled
  decode?_respelled : ∀ {value : α} {json : Json}, Respelled (encode value) json →
    decode? json = some value

namespace JsonForm

export LawfulJsonForm (wellSpelled_encode decode?_respelled)

variable {α : Type} {json : Json}

instance : LawfulJsonForm Bool where
  wellSpelled_encode _ := trivial
  decode?_respelled h := by
    rw [Respelled.of_bool h]
    rfl

instance : LawfulJsonForm UInt8 where
  wellSpelled_encode _ := trivial
  decode?_respelled {n _} h := by
    rw [Respelled.of_nat h]
    exact (if_pos n.toNat_lt).trans (congrArg some UInt8.ofNat_toNat)

instance : LawfulJsonForm UInt16 where
  wellSpelled_encode _ := trivial
  decode?_respelled {n _} h := by
    rw [Respelled.of_nat h]
    exact (if_pos n.toNat_lt).trans (congrArg some UInt16.ofNat_toNat)

instance : LawfulJsonForm UInt32 where
  wellSpelled_encode _ := trivial
  decode?_respelled {n _} h := by
    rw [Respelled.of_nat h]
    exact (if_pos n.toNat_lt).trans (congrArg some UInt32.ofNat_toNat)

instance : LawfulJsonForm UInt64 where
  wellSpelled_encode _ := trivial
  decode?_respelled {n _} h := by
    rw [Respelled.of_nat h]
    exact (if_pos n.toNat_lt).trans (congrArg some UInt64.ofNat_toNat)

instance : LawfulJsonForm String where
  wellSpelled_encode _ := rfl
  decode?_respelled h := by
    rw [Respelled.of_text h]
    rfl

instance : LawfulJsonForm ShortText where
  wellSpelled_encode _ := rfl
  decode?_respelled {host _} h := by
    rw [Respelled.of_text h]
    exact dif_pos host.size_le

theorem wellSpelledItems_map [JsonForm α] [LawfulJsonForm α] :
    ∀ values : List α, Json.WellSpelledItems (values.map encode)
  | [] => trivial
  | value :: values => ⟨wellSpelled_encode value, wellSpelledItems_map values⟩

/-- Items are read one by one. -/
theorem mapM_decode?_respelled [JsonForm α] [LawfulJsonForm α] :
    ∀ {values : List α} {items : List Json}, RespelledItems (values.map encode) items →
      items.mapM decode? = some values
  | [], _, h => by
    cases h
    rfl
  | value :: values, _, h => by
    rcases h with - | ⟨hitem, hitems⟩
    rw [List.mapM_cons, decode?_respelled hitem, mapM_decode?_respelled hitems]
    rfl

instance [JsonForm α] [LawfulJsonForm α] {n : Nat} : LawfulJsonForm (Vector α n) where
  wellSpelled_encode values := wellSpelledItems_map values.toList
  decode?_respelled {values _} h := by
    obtain ⟨items, rfl, hitems⟩ := Respelled.of_list h
    have hvalues := mapM_decode?_respelled hitems
    have harray : values.toList.toArray = values.toArray := rfl
    simp [decode?, hvalues, harray]

instance [JsonForm α] [LawfulJsonForm α] : LawfulJsonForm (PerPort α) where
  wellSpelled_encode values := wellSpelledItems_map values.toList
  decode?_respelled {values _} h := by
    obtain ⟨items, rfl, hitems⟩ := Respelled.of_list h
    obtain - | ⟨h1, - | ⟨h2, - | ⟨h3, - | ⟨h4, - | _⟩⟩⟩⟩ := hitems
    simp [decode?, decode?_respelled h1, decode?_respelled h2, decode?_respelled h3,
      decode?_respelled h4]

/-- A record has a text if all its values have one. -/
theorem wellSpelled_object : ∀ {fields : List (String × Json)},
    (∀ field ∈ fields, field.2.WellSpelled) → (Json.object fields).WellSpelled
  | [], _ => trivial
  | _ :: _, h => by
    obtain ⟨hvalue, hfields⟩ := List.forall_mem_cons.mp h
    exact ⟨rfl, hvalue, wellSpelled_object hfields⟩

/-- A value that is written by its name is found again by that name, if no value in front of it has the
same. -/
theorem decode?_ofKeys {all : List α} {key : α → String}
    (hkey : ∀ value, (all.find? fun other => key other = key value) = some value) {value : α}
    (h : Respelled ((ofKeys all key).encode value) json) :
    (ofKeys all key).decode? json = some value := by
  rw [Respelled.of_text h]
  exact hkey value

/-- **A form that asks for the fields that it writes reads every spelling**, if their names are different
and it makes the value of any spellings of what stands in them. -/
theorem decode?_of_fields [JsonForm α] {names : List String} {next : List Json → Option α}
    (hdecode : decode? json = json.fields? names >>= next) {fields : List (String × Json)}
    (hnames : fields.map Prod.fst = names) (hnodup : names.Nodup)
    (h : Respelled (.object fields) json) {value : α}
    (hnext : ∀ values, RespelledItems (fields.map Prod.snd) values → next values = some value) :
    decode? json = some value := by
  subst hnames
  obtain ⟨values, hvalues, hitems⟩ := Json.fields?_of_respelled hnodup h fun _ hfield => hfield
  rw [hdecode, hvalues]
  exact hnext values hitems

end JsonForm

end PlugWatch
