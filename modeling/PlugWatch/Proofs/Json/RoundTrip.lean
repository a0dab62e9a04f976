import PlugWatch.Proofs.Json.Lawful
import PlugWatch.Proofs.Json.TestPinBody
/-!
# What is written is read back

Writing and reading are far apart here: one goes down a value, the other goes from token to token and then
asks for fields by their names. They agree all the same. What is written is read as the value it came from,
and so is every text that says the same with its fields in another order and with fields that nobody asks
for. Only a test-pin request reads less, since it has to set such fields aside.

## Main Definitions

* `JsonForm.rewrite?` : reads a text, and writes what it says.
* `JsonForm.RoundTrips` : writing and reading agree on the spellings that a form admits.

## Main Statements

* `JsonForm.roundTrips_all` : every form makes the round trip.
* `JsonForm.testPinBody_ofText?_iff` : which spellings of a test-pin request are read.
* `JsonForm.on_with_huge_number` : a test-pin request does not with spellings that it cannot set aside.
-/

namespace PlugWatch.JsonForm

open Json (Respelled)

/-- Reads a text, and writes what it says. -/
def rewrite? (α : Type) [JsonForm α] (text : List Char) : Option String :=
  (ofText? text : Option α).map toText

/-- Writing and reading agree, on the spellings that the form admits. -/
structure RoundTrips (α : Type) [JsonForm α] (Admits : Json → Prop) : Prop where
  /-- The compact text of a value is read as that value. -/
  compact : ∀ value : α, ofText? (toText value).toList = some value
  /-- Every text of a spelling is read as the value, whatever blanks and escapes it has. -/
  spelling : ∀ (value : α) (json : Json), Respelled (encode value) json → Admits json →
    ∀ text, Json.parse text = some json → ofText? text = some value
  /-- So is the compact text of a spelling, if that has one. -/
  rendered : ∀ (value : α) (json : Json), Respelled (encode value) json → Admits json →
    json.WellSpelled → ofText? json.render = some value
  /-- A text that has been read and written stays as it is. -/
  idempotent : ∀ text written, rewrite? α text = some written →
    rewrite? α written.toList = some written

variable {α : Type} [JsonForm α]

/-- A form whose values have a text, and which reads the spellings it admits, makes the round trip. -/
theorem RoundTrips.of_decode? {Admits : Json → Prop}
    (hwell : ∀ value : α, (encode value).WellSpelled) (hadmits : ∀ value : α, Admits (encode value))
    (hdecode : ∀ (value : α) (json : Json), Respelled (encode value) json → Admits json →
      decode? json = some value) : RoundTrips α Admits := by
  have hspelling : ∀ (value : α) (json : Json), Respelled (encode value) json → Admits json →
      ∀ text, Json.parse text = some json → ofText? text = some value := by
    intro value json h hjson text htext
    rw [ofText?, htext]
    exact hdecode value json h hjson
  have hcompact : ∀ value : α, ofText? (toText value).toList = some value := by
    intro value
    have htext : (toText value).toList = (encode value).render := String.toList_ofList
    rw [htext]
    exact hspelling value _ (.same _) (hadmits value) _ (Json.parse_render (hwell value))
  refine ⟨hcompact, hspelling, ?_, ?_⟩
  · intro value json h hjson hwell
    exact hspelling value json h hjson _ (Json.parse_render hwell)
  · intro text written h
    obtain ⟨value, -, rfl⟩ := Option.map_eq_some_iff.mp h
    rw [rewrite?, hcompact value, Option.map_some]

theorem roundTrips_of_lawful [LawfulJsonForm α] : RoundTrips α fun _ => True :=
  .of_decode? wellSpelled_encode (fun _ => trivial) fun _ _ h _ => decode?_respelled h

theorem roundTrips_testPinBody : RoundTrips TestPinBody TestPinBody.CanBeSetAside :=
  .of_decode? TestPinBody.wellSpelled_encode TestPinBody.canBeSetAside_encode
    fun _ _ => TestPinBody.decode?_of_canBeSetAside

/-- **What is written as JSON is read back**, for the configuration and its parts, for the data of the
brick, and for requests. The compact text of a value is read as that value, and so is every text of a
spelling of it, with the fields of any record in another order and with other fields among them; a request
reads the spellings that it can set aside, and its own are among these. A text that has been read and
written stays as it is when that is done once more. -/
theorem roundTrips_all :
    (RoundTrips Config (fun _ => True) ∧ RoundTrips DetectionConfig (fun _ => True) ∧
      RoundTrips SamplerConfig (fun _ => True) ∧ RoundTrips LinkConfig (fun _ => True) ∧
      RoundTrips WebConfig (fun _ => True)) ∧
    (RoundTrips Port (fun _ => True) ∧ RoundTrips DeviceType (fun _ => True) ∧
      RoundTrips Connection (fun _ => True) ∧ RoundTrips Classification (fun _ => True) ∧
      RoundTrips Stage (fun _ => True) ∧ RoundTrips ColorData (fun _ => True) ∧
      RoundTrips PortSnapshot (fun _ => True)) ∧
    RoundTrips TestPinBody TestPinBody.CanBeSetAside :=
  ⟨⟨roundTrips_of_lawful, roundTrips_of_lawful, roundTrips_of_lawful, roundTrips_of_lawful,
      roundTrips_of_lawful⟩,
    ⟨roundTrips_of_lawful, roundTrips_of_lawful, roundTrips_of_lawful, roundTrips_of_lawful,
      roundTrips_of_lawful, roundTrips_of_lawful, roundTrips_of_lawful⟩,
    roundTrips_testPinBody⟩

/-- A text that spells a test-pin request is read as that request exactly if what it says can be set
aside. -/
theorem testPinBody_ofText?_iff {body : TestPinBody} {json : Json} {text : List Char}
    (h : Respelled (encode body) json) (hparse : Json.parse text = some json) :
    (ofText? text : Option TestPinBody) = some body ↔ TestPinBody.CanBeSetAside json := by
  rw [ofText?, hparse]
  exact TestPinBody.decode?_eq_some_iff h

/-- The request for the mode with a field that nobody asks for, and a number in it that is too large to be
set aside: the text spells the request, and it is not read. -/
theorem on_with_huge_number :
    ∃ json, Respelled (encode TestPinBody.on) json ∧
      Json.parse "\x7b\"op\":\"on\",\"x\":1e999\x7d".toList = some json ∧
      (ofText? "\x7b\"op\":\"on\",\"x\":1e999\x7d".toList : Option TestPinBody) = none := by
  let huge : Option String × Json := (some "x", .decimal "1e999".toList)
  let json : Json := .record [(some "op", .text "on"), huge]
  have hnew : ∀ field ∈ [huge], Json.NewName [(some "op", .text "on")] field.1 := by
    simp [huge, Json.NewName]
  have hspelled : Respelled (encode TestPinBody.on) json := .record (.refl _) hnew (.refl _)
  have hwell : json.WellSpelled := ⟨rfl, rfl, rfl, rfl, trivial⟩
  have hparse : Json.parse "\x7b\"op\":\"on\",\"x\":1e999\x7d".toList = some json :=
    Json.parse_render hwell
  refine ⟨json, hspelled, hparse, ?_⟩
  rw [ofText?, hparse]
  rfl

/-- Nor is a text in such a field whose escape names no character. -/
example :
    (ofText? "\x7b\"op\":\"on\",\"x\":\"\\ud800\"\x7d".toList : Option TestPinBody) = none := by
  decide +kernel

/-- A list in such a field may be nested 126 times, which makes 127 with the request around it. -/
example :
    let text (n : Nat) := "\x7b\"op\":\"on\",\"x\":".toList ++ List.replicate n '[' ++
      List.replicate n ']' ++ "\x7d".toList
    (ofText? (text 126) : Option TestPinBody) = some .on ∧
      (ofText? (text 127) : Option TestPinBody) = none := by
  decide +kernel

end PlugWatch.JsonForm
