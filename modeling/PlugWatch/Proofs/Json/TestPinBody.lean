import PlugWatch.Proofs.Json.Respelled
import PlugWatch.Proofs.Json.Tokens
import PlugWatch.Web.TestPinBody
/-!
# Test-pin requests read what can be set aside

A test-pin request does not know which fields it wants before it has seen its kind, and by then it has set
all of them aside. A spelling of a request is therefore read only if everything in it can be set aside,
also what stands in fields that nobody asks for. What a request itself writes can be: its numbers are words,
and rounding takes a word nowhere near the largest number.

## Main Definitions

* `TestPinBody.CanBeSetAside` : a value whose names, texts and numbers can be set aside, and its depth.
* `TestPinBody.kind`, `TestPinBody.parts` : the kind of a request, and the fields behind it.

## Main Statements

* `Json.isPlain_nat` : a word can be set aside.
* `TestPinBody.decode?_eq_some_iff` : a spelling is read exactly if it can be set aside.
* `TestPinBody.canBeSetAside_encode` : what is written can be set aside.
-/

namespace PlugWatch

open JsonForm (encode decode? decode?_respelled)
open Json (Respelled RespelledItems)

/-! ## Words are not too large -/

/-- Rounding takes a number to twice itself at most. -/
theorem roundToPrecision_le (n : Nat) : roundToPrecision n ≤ 2 * n := by
  unfold roundToPrecision
  dsimp only
  generalize hshift : n.log2 + 1 - 53 = shift
  rcases shift with - | shift
  · rw [show n % Nat.pow 2 0 = 0 from Nat.mod_one n, show n / Nat.pow 2 0 = n from Nat.div_one n]
    show n * 1 ≤ 2 * n
    omega
  · -- bits are dropped only of a number that is larger than what they count
    have hn : n ≠ 0 := by
      rintro rfl
      cases hshift
    have hunit : Nat.pow 2 (shift + 1) ≤ n :=
      Nat.le_trans (Nat.pow_le_pow_right (by decide) (by omega)) (Nat.log2_self_le hn)
    have hbelow : n / Nat.pow 2 (shift + 1) * Nat.pow 2 (shift + 1) ≤ n := Nat.div_mul_le_self n _
    split
    · rw [Nat.add_one_mul]
      omega
    · omega

namespace Scaled

/-- All digits of a word are kept. -/
theorem keepDigits_digits {n : Nat} (h : n ≤ maxSignificand) (rest : List Char) :
    keepDigits 0 (Decimal.digits n ++ rest) = keepDigits n rest := by
  fun_induction Decimal.digits n generalizing rest with
  | case1 n hsmall =>
    rw [List.singleton_append, keepDigits, Json.valueOf_singleton hsmall]
    simp [h]
  | case2 n hlarge ih =>
    have hdigit := Json.valueOf_singleton (Nat.mod_lt n (show 10 > 0 by decide))
    have hnumber : 10 * (n / 10) + n % 10 = n := Nat.div_add_mod n 10
    rw [List.append_assoc, ih (by omega), List.singleton_append, keepDigits, hdigit]
    simp [hnumber, h]

theorem ofDecimal_digits {n : Nat} (h : n ≤ maxSignificand) :
    ofDecimal (Decimal.digits n) [] 0 = ⟨n, 0⟩ := by
  have hkept := keepDigits_digits h []
  rw [List.append_nil, keepDigits] at hkept
  simp [ofDecimal, hkept, keepDigits]

/-- Rounding takes no word to the first number beyond. -/
theorem isTooLarge_word {n : Nat} (h : n ≤ maxSignificand) : isTooLarge ⟨n, 0⟩ = false := by
  have hone : roundToPrecision (Nat.pow 10 (0 : Int).toNat) = 1 := roundToPrecision_of_lt (by decide)
  have hpow : ∀ m, 66 ≤ m → 2 ^ 66 ≤ Nat.pow 2 m := fun m h => Nat.pow_le_pow_right (by decide) h
  have hbound : roundToPrecision (roundToPrecision n * 1) < Nat.pow 2 1024 :=
    calc roundToPrecision (roundToPrecision n * 1) ≤ 2 * (roundToPrecision n * 1) :=
          roundToPrecision_le _
      _ ≤ 4 * n := by
        have := roundToPrecision_le n
        omega
      _ < 2 ^ 66 := by
        have hsize : maxSignificand = 2 ^ 64 - 1 := rfl
        omega
      _ ≤ Nat.pow 2 1024 := hpow 1024 (by decide)
  unfold isTooLarge
  dsimp only
  rw [hone, decide_eq_false (Nat.not_le_of_lt hbound)]
  split <;> rfl

end Scaled

theorem Json.isPlain_nat {n : Nat} (h : n ≤ Scaled.maxSignificand) : (Json.nat n).isPlain = true := by
  rw [isPlain, Scaled.ofDecimal_digits h, Scaled.isTooLarge_word h]
  rfl

/-! ## Requests -/

namespace TestPinBody

/-- Whether a value can be set aside until it is known what it is for. -/
def CanBeSetAside (json : Json) : Prop := json.isPlain = true ∧ json.depth ≤ maxDepth

/-- The kind of a request. -/
def kind : TestPinBody → String
  | off => "off"
  | on => "on"
  | read _ _ => "read"
  | write _ _ => "write"

/-- The fields of a request behind its kind. -/
def parts : TestPinBody → List (String × Json)
  | off | on => []
  | read port length => [("port", encode port), ("length", encode length)]
  | write port data => [("port", encode port), ("data", encode data)]

theorem encode_eq (body : TestPinBody) :
    encode body = .object (("op", .text body.kind) :: body.parts) := by
  cases body <;> rfl

theorem wellSpelled_encode (body : TestPinBody) : (encode body).WellSpelled := by
  rw [encode_eq]
  refine JsonForm.wellSpelled_object (List.forall_mem_cons.mpr ⟨rfl, ?_⟩)
  cases body <;> simp [parts, JsonForm.wellSpelled_encode]

theorem nodup_names (body : TestPinBody) :
    ((("op", Json.text body.kind) :: body.parts).map Prod.fst).Nodup := by
  cases body <;> simp [parts]

/-- A request is made of its kind and of spellings of its fields. -/
theorem ofParts?_kind (body : TestPinBody) {values : List Json}
    (hvalues : RespelledItems (body.parts.map Prod.snd) values)
    {get : List String → Option (List Json)} (hget : get (body.parts.map Prod.fst) = some values) :
    ofParts? body.kind get = some body := by
  cases body with
  | off => rfl
  | on => rfl
  | read port length =>
    obtain - | ⟨hport, - | ⟨hlength, - | _⟩⟩ := hvalues
    have hget : get ["port", "length"] = some _ := hget
    simp [kind, ofParts?, hget, decode?_respelled hport, decode?_respelled hlength]
  | write port data =>
    obtain - | ⟨hport, - | ⟨hdata, - | _⟩⟩ := hvalues
    have hget : get ["port", "data"] = some _ := hget
    simp [kind, ofParts?, hget, decode?_respelled hport, decode?_respelled hdata]

/-- **Every spelling of a request that can be set aside is read as that request.** -/
theorem decode?_of_canBeSetAside {body : TestPinBody} {json : Json}
    (h : Respelled (encode body) json) (haside : CanBeSetAside json) : decode? json = some body := by
  rw [encode_eq] at h
  have hnodup := body.nodup_names
  obtain ⟨_, _, others, rfl, -⟩ := h.of_record
  obtain ⟨_, hop, hkind⟩ := Json.field?_of_respelled hnodup h List.mem_cons_self
  rw [hkind.of_text] at hop
  obtain ⟨values, hvalues, hitems⟩ :=
    Json.fields?_of_respelled hnodup h fun _ hfield => List.mem_cons_of_mem _ hfield
  have hread : decode? (.record others) =
      ofParts? body.kind fun names => Json.fields? names (.record others) := by
    show ofJson? _ = _
    rw [ofJson?, if_pos (by simpa [CanBeSetAside] using haside)]
    show Json.field? others "op" >>= _ = _
    rw [hop]
    rfl
  rw [hread]
  exact body.ofParts?_kind hitems hvalues

/-- What cannot be set aside is not read. -/
theorem canBeSetAside_of_decode? {json : Json} {body : TestPinBody} (h : decode? json = some body) :
    CanBeSetAside json := by
  have h : ofJson? json = some body := h
  unfold ofJson? at h
  split at h
  · rename_i haside
    simpa [CanBeSetAside] using haside
  · cases h

/-- So a spelling of a request is read exactly if it can be set aside. -/
theorem decode?_eq_some_iff {body : TestPinBody} {json : Json} (h : Respelled (encode body) json) :
    decode? json = some body ↔ CanBeSetAside json :=
  ⟨canBeSetAside_of_decode?, decode?_of_canBeSetAside h⟩

/-- What a request is written as can be set aside. -/
theorem canBeSetAside_encode (body : TestPinBody) : CanBeSetAside (encode body) := by
  have hbyte : ∀ port : UInt8, (encode port).isPlain = true := fun port =>
    Json.isPlain_nat (Nat.le_trans (Nat.le_of_lt port.toNat_lt) (by decide))
  have hword : ∀ length : UInt64, (encode length).isPlain = true := fun length =>
    Json.isPlain_nat (Nat.le_pred_of_lt length.toNat_lt)
  cases body with
  | off => exact ⟨rfl, by decide⟩
  | on => exact ⟨rfl, by decide⟩
  | read port length =>
    refine ⟨?_, (show 1 ≤ maxDepth by decide)⟩
    simp [encode_eq, parts, Json.object, Json.isPlain, Json.arePlainFields, hbyte, hword, Json.text]
  | write port data =>
    refine ⟨?_, (show 1 ≤ maxDepth by decide)⟩
    have hdata : (encode data).isPlain = true := rfl
    simp [encode_eq, parts, Json.object, Json.isPlain, Json.arePlainFields, hbyte, hdata, Json.text]

end TestPinBody

end PlugWatch
