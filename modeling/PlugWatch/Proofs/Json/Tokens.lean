import Mathlib.Data.List.TakeWhile
import PlugWatch.Json.Token
import PlugWatch.Proofs.Text.Decimal
/-!
# The tokens of what is written

The scanner takes a number and a word as far as it goes, and has to find the closing quote of a text among
escapes. Here is what it makes of a single scalar that has been written, with the rest of the text behind
it. A number or a word is cut off where it ends as long as no character that might belong to it follows,
and in a compact text only marks follow.

## Main Definitions

* `Json.EndsScalar` : what may stand behind a scalar.
* `Json.Piece.Names` : a piece of a text and the character it names.

## Main Statements

* `Json.scanText_escaped` : the pieces of an escaped text name its characters.
* `Json.numberToken?_digits` : the digits of a number are scanned as that number.
* `Json.tokens_mark`, `Json.tokens_text`, `Json.tokens_number`, `Json.tokens_word` : the token at the head
  of a text.
-/

namespace PlugWatch.Json

/-- Whatever may stand behind a scalar: the end of the text, or a mark. -/
def EndsScalar : List Char → Prop
  | [] => True
  | c :: _ => (mark? c).isSome = true

/-! ## Texts -/

/-- A piece that names a character: the character itself, or the number of a control. -/
def Piece.Names (c : Char) : Piece → Prop
  | .char d => d = c
  | .unit n => n = c.toNat ∧ n < 32

/-- The number of a control takes no other unit with it. -/
theorem Piece.join_control {n : Nat} (hcontrol : n < 32) (more : List Piece) :
    Piece.join (.unit n :: more) = (Piece.join more).map (Char.ofNat n :: ·) := by
  have hopens : opensPair n = false := by
    simp only [opensPair, Bool.and_eq_false_iff, decide_eq_false_iff_not]
    omega
  have hcloses : closesPair n = false := by
    simp only [closesPair, Bool.and_eq_false_iff, decide_eq_false_iff_not]
    omega
  rcases more with - | ⟨d | m, more⟩ <;> simp [Piece.join, hopens, hcloses]

theorem Piece.join_cons {piece : Piece} {c : Char} (hpiece : piece.Names c) {more : List Piece}
    {chars : List Char} (hmore : Piece.join more = some chars) :
    Piece.join (piece :: more) = some (c :: chars) := by
  rcases piece with d | n
  · obtain rfl : d = c := hpiece
    rw [Piece.join, hmore]
    rfl
  · obtain ⟨rfl, hcontrol⟩ : n = c.toNat ∧ n < 32 := hpiece
    rw [Piece.join_control hcontrol, hmore, Option.map_some, Char.ofNat_toNat]

/-- Two hexadecimal digits behind two zeros are the number of a control. -/
theorem unitOf?_byte {n : Nat} (h : n < 32) :
    unitOf? '0' '0' (Hex.digitChar ((UInt8.ofNat n).toNat / 16))
      (Hex.digitChar ((UInt8.ofNat n).toNat % 16)) = some n := by
  have hall : ∀ n : Fin 32, unitOf? '0' '0' (Hex.digitChar ((UInt8.ofNat n.val).toNat / 16))
      (Hex.digitChar ((UInt8.ofNat n.val).toNat % 16)) = some n.val := by decide
  exact hall ⟨n, h⟩

theorem scanText_char {c : Char} (hquote : c ≠ '"') (hslash : c ≠ '\\') (hcontrol : 32 ≤ c.toNat)
    {rest behind : List Char} {pieces : List Piece} (h : scanText rest = some (pieces, behind)) :
    scanText (c :: rest) = some (.char c :: pieces, behind) := by
  rw [scanText.eq_def]
  split
  · contradiction
  · rename_i heq
    exact absurd (List.head_eq_of_cons_eq heq) hquote
  · rename_i heq
    exact absurd (List.head_eq_of_cons_eq heq) hslash
  · rename_i heq
    exact absurd (List.head_eq_of_cons_eq heq) hslash
  · rename_i heq
    cases heq
    rw [if_neg (by omega), h]

/-- An escaped character is scanned as one piece, which names it. -/
theorem scanText_escape (c : Char) {rest behind : List Char} {pieces : List Piece}
    (h : scanText rest = some (pieces, behind)) :
    ∃ piece : Piece, piece.Names c ∧
      scanText (escape c ++ rest) = some (piece :: pieces, behind) := by
  unfold escape
  split
  case h_8 hquote hslash _ _ _ _ _ =>
    split
    · rename_i hcontrol
      refine ⟨.unit c.toNat, ⟨rfl, hcontrol⟩, ?_⟩
      show scanText ('\\' :: 'u' :: '0' :: '0' :: Hex.digitChar _ :: Hex.digitChar _ :: rest) = _
      rw [scanText, unitOf?_byte hcontrol, h]
    · rename_i hcontrol
      exact ⟨.char c, rfl, scanText_char hquote hslash (by omega) h⟩
  all_goals exact ⟨.char _, rfl, by simp [scanText, shortEscape?, h]⟩

/-- **A text is scanned up to its closing quote, and its pieces name the characters that were escaped.** -/
theorem scanText_escaped (chars rest : List Char) :
    ∃ pieces, scanText (chars.flatMap escape ++ '"' :: rest) = some (pieces, rest) ∧
      Piece.join pieces = some chars := by
  induction chars with
  | nil => exact ⟨[], rfl, rfl⟩
  | cons c chars ih =>
    obtain ⟨pieces, hscan, hjoin⟩ := ih
    obtain ⟨piece, hnames, hpiece⟩ := scanText_escape c hscan
    refine ⟨piece :: pieces, ?_, Piece.join_cons hnames hjoin⟩
    rw [List.flatMap_cons, List.append_assoc, hpiece]

/-! ## Numbers -/

theorem isDigit_digitChar {d : Nat} (hd : d < 10) : isDigit (Decimal.digitChar d) = true := by
  have h : ∀ d : Fin 10, isDigit (Decimal.digitChar d) = true := by decide
  exact h ⟨d, hd⟩

theorem valueOf_singleton {d : Nat} (hd : d < 10) : valueOf [Decimal.digitChar d] = d := by
  have h : ∀ d : Fin 10, valueOf [Decimal.digitChar d.val] = d.val := by decide
  exact h ⟨d, hd⟩

theorem valueOf_append_singleton (ds : List Char) (c : Char) :
    valueOf (ds ++ [c]) = 10 * valueOf ds + valueOf [c] := by
  simp [valueOf, List.foldl_append]

theorem isDigit_of_mem_digits {n : Nat} {c : Char} (hc : c ∈ Decimal.digits n) :
    isDigit c = true := by
  fun_induction Decimal.digits n with
  | case1 n hsmall =>
    rw [List.mem_singleton.mp hc]
    exact isDigit_digitChar hsmall
  | case2 n hlarge ih =>
    rcases List.mem_append.mp hc with hc | hc
    · exact ih hc
    · rw [List.mem_singleton.mp hc]
      exact isDigit_digitChar (Nat.mod_lt _ (by decide))

theorem valueOf_digits (n : Nat) : valueOf (Decimal.digits n) = n := by
  fun_induction Decimal.digits n with
  | case1 n hsmall => exact valueOf_singleton hsmall
  | case2 n hlarge ih =>
    rw [valueOf_append_singleton, ih, valueOf_singleton (Nat.mod_lt n (by decide))]
    exact Nat.div_add_mod n 10

/-- There is a digit in front, and it is not zero unless it stands alone. -/
theorem isWhole_append {ds : List Char} (hds : isWhole ds = true) (hzero : ds ≠ ['0'])
    (more : List Char) : isWhole (ds ++ more) = true ∧ ds ++ more ≠ ['0'] := by
  rcases ds with - | ⟨c, ds⟩
  · cases hds
  · have hc : c ≠ '0' := by
      rintro rfl
      rcases ds with - | ⟨d, ds⟩
      · exact hzero rfl
      · exact absurd hds (by simp [isWhole])
    refine ⟨?_, fun h => hc (List.head_eq_of_cons_eq h)⟩
    rw [List.cons_append, isWhole]
    · simpa using hc
    · exact fun h _ => hc h

theorem isWhole_digits {n : Nat} (hn : 0 < n) :
    isWhole (Decimal.digits n) = true ∧ Decimal.digits n ≠ ['0'] := by
  fun_induction Decimal.digits n with
  | case1 n hsmall =>
    have h : ∀ n : Fin 10, 0 < n.val →
        isWhole [Decimal.digitChar n] = true ∧ [Decimal.digitChar n] ≠ ['0'] := by decide
    exact h ⟨n, hsmall⟩ hn
  | case2 n hlarge ih =>
    obtain ⟨hwhole, hzero⟩ := ih (by omega)
    exact isWhole_append hwhole hzero _

/-- The digits of a number are scanned as that number. -/
theorem numberToken?_digits (n : Nat) : numberToken? (Decimal.digits n) = some (.nat n) := by
  have hall : ∀ c ∈ Decimal.digits n, isDigit c = true := fun c => isDigit_of_mem_digits
  have hwhole : isWhole (Decimal.digits n) = true := by
    rcases Nat.eq_zero_or_pos n with rfl | hn
    · rw [Decimal.digits_of_lt (by decide)]
      rfl
    · exact (isWhole_digits hn).1
  have hunsigned : ∀ rest, Decimal.digits n ≠ '-' :: rest := fun rest h =>
    absurd (hall '-' (h ▸ List.mem_cons_self)) (by decide)
  unfold numberToken?
  split
  · rename_i rest heq
    exact absurd heq (hunsigned rest)
  · simp [List.takeWhile_eq_self_iff.mpr hall, List.dropWhile_eq_nil_iff.mpr hall, hwhole, isTail,
      valueOf_digits]

theorem inNumber_of_isDigit {c : Char} (h : isDigit c = true) : inNumber c = true := by
  simp [inNumber, h]

/-- Digits in front are in a number as well. -/
theorem inNumber_of_dropWhile {text : List Char}
    (h : ∀ c ∈ text.dropWhile isDigit, inNumber c = true) : ∀ c ∈ text, inNumber c = true := by
  rw [← List.takeWhile_append_dropWhile (p := isDigit) (l := text)]
  exact List.forall_mem_append.mpr
    ⟨fun c hc => inNumber_of_isDigit (List.mem_takeWhile_imp hc), h⟩

theorem inNumber_of_isExponent {text : List Char} (h : isExponent text = true) :
    ∀ c ∈ text, inNumber c = true := by
  have hdigits : ∀ {ds : List Char}, ds.all isDigit = true → ∀ c ∈ ds, inNumber c = true :=
    fun h c hc => inNumber_of_isDigit (List.all_eq_true.mp h c hc)
  unfold isExponent at h
  split at h <;> rw [Bool.and_eq_true] at h
  · exact List.forall_mem_cons.mpr ⟨rfl, hdigits h.2⟩
  · exact List.forall_mem_cons.mpr ⟨rfl, hdigits h.2⟩
  · exact hdigits h.2

theorem inNumber_of_isTail {text : List Char} (h : isTail text = true) :
    ∀ c ∈ text, inNumber c = true := by
  unfold isTail at h
  split at h
  · simp
  · exact List.forall_mem_cons.mpr ⟨rfl, inNumber_of_isExponent h⟩
  · exact List.forall_mem_cons.mpr ⟨rfl, inNumber_of_isExponent h⟩
  · dsimp only at h
    rw [Bool.and_eq_true] at h
    refine List.forall_mem_cons.mpr ⟨rfl, inNumber_of_dropWhile ?_⟩
    -- behind the digits of a fraction there is nothing or an exponent
    have hbehind := h.2
    split at hbehind
    · rename_i heq
      rw [heq]
      simp
    · rename_i heq
      rw [heq]
      exact List.forall_mem_cons.mpr ⟨rfl, inNumber_of_isExponent hbehind⟩
    · rename_i heq
      rw [heq]
      exact List.forall_mem_cons.mpr ⟨rfl, inNumber_of_isExponent hbehind⟩
    · cases hbehind
  · cases h

/-- A number is written with the characters of numbers only. -/
theorem inNumber_of_numberToken? {text : List Char} {value : Json}
    (h : numberToken? text = some value) : ∀ c ∈ text, inNumber c = true := by
  unfold numberToken? at h
  dsimp only at h
  split_ifs at h with hnumber hnat
  all_goals
    rw [Bool.and_eq_true] at hnumber
    split at hnumber
    · exact List.forall_mem_cons.mpr ⟨rfl, inNumber_of_dropWhile (inNumber_of_isTail hnumber.2)⟩
    · exact inNumber_of_dropWhile (inNumber_of_isTail hnumber.2)

/-! ## The token at the head of a text -/

variable {rest : List Char} {more : List Token}

/-- What stands behind a scalar is not taken into it. -/
theorem takeWhile_append_endsScalar {test : Char → Bool}
    (htest : ∀ c, (mark? c).isSome = true → test c = false) {text : List Char}
    (htext : ∀ c ∈ text, test c = true) (hrest : EndsScalar rest) :
    (text ++ rest).takeWhile test = text ∧ (text ++ rest).dropWhile test = rest := by
  rw [List.takeWhile_append_of_pos htext, List.dropWhile_append_of_pos htext]
  rcases rest with - | ⟨c, rest⟩
  · simp
  · have hc : test c = false := htest c hrest
    simp [hc]

/-- A mark is in no number and in no word, and is no blank. -/
theorem foreign_of_mark {c : Char} (h : (mark? c).isSome = true) :
    inNumber c = false ∧ inWord c = false ∧ isBlank c = false := by
  unfold mark? at h
  split at h <;> first | exact ⟨rfl, rfl, rfl⟩ | cases h

theorem isBlank_of_inNumber {c : Char} (h : inNumber c = true) : isBlank c = false := by
  simp only [isBlank, Bool.or_eq_false_iff, decide_eq_false_iff_not]
  refine ⟨⟨⟨?_, ?_⟩, ?_⟩, ?_⟩ <;> rintro rfl <;> cases h

/-- A mark is a token of its own. -/
theorem tokens_mark {c : Char} {token : Token} (h : mark? c = some token)
    (hrest : tokens rest = some more) : tokens (c :: rest) = some (token :: more) := by
  have hblank := (foreign_of_mark (Option.isSome_of_eq_some h)).2.2
  rw [tokens, hblank, h, hrest]
  rfl

/-- A text is one token, up to its closing quote. -/
theorem tokens_text (s : String) (hrest : tokens rest = some more) :
    tokens (renderText s.toList ++ rest) = some (.scalar (.text s) :: more) := by
  obtain ⟨pieces, hscan, hjoin⟩ := scanText_escaped s.toList rest
  have htext : renderText s.toList ++ rest = '"' :: (s.toList.flatMap escape ++ '"' :: rest) := by
    simp [renderText]
  rw [htext, tokens, show isBlank '"' = false from rfl, show mark? '"' = none from rfl]
  simp only [Bool.false_eq_true, if_false, if_true]
  split
  · rename_i hnone
    rw [hscan] at hnone
    cases hnone
  · rename_i hsome
    rw [hscan] at hsome
    cases hsome
    rw [hjoin, hrest, Option.map_some, Option.map_some, String.ofList_toList]
    rfl

/-- A number is one token, as far as it goes. -/
theorem tokens_number {text : List Char} {value : Json} (h : numberToken? text = some value)
    (hends : EndsScalar rest) (hrest : tokens rest = some more) :
    tokens (text ++ rest) = some (.scalar value :: more) := by
  rcases text with - | ⟨c, text⟩
  · cases h
  · obtain ⟨hc, htext⟩ := List.forall_mem_cons.mp (inNumber_of_numberToken? h)
    have hmark : mark? c = none := by
      by_contra hmark
      have hforeign := (foreign_of_mark (Option.isSome_iff_ne_none.mpr hmark)).1
      rw [hc] at hforeign
      cases hforeign
    have hquote : c ≠ '"' := by
      rintro rfl
      cases hc
    obtain ⟨htake, hdrop⟩ :=
      takeWhile_append_endsScalar (fun _ hmark => (foreign_of_mark hmark).1) htext hends
    rw [List.cons_append, tokens, isBlank_of_inNumber hc, hmark]
    simp [hquote, hc, htake, hdrop, h, hrest]

/-- A word is one token, as far as it goes. -/
theorem tokens_word {text : List Char} {value : Json} (h : wordToken? text = some value)
    (hends : EndsScalar rest) (hrest : tokens rest = some more) :
    tokens (text ++ rest) = some (.scalar value :: more) := by
  -- the first letter decides that it is a word, and is not tested for being in one
  have hword : ∀ {c : Char} {word : List Char} {value : Json}, wordToken? (c :: word) = some value →
      isBlank c = false → mark? c = none → c ≠ '"' → inNumber c = false →
      (∀ d ∈ word, inWord d = true) → tokens (c :: word ++ rest) = some (.scalar value :: more) := by
    intro c word value h hblank hmark hquote hnumber hall
    obtain ⟨htake, hdrop⟩ :=
      takeWhile_append_endsScalar (fun _ hmark => (foreign_of_mark hmark).2.1) hall hends
    rw [List.cons_append, tokens, hblank, hmark]
    simp [hquote, hnumber, htake, hdrop, h, hrest]
  have hletters : text ∈ [['n', 'u', 'l', 'l'], ['t', 'r', 'u', 'e'], ['f', 'a', 'l', 's', 'e']] := by
    unfold wordToken? at h
    split_ifs at h <;> simp [*]
  simp only [List.mem_cons, List.not_mem_nil, or_false] at hletters
  rcases hletters with rfl | rfl | rfl
  all_goals exact hword h rfl rfl (by decide) rfl (List.all_eq_true.mp rfl)

end PlugWatch.Json
