import PlugWatch.Json.Value
/-!
# JSON tokens

A text is first cut into tokens. Blanks between tokens are dropped; numbers and words are as long
as they can be.

## Main Definitions

* `Json.Token` : brackets, marks, words, numbers and texts.
* `Json.scanText`, `Json.Piece.join` : the pieces of a quoted text, and the characters they name.
* `Json.numberToken?` : the number that a run of characters writes.
* `Json.tokens` : all tokens of a text.
-/

namespace PlugWatch.Json

/-- The smallest part of a JSON text that has a meaning. -/
inductive Token where
  | beginList
  | endList
  | beginRecord
  | endRecord
  | colon
  | comma
  /-- A word, a number or a text. -/
  | scalar (value : Json)

/-! ## Texts -/

/-- A piece of a quoted text: a character, or a 16-bit unit written by its number. -/
inductive Piece where
  | char (c : Char)
  | unit (n : Nat)
  deriving DecidableEq, Repr

/-- The character of a two-character escape. -/
def shortEscape? : Char → Option Char
  | '"' => some '"'
  | '\\' => some '\\'
  | '/' => some '/'
  | 'b' => some '\x08'
  | 'f' => some '\x0c'
  | 'n' => some '\n'
  | 'r' => some '\r'
  | 't' => some '\t'
  | _ => none

/-- The number that four hexadecimal digits write. -/
def unitOf? (a b c d : Char) : Option Nat := do
  let a ← Hex.digitValue? a
  let b ← Hex.digitValue? b
  let c ← Hex.digitValue? c
  let d ← Hex.digitValue? d
  return 4096 * a + 256 * b + 16 * c + d

/-- The pieces of a quoted text up to its closing quote, and what follows that. -/
def scanText : List Char → Option (List Piece × List Char)
  | [] => none
  | '"' :: rest => some ([], rest)
  | '\\' :: 'u' :: a :: b :: c :: d :: rest =>
    match unitOf? a b c d, scanText rest with
    | some n, some (pieces, behind) => some (.unit n :: pieces, behind)
    | _, _ => none
  | '\\' :: e :: rest =>
    match shortEscape? e, scanText rest with
    | some c, some (pieces, behind) => some (.char c :: pieces, behind)
    | _, _ => none
  | c :: rest =>
    if c.toNat < 32 then none
    else
      match scanText rest with
      | some (pieces, behind) => some (.char c :: pieces, behind)
      | none => none

/-- Whether a unit opens a pair of units. -/
def opensPair (n : Nat) : Bool := 0xD800 ≤ n && n < 0xDC00

/-- Whether a unit closes a pair of units. -/
def closesPair (n : Nat) : Bool := 0xDC00 ≤ n && n < 0xE000

/-- The characters that pieces name: a unit that opens a pair needs one behind it that closes
it. -/
def Piece.join : List Piece → Option (List Char)
  | [] => some []
  | .char c :: rest => (Piece.join rest).map (c :: ·)
  | .unit n :: .unit m :: rest =>
    if opensPair n then
      if closesPair m then
        (Piece.join rest).map
          (Char.ofNat (0x10000 + (n - 0xD800) * 0x400 + (m - 0xDC00)) :: ·)
      else none
    else if closesPair n then none
    else (Piece.join (.unit m :: rest)).map (Char.ofNat n :: ·)
  | .unit n :: rest =>
    if opensPair n || closesPair n then none
    else (Piece.join rest).map (Char.ofNat n :: ·)

/-! ## Numbers and words -/

/-- Whether a character is a decimal digit. -/
def isDigit (c : Char) : Bool := '0' ≤ c && c ≤ '9'

/-- Whether a character may occur in a number. -/
def inNumber (c : Char) : Bool :=
  isDigit c || c = '-' || c = '+' || c = '.' || c = 'e' || c = 'E'

/-- Whether characters write an exponent: digits with an optional sign. -/
def isExponent : List Char → Bool
  | '+' :: rest | '-' :: rest => !rest.isEmpty && rest.all isDigit
  | text => !text.isEmpty && text.all isDigit

/-- Whether characters may follow the whole part of a number: nothing, a fraction, an exponent, or
both. -/
def isTail : List Char → Bool
  | [] => true
  | 'e' :: rest | 'E' :: rest => isExponent rest
  | '.' :: rest =>
    let behind := rest.dropWhile isDigit
    !(rest.takeWhile isDigit).isEmpty &&
      match behind with
      | [] => true
      | 'e' :: exponent | 'E' :: exponent => isExponent exponent
      | _ => false
  | _ => false

/-- Whether digits are the whole part of a number: one zero, or no zero in front. -/
def isWhole : List Char → Bool
  | [] => false
  | ['0'] => true
  | c :: _ => c != '0'

/-- The number that decimal digits write. -/
def valueOf (ds : List Char) : Nat := ds.foldl (fun n c => 10 * n + (c.toNat - '0'.toNat)) 0

/-- The number that a run of characters writes. -/
def numberToken? (text : List Char) : Option Json :=
  let unsigned := match text with
    | '-' :: rest => rest
    | _ => text
  let whole := unsigned.takeWhile isDigit
  let tail := unsigned.dropWhile isDigit
  if isWhole whole && isTail tail then
    if whole = text then some (.nat (valueOf whole)) else some (.decimal text)
  else none

/-- Whether a character may occur in a word. -/
def inWord (c : Char) : Bool := 'a' ≤ c && c ≤ 'z'

/-- The value that a word stands for. -/
def wordToken? (text : List Char) : Option Json :=
  if text = ['n', 'u', 'l', 'l'] then some .null
  else if text = ['t', 'r', 'u', 'e'] then some (.bool true)
  else if text = ['f', 'a', 'l', 's', 'e'] then some (.bool false)
  else none

/-! ## All tokens -/

/-- Whether a character is a blank between tokens. -/
def isBlank (c : Char) : Bool := c = ' ' || c = '\n' || c = '\t' || c = '\r'

/-- The token that a single character is. -/
def mark? : Char → Option Token
  | '[' => some .beginList
  | ']' => some .endList
  | '\x7b' => some .beginRecord
  | '\x7d' => some .endRecord
  | ':' => some .colon
  | ',' => some .comma
  | _ => none

theorem length_scanText {text behind : List Char} {pieces : List Piece}
    (h : scanText text = some (pieces, behind)) : behind.length < text.length := by
  fun_induction scanText text generalizing pieces behind with
  | case1 => cases h
  | case2 => cases h; simp
  | case3 _ _ _ _ _ _ _ _ found _ ih =>
    cases h
    have := ih found
    simp only [List.length_cons]
    omega
  | case4 => cases h
  | case5 _ _ _ _ _ _ found _ ih =>
    cases h
    have := ih found
    simp only [List.length_cons]
    omega
  | case6 => cases h
  | case7 => cases h
  | case8 _ _ _ _ _ _ _ _ found ih =>
    cases h
    have := ih found
    simp only [List.length_cons]
    omega
  | case9 => cases h

theorem length_dropWhile_le (test : Char → Bool) (text : List Char) :
    (text.dropWhile test).length ≤ text.length :=
  (List.dropWhile_sublist test).length_le

/-- The tokens of a text, in order; `none` where something is no token. -/
def tokens (text : List Char) : Option (List Token) :=
  match text with
  | [] => some []
  | c :: rest =>
    if isBlank c then tokens rest
    else
      match mark? c with
      | some token => (tokens rest).map (token :: ·)
      | none =>
        if c = '"' then
          match h : scanText rest with
          | none => none
          | some (pieces, behind) =>
            have := length_scanText h
            let value := Json.str ((Piece.join pieces).map String.ofList)
            (tokens behind).map (.scalar value :: ·)
        else if inNumber c then
          have := length_dropWhile_le inNumber rest
          match numberToken? (c :: rest.takeWhile inNumber) with
          | none => none
          | some value => (tokens (rest.dropWhile inNumber)).map (.scalar value :: ·)
        else
          have := length_dropWhile_le inWord rest
          match wordToken? (c :: rest.takeWhile inWord) with
          | none => none
          | some value => (tokens (rest.dropWhile inWord)).map (.scalar value :: ·)
termination_by text.length
decreasing_by all_goals (simp only [List.length_cons]; omega)

end PlugWatch.Json
