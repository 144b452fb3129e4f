import Hyperlink.Json.Basic
import Hyperlink.Percent

/-!
Reading JSON text.

The text is cut into tokens, and a machine with a stack of open arrays and objects takes the tokens
one by one, so that reading is a fold and needs no recursion of its own.
-/

namespace Hyperlink.Json

/-! ### Numbers -/

/-- The exponent part of a number. -/
def exponentOf? : Text → Option Int
  | [] => some 0
  | e :: rest =>
    if e = 'e' ∨ e = 'E' then
      let negative := rest.head? == some '-'
      let digits := if negative || rest.head? == some '+' then rest.tail else rest
      if digits ≠ [] ∧ digits.all Char.isDigit then
        let n : Int := Nat.ofDigitChars 10 digits 0
        some (if negative then -n else n)
      else none
    else none

/-- A number. Without a point and an exponent it is an integer, as far as 64 bits go; minus zero is
no integer. -/
def numberOf? (lexeme : Text) : Option Json := do
  let negative := lexeme.head? == some '-'
  let (whole, rest) := (if negative then lexeme.tail else lexeme).span Char.isDigit
  guard (whole ≠ [] ∧ (whole.head? = some '0' → whole.length = 1))
  let (places, tail) ←
    match rest with
    | '.' :: rest =>
      let (places, tail) := rest.span Char.isDigit
      if places = [] then none else some (places, tail)
    | _ => some ([], rest)
  let exponent ← exponentOf? tail
  let n := Nat.ofDigitChars 10 whole 0
  if rest.isEmpty && !negative && n < 0x10000000000000000 then return .integer n
  else if rest.isEmpty && negative && 0 < n && n ≤ 0x8000000000000000 then return .integer (-n)
  else return .float (← Binary64.ofDecimal? negative whole places exponent)

/-! ### Strings -/

/-- The number that four hexadecimal digits stand for. -/
def hexUnit? (a b c d : Char) : Option Nat := do
  let a ← Percent.hexValue? a
  let b ← Percent.hexValue? b
  let c ← Percent.hexValue? c
  let d ← Percent.hexValue? d
  return ((a * 16 + b) * 16 + c) * 16 + d

/-- The character that an escape letter stands for. -/
def escaped? : Char → Option Char
  | '"' => some '"'
  | '\\' => some '\\'
  | '/' => some '/'
  | 'b' => some '\x08'
  | 'f' => some '\x0C'
  | 'n' => some '\n'
  | 'r' => some '\r'
  | 't' => some '\t'
  | _ => none

/-- Reads a string up to its closing quote, `read` being what was read before, in reverse. A pair of
escaped surrogates is one character. -/
def stringOf? (read : Text) : Text → Option (Text × Text)
  | '"' :: rest => some (read.reverse, rest)
  | '\\' :: 'u' :: a :: b :: c :: d :: '\\' :: 'u' :: e :: f :: g :: h :: rest =>
    match hexUnit? a b c d, hexUnit? e f g h with
    | some high, some low =>
      if 0xD800 ≤ high ∧ high < 0xDC00 then
        if 0xDC00 ≤ low ∧ low < 0xE000 then
          stringOf? (Char.ofNat (0x10000 + (high - 0xD800) * 0x400 + (low - 0xDC00)) :: read) rest
        else none
      else if 0xDC00 ≤ high ∧ high < 0xE000 then none
      else stringOf? (Char.ofNat high :: read) ('\\' :: 'u' :: e :: f :: g :: h :: rest)
    | _, _ => none
  | '\\' :: 'u' :: a :: b :: c :: d :: rest =>
    match hexUnit? a b c d with
    | some unit =>
      if 0xD800 ≤ unit ∧ unit < 0xE000 then none else stringOf? (Char.ofNat unit :: read) rest
    | none => none
  | '\\' :: c :: rest =>
    match escaped? c with
    | some c => stringOf? (c :: read) rest
    | none => none
  | c :: rest => if c < ' ' then none else stringOf? (c :: read) rest
  | [] => none

theorem stringOf?_length : ∀ (read s : Text) {content rest : Text},
    stringOf? read s = some (content, rest) → rest.length < s.length := by
  intro read s
  fun_induction stringOf? read s <;> intro content rest h <;> simp_all <;> grind

/-! ### Tokens -/

/-- The pieces of JSON text. -/
inductive Token where
  | openArray | closeArray | openObject | closeObject | colon | comma
  | scalar (value : Json)

/-- Characters that a number is written with. -/
def isNumberChar (c : Char) : Bool := c.isDigit || "+-.eE".toList.contains c

/-- A name that stands for a value. -/
def wordOf? (word : Text) : Option Json :=
  if word = "null".toList then some .null
  else if word = "true".toList then some (.bool true)
  else if word = "false".toList then some (.bool false)
  else none

/-- The token of a punctuation character. -/
def punctuation? : Char → Option Token
  | '[' => some .openArray
  | ']' => some .closeArray
  | '\x7b' => some .openObject
  | '\x7d' => some .closeObject
  | ':' => some .colon
  | ',' => some .comma
  | _ => none

/-- The tokens of a text. -/
def tokens? : Text → Option (List Token)
  | [] => some []
  | c :: rest =>
    if c = ' ' ∨ c = '\t' ∨ c = '\n' ∨ c = '\r' then tokens? rest
    else
      match punctuation? c with
      | some token => (tokens? rest).map (token :: ·)
      | none =>
        if c = '"' then
          match h : stringOf? [] rest with
          | some (content, after) =>
            have := stringOf?_length [] rest h
            (tokens? after).map (.scalar (.string content) :: ·)
          | none => none
        else if c.isAlpha then
          have := (List.dropWhile_suffix (l := rest) Char.isAlpha).length_le
          match wordOf? (c :: rest.takeWhile Char.isAlpha) with
          | some value => (tokens? (rest.dropWhile Char.isAlpha)).map (.scalar value :: ·)
          | none => none
        else
          have := (List.dropWhile_suffix (l := rest) isNumberChar).length_le
          match numberOf? (c :: rest.takeWhile isNumberChar) with
          | some value => (tokens? (rest.dropWhile isNumberChar)).map (.scalar value :: ·)
          | none => none
termination_by s => s.length

/-! ### Values -/

/-- An array or object whose end has not come yet: what it holds so far, in reverse. -/
inductive Frame where
  | array (items : List Json)
  | object (fields : List (Text × Json)) (name : Text)

/-- What may come next, inside which open arrays and objects. -/
inductive State where
  | value (stack : List Frame)
  | valueOrClose (stack : List Frame)
  | nameOrClose (stack : List Frame)
  | name (fields : List (Text × Json)) (stack : List Frame)
  | colon (fields : List (Text × Json)) (name : Text) (stack : List Frame)
  | done (value : Json) (stack : List Frame)

/-- Where a value may come, it is finished or an array or object opens. -/
def openValue? (stack : List Frame) : Token → Option State
  | .scalar v => some (.done v stack)
  | .openArray => some (.valueOrClose stack)
  | .openObject => some (.nameOrClose stack)
  | _ => none

/-- One token. -/
def State.step? : State → Token → Option State
  | .value stack, token => openValue? stack token
  | .valueOrClose stack, .closeArray => some (.done (.array []) stack)
  | .valueOrClose stack, token => openValue? (.array [] :: stack) token
  | .nameOrClose stack, .closeObject => some (.done (.object []) stack)
  | .nameOrClose stack, .scalar (.string key) => some (.colon [] key stack)
  | .name fields stack, .scalar (.string key) => some (.colon fields key stack)
  | .colon fields key stack, .colon => some (.value (.object fields key :: stack))
  | .done v (.array items :: stack), .comma => some (.value (.array (v :: items) :: stack))
  | .done v (.array items :: stack), .closeArray => some (.done (.array (v :: items).reverse) stack)
  | .done v (.object fields key :: stack), .comma => some (.name ((key, v) :: fields) stack)
  | .done v (.object fields key :: stack), .closeObject =>
    some (.done (.object ((key, v) :: fields).reverse) stack)
  | _, _ => none

/-- Reads JSON text. -/
def parse? (s : Text) : Option Json := do
  match ← (← tokens? s).foldlM State.step? (.value []) with
  | .done v [] => some v
  | _ => none

end Hyperlink.Json
