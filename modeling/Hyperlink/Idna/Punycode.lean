import Hyperlink.Text

/-!
Punycode: any text in ASCII letters, digits and hyphens.

The ASCII characters come first; then, smallest character first, each other character is written as
the number of places (pairs of a character and a position) passed over since the last one. The
numbers have digits of base 36 whose last one is recognised by a threshold, which adapts to the
sizes met before.
-/

namespace Hyperlink.Punycode

/-- The digit for a number below 36: `a` to `z`, then `0` to `9`. -/
def digit (n : Nat) : Char := if n < 26 then Char.ofNat (0x61 + n) else Char.ofNat (0x16 + n)

/-- The number of a digit, in either case. -/
def value? (c : Char) : Option Nat :=
  if 'a' ≤ c ∧ c ≤ 'z' then some (c.toNat - 0x61)
  else if 'A' ≤ c ∧ c ≤ 'Z' then some (c.toNat - 0x41)
  else if '0' ≤ c ∧ c ≤ '9' then some (c.toNat - 0x16)
  else none

/-- The threshold of the digit at place `k`, places counted in steps of 36: a smaller digit is the
last one. -/
def threshold (k bias : Nat) : Nat := if k ≤ bias then 1 else min 26 (k - bias)

theorem threshold_pos (k bias : Nat) : 1 ≤ threshold k bias := by
  unfold threshold
  split <;> omega

/-- Scales a step down until it is small, and counts how often that takes. -/
def settle (delta k : Nat) : Nat :=
  if 455 < delta then settle (delta / 35) (k + 36) else k + 36 * delta / (delta + 38)
termination_by delta

/-- The bias after a step of that size, with so many characters written. -/
def adapt (delta count : Nat) (first : Bool) : Nat :=
  let delta := if first then delta / 700 else delta / 2
  settle (delta + delta / count) 0

/-! ### Writing -/

/-- The digits of a step. -/
def digits (bias k delta : Nat) : Text :=
  let t := threshold k bias
  if delta < t then [digit delta]
  else digit (t + (delta - t) % (36 - t)) :: digits bias (k + 36) ((delta - t) / (36 - t))
termination_by delta
decreasing_by
  have := threshold_pos k bias
  exact Nat.lt_of_le_of_lt (Nat.div_le_self _ _) (by omega)

/-- A text on its way out: places passed since the last character, characters written, bias. -/
structure Writer where
  delta : Nat
  count : Nat
  bias : Nat
  first : Bool
  out : Text

/-- Passes one character of the text while looking for `code`. -/
def Writer.pass (code : Nat) (w : Writer) (c : Char) : Writer :=
  if c.toNat < code then { w with delta := w.delta + 1 }
  else if c.toNat = code then
    { delta := 0
      count := w.count + 1
      bias := adapt w.delta (w.count + 1) w.first
      first := false
      out := w.out ++ digits w.bias 36 w.delta }
  else w

/-- Writes all places of each code, the codes going up from `next`. -/
def Writer.run (text : Text) (next : Nat) (w : Writer) : List Nat → Text
  | [] => w.out
  | code :: codes =>
    let start := { w with delta := w.delta + (code - next) * (w.count + 1) }
    let done := text.foldl (Writer.pass code) start
    Writer.run text (code + 1) { done with delta := done.delta + 1 } codes

/-- The Punycode form of a text. -/
def encode (text : Text) : Text :=
  let basic := text.filter fun c => c.toNat < 128
  let codes := (((text.map Char.toNat).filter fun n => 128 ≤ n).mergeSort).eraseDups
  let w : Writer := ⟨0, basic.length, 72, true, []⟩
  (if basic = [] then [] else basic ++ ['-']) ++ w.run text 128 codes

/-! ### Reading -/

/-- A text on its way in: the characters so far, and the step whose digits are being read. -/
structure Reader where
  text : Text
  code : Nat
  bias : Nat
  /-- The place before the step. -/
  start : Nat
  place : Nat
  weight : Nat
  k : Nat

/-- Whether the last step is complete. -/
def Reader.isDone (r : Reader) : Bool := r.k == 36

/-- Numbers of 32 bits. -/
def word? (n : Nat) : Option Nat := if n < 0x100000000 then some n else none

/-- The character with that code. -/
def char? (n : Nat) : Option Char := if n.isValidChar then some (Char.ofNat n) else none

/-- Reads one digit. Numbers have to stay within 32 bits. -/
def Reader.step? (r : Reader) (c : Char) : Option Reader := do
  let d ← value? c
  let place ← word? (r.place + (← word? (d * r.weight)))
  let t := threshold r.k r.bias
  if d < t then
    let count := r.text.length + 1
    let code := r.code + place / count
    let position := place % count
    let c ← char? code
    return {
      text := r.text.insertIdx position c
      code
      bias := adapt (place - r.start) count (r.start == 0)
      start := position + 1
      place := position + 1
      weight := 1
      k := 36 }
  else
    return { r with place, weight := ← word? (r.weight * (36 - t)), k := r.k + 36 }

/-- The text of a Punycode form. -/
def decode? (s : Text) : Option Text := do
  let (basic, tail) :=
    match Text.cutLast? '-' s with
    | some ([], _) | none => ([], s)
    | some (basic, tail) => (basic, tail)
  let r ← tail.foldlM Reader.step? ⟨Text.lower basic, 128, 72, 0, 0, 1, 36⟩
  if r.isDone then some r.text else none

end Hyperlink.Punycode
