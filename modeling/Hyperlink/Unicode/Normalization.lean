import Hyperlink.Unicode.CombiningClass
import Hyperlink.Unicode.Decomposition

/-!
Normalization form C: every character decomposed, marks in canonical order, then composed again.

Two characters compose when some character that may be composed has the decomposition of the first
followed by the second.
-/

namespace Hyperlink.Unicode

/-! ### Hangul -/

/-- The parts of a Hangul syllable. -/
def decomposeHangul (c : Char) : Text :=
  let place := c.toNat - 0xAC00
  let parts := [Char.ofNat (0x1100 + place / 588), Char.ofNat (0x1161 + place % 588 / 28)]
  if place % 28 = 0 then parts else parts ++ [Char.ofNat (0x11A7 + place % 28)]

/-- Whether a character is a Hangul syllable. -/
def isHangul (c : Char) : Bool := 0xAC00 ≤ c.toNat && c.toNat < 0xAC00 + 11172

/-- A leading consonant and a vowel, or a syllable without a final consonant and one. -/
def composeHangul? (a b : Char) : Option Char :=
  if 0x1100 ≤ a.toNat ∧ a.toNat < 0x1113 ∧ 0x1161 ≤ b.toNat ∧ b.toNat < 0x1176 then
    some (Char.ofNat (0xAC00 + ((a.toNat - 0x1100) * 21 + (b.toNat - 0x1161)) * 28))
  else if isHangul a ∧ (a.toNat - 0xAC00) % 28 = 0 ∧ 0x11A7 < b.toNat ∧ b.toNat < 0x11C3 then
    some (Char.ofNat (a.toNat + (b.toNat - 0x11A7)))
  else none

/-! ### Decomposing -/

/-- The full canonical decomposition of a character. -/
def decompose (c : Char) : Text :=
  if isHangul c then decomposeHangul c else (decompositionTable.text? c).getD [c]

/-- Adds a character to a text in reverse, before the marks that belong after it. -/
def addOrdered (c : Char) : Text → Text
  | [] => [c]
  | x :: rest =>
    if combiningClass c ≠ 0 ∧ combiningClass c < combiningClass x then x :: addOrdered c rest
    else c :: x :: rest

/-- A text decomposed, its marks in canonical order. -/
def decomposed (s : Text) : Text :=
  ((s.flatMap decompose).foldl (fun done c => addOrdered c done) []).reverse

/-! ### Composing -/

/-- The rows of the characters that may be composed. -/
def composites : Array Row :=
  decompositionTable.rows.filter fun row => !uncomposedTable.contains (Char.ofNat row.first)

/-- The character that two characters compose to. -/
def compose? (a b : Char) : Option Char :=
  let codes := (decompose a ++ [b]).map Char.toNat
  composeHangul? a b <|>
    (composites.find? fun row => row.targets == codes).map fun row => Char.ofNat row.first

/-- A text being composed: what is finished, the last character that marks belong to, its marks; all
in reverse. -/
structure Composer where
  done : Text
  base : Option Char
  marks : Text

/-- The text so far, in reverse. -/
def Composer.reversed (s : Composer) : Text := s.marks ++ s.base.toList ++ s.done

/-- Takes one character. It composes with the base unless a mark of its class or above stands
between. -/
def Composer.step (s : Composer) (c : Char) : Composer :=
  let blocked := s.marks.head?.any fun mark => combiningClass c ≤ combiningClass mark
  match if blocked then none else s.base.bind (compose? · c) with
  | some composed => { s with base := some composed }
  | none =>
    if combiningClass c = 0 then ⟨s.reversed, some c, []⟩ else { s with marks := c :: s.marks }

/-- Normalization form C. -/
def normalized (s : Text) : Text :=
  ((decomposed s).foldl Composer.step ⟨[], none, []⟩).reversed.reverse

end Hyperlink.Unicode
