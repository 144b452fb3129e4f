import Hyperlink.Text
import Hyperlink.Percent

/-!
Tables of characters.

A table is written as text: rows with blanks or line ends between them, in the order of their
characters, all numbers in hexadecimal. `41-5a` is the range from 41 to 5a, `100-12e/2` every second
character of a range, and what a row gives follows after `>`, several numbers joined by `+`.
-/

namespace Hyperlink.Unicode

/-- Characters from `first` to `last` in steps, and what the table says of them. -/
structure Row where
  first : Nat
  last : Nat
  step : Nat
  targets : List Nat

namespace Row

/-- A hexadecimal number. -/
def hex (s : Text) : Nat := s.foldl (fun n c => 16 * n + (Percent.hexValue? c).getD 0) 0

/-- Reads a row. -/
def ofText (s : Text) : Row :=
  let (characters, targets) := Text.cut '>' s
  let (range, step) := Text.cut '/' characters
  let (first, last) := Text.cut '-' range
  { first := hex first
    last := hex (last.getD first)
    step := (step.map hex).getD 1
    targets := (targets.map fun t => (t.splitOn '+').map hex).getD [] }

end Row

/-- Rows in the order of their characters. -/
structure Table where
  rows : Array Row

namespace Table

/-- Reads a table. -/
def ofString (s : String) : Table :=
  let rows := (s.toList.splitOnP fun c => c == ' ' || c == '\n').filter fun row => !row.isEmpty
  ⟨(rows.map Row.ofText).toArray⟩

/-- The place in the table after the last row from `low` to `high` that starts by
`code`. -/
def upperBound (t : Table) (code low high : Nat) : Nat :=
  if low < high then
    let middle := (low + high) / 2
    if (t.rows[middle]?).any fun row => row.first ≤ code then t.upperBound code (middle + 1) high
    else t.upperBound code low middle
  else low
termination_by high - low

/-- The row a character is in. -/
def find? (t : Table) (c : Char) : Option Row := do
  let row ← t.rows[t.upperBound c.toNat 0 t.rows.size - 1]?
  if row.first ≤ c.toNat ∧ c.toNat ≤ row.last ∧ (c.toNat - row.first) % row.step = 0 then some row
  else none

/-- Whether a character is in the table. -/
def contains (t : Table) (c : Char) : Bool := (t.find? c).isSome

/-- The number that the table gives a character. -/
def value? (t : Table) (c : Char) : Option Nat := (t.find? c).bind (·.targets.head?)

/-- The text that the table gives a character. A range with one target goes on with the characters
that follow it. -/
def text? (t : Table) (c : Char) : Option Text :=
  (t.find? c).map fun row =>
    match row.targets with
    | [target] => [Char.ofNat (target + (c.toNat - row.first))]
    | targets => targets.map Char.ofNat

end Table

end Hyperlink.Unicode
