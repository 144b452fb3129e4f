/-!
Text, and the few ways in which links are cut out of it.

A text is a list of characters, so that each reader below is a plain recursion on the list and each
writer an append. Only ASCII letters have case here: schemes and hosts are compared that way.

Main statements: `cut` gives back its input (`cut_append`) and stops at the first separator
(`not_mem_cut`); `cutLast?` is its counterpart from the right.
-/

namespace Hyperlink

/-- Text is a list of characters. -/
abbrev Text := List Char

namespace Text

/-! ### ASCII letters -/

/-- Every character is ASCII. -/
def isAscii (s : Text) : Bool := s.all fun c => c.toNat < 128

/-- ASCII capitals become small letters; every other character stays. -/
def lower (s : Text) : Text := s.map Char.toLower

/-- Equality up to the case of ASCII letters. -/
def sameLetters (a b : Text) : Bool := a.lower == b.lower

theorem sameLetters_iff (a b : Text) : sameLetters a b = true ↔ a.lower = b.lower := by
  simp [sameLetters]

/-- Characters past ASCII have no case here. -/
theorem toLower_of_le {c : Char} (h : 128 ≤ c.toNat) : c.toLower = c := by
  have hz : ¬ c.val ≤ 'Z'.val := by
    intro hle
    have hn : c.val.toNat ≤ 90 := UInt32.le_iff_toNat_le.1 hle
    have hc : c.val.toNat = c.toNat := rfl
    omega
  unfold Char.toLower
  rw [dif_neg fun hc => hz hc.2]

theorem toLower_ascii {c : Char} (h : c.toNat < 128) :
    c.toLower.toNat < 128 ∧ c.toLower.toLower = c.toLower := by
  have all : ∀ n < 128, (Char.ofNat n).toLower.toNat < 128 ∧
      (Char.ofNat n).toLower.toLower = (Char.ofNat n).toLower := by decide
  simpa using all c.toNat h

/-! ### Cutting -/

/-- The text before the first `c`, and the text after it if there is a `c`. -/
def cut (c : Char) : Text → Text × Option Text
  | [] => ([], none)
  | x :: rest =>
    if x = c then ([], some rest)
    else
      let (before, after) := cut c rest
      (x :: before, after)

/-- The texts before and after the last `c`, or nothing when there is no `c`. -/
def cutLast? (c : Char) : Text → Option (Text × Text)
  | [] => none
  | x :: rest =>
    match cutLast? c rest with
    | some (a, b) => some (x :: a, b)
    | none => if x = c then some ([], rest) else none

/-- Cutting loses nothing but the separator. -/
theorem cut_append (c : Char) :
    ∀ s : Text, s = (cut c s).1 ++ ((cut c s).2.map (c :: ·)).getD []
  | [] => rfl
  | x :: rest => by
    by_cases h : x = c
    · simp [cut, h]
    · simp only [cut, if_neg h, List.cons_append, ← cut_append c rest]

/-- The first part of a cut is free of the separator. -/
theorem not_mem_cut (c : Char) : ∀ s : Text, c ∉ (cut c s).1
  | [] => by simp [cut]
  | x :: rest => by
    by_cases h : x = c
    · simp [cut, h]
    · simpa [cut, h, Ne.symm h] using not_mem_cut c rest

/-- A text without the separator is its own first part. -/
theorem cut_of_not_mem (c : Char) : ∀ s : Text, c ∉ s → cut c s = (s, none)
  | [], _ => rfl
  | x :: rest, h => by
    have hx : x ≠ c := fun e => h (by simp [e])
    simp [cut, hx, cut_of_not_mem c rest fun hc => h (List.mem_cons_of_mem x hc)]

/-! ### Joining -/

/-- A joined text is its first part, and each other part with the separator in front. -/
theorem intercalate_cons (c : Char) (s : Text) (l : List Text) :
    [c].intercalate (s :: l) = s ++ l.flatMap (c :: ·) := by
  induction l generalizing s with
  | nil => simp
  | cons t l ih =>
    rw [List.intercalate_cons_cons, ih, List.flatMap_cons]
    simp

/-! ### Cleaning -/

/-- Control characters and the space are dropped at the ends of an address. -/
def isEdgeBlank (c : Char) : Bool := c ≤ ' '

/-- Tabs and line ends are dropped anywhere in an address. -/
def isTabOrLineEnd (c : Char) : Bool := c == '\t' || c == '\n' || c == '\r'

/-- The text without the blanks at its ends. -/
def trim (s : Text) : Text := ((s.dropWhile isEdgeBlank).reverse.dropWhile isEdgeBlank).reverse

/-- The text as an address: ends trimmed, then tabs and line ends taken out. -/
def clean (s : Text) : Text := s.trim.filter fun c => !isTabOrLineEnd c

end Text

end Hyperlink
