import Hyperlink.Link

/-!
When two hosts are the same.

Two hosts are the same exactly when they have the same letters, or one form in which they are
compared (`sameBy_iff`). Letters that differ in their case alone do not change that form
(`comparable_congr`), so being the same host is an equivalence (`equivalence_sameBy`), whatever form
other hosts than ASCII ones are given, and even if some have none.
-/

namespace Hyperlink

namespace Text

theorem sameLetters_refl (s : Text) : s.sameLetters s = true := by simp [sameLetters]

theorem isAscii_lower (s : Text) : s.lower.isAscii = s.isAscii := by
  have hchar (c : Char) : c.toLower.toNat < 128 ↔ c.toNat < 128 := by
    rcases Nat.lt_or_ge c.toNat 128 with hc | hc
    · exact iff_of_true (toLower_ascii hc).1 hc
    · rw [toLower_of_le hc]
  rw [isAscii, lower, List.all_map, isAscii]
  exact congrArg s.all (funext fun c => decide_eq_decide.2 (hchar c))

theorem isAscii_congr {a b : Text} (h : a.lower = b.lower) : a.isAscii = b.isAscii := by
  rw [← isAscii_lower a, h, isAscii_lower]

end Text

namespace Host

variable {toAscii : Text → Option Text} {a b c : Text}

theorem sameBy_refl (toAscii : Text → Option Text) (host : Text) :
    sameBy toAscii host host = true := by
  rw [sameBy, if_pos (Text.sameLetters_refl host)]

theorem comparable_of_isAscii (h : a.isAscii = true) : comparable toAscii a = some a.lower :=
  if_pos h

/-- ASCII hosts of other letters are told apart before their forms are looked at, but these would
tell them apart as well. -/
theorem sameBy_iff : sameBy toAscii a b = true ↔ a.lower = b.lower ∨
    ∃ form, comparable toAscii a = some form ∧ comparable toAscii b = some form := by
  by_cases hletters : a.lower = b.lower
  · have hsame : a.sameLetters b = true := (Text.sameLetters_iff a b).2 hletters
    simp [sameBy, hsame, hletters]
  · have hsame : a.sameLetters b ≠ true := mt (Text.sameLetters_iff a b).1 hletters
    rw [sameBy, if_neg hsame, or_iff_right hletters]
    by_cases hascii : (a.isAscii && b.isAscii) = true
    · obtain ⟨ha, hb⟩ := Bool.and_eq_true_iff.1 hascii
      rw [if_pos hascii, comparable_of_isAscii ha, comparable_of_isAscii hb]
      refine iff_of_false Bool.false_ne_true ?_
      rintro ⟨form, hforma, hformb⟩
      exact hletters (Option.some.inj (hforma.trans hformb.symm))
    · rw [if_neg hascii]
      cases comparable toAscii a with
      | none => simp
      | some forma =>
        cases comparable toAscii b with
        | none => simp
        | some formb =>
          show (forma == formb) = true ↔ _
          rw [beq_iff_eq]
          constructor
          · rintro rfl
            exact ⟨forma, rfl, rfl⟩
          · rintro ⟨form, hforma, hformb⟩
            exact Option.some.inj (hforma.trans hformb.symm)

section Blind

variable (hcase : ∀ a b : Text, a.sameLetters b = true → toAscii a = toAscii b)
include hcase

theorem comparable_congr (h : a.lower = b.lower) : comparable toAscii a = comparable toAscii b := by
  rw [comparable, comparable, Text.isAscii_congr h, h, hcase a b ((Text.sameLetters_iff a b).2 h)]

theorem sameBy_trans (hab : sameBy toAscii a b = true) (hbc : sameBy toAscii b c = true) :
    sameBy toAscii a c = true := by
  rw [sameBy_iff] at hab hbc ⊢
  rcases hab with hab | ⟨form, ha, hb⟩
  · -- the letters of `a` are those of `b`, and so is its form
    rwa [hab, comparable_congr hcase hab]
  · rcases hbc with hbc | ⟨form', hb', hc⟩
    · exact Or.inr ⟨form, ha, comparable_congr hcase hbc ▸ hb⟩
    · obtain rfl : form = form' := Option.some.inj (hb.symm.trans hb')
      exact Or.inr ⟨form, ha, hc⟩

/-- Being the same host is an equivalence, for any ASCII form of other hosts that does not depend on
the case of ASCII letters. -/
theorem equivalence_sameBy : Equivalence fun a b => sameBy toAscii a b = true where
  refl := sameBy_refl toAscii
  symm {a b} h := by
    rw [sameBy_iff] at h ⊢
    refine h.imp Eq.symm ?_
    rintro ⟨form, ha, hb⟩
    exact ⟨form, hb, ha⟩
  trans := sameBy_trans hcase

end Blind

/-- The ASCII form of internationalised names is of that kind. -/
theorem equivalence_same : Equivalence fun a b => same a b = true :=
  equivalence_sameBy fun a b h => by
    rw [← Idna.toAscii?_lower a, (Text.sameLetters_iff a b).1 h, Idna.toAscii?_lower]

end Host

end Hyperlink
