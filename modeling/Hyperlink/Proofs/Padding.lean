import Mathlib.Logic.Relation
import Hyperlink.Proofs.Clean
import Hyperlink.Url.Parse

/-!
Characters that do not count in an address.

Cleaning trims a text and then takes out tabs and line ends. The other order leaves the same
(`trim_unbroken`): what trimming stops at is never taken out. So a tab or line end anywhere, or a
blank at either end, does not change what cleaning leaves, and nothing else is cleaned away
(`clean_eq_clean_iff`). An address is read from what is left (`parse_eq_of_trim_unbroken`).
-/

namespace Hyperlink

namespace Text

/-! ### The order of cleaning -/

/-- The text without its tabs and line ends. -/
def unbroken (s : Text) : Text := s.filter fun c => !isTabOrLineEnd c

theorem unbroken_cons_of_break {c : Char} (h : isTabOrLineEnd c = true) (s : Text) :
    unbroken (c :: s) = unbroken s := List.filter_cons_of_neg (by simp [h])

theorem unbroken_cons {c : Char} (h : isTabOrLineEnd c = false) (s : Text) :
    unbroken (c :: s) = c :: unbroken s := List.filter_cons_of_pos (by simp [h])

theorem unbroken_append (s t : Text) : unbroken (s ++ t) = unbroken s ++ unbroken t :=
  List.filter_append s t

/-- The blanks in front may be dropped before tabs and line ends are taken out or after that. -/
theorem dropWhile_unbroken (s : Text) :
    s.unbroken.dropWhile isEdgeBlank = unbroken (s.dropWhile isEdgeBlank) := by
  induction s with
  | nil => rfl
  | cons c s ih =>
    rcases Bool.eq_false_or_eq_true (isEdgeBlank c) with hblank | hblank
    · rw [List.dropWhile_cons_of_pos hblank, ← ih]
      rcases Bool.eq_false_or_eq_true (isTabOrLineEnd c) with hbreak | hbreak
      · rw [unbroken_cons_of_break hbreak]
      · rw [unbroken_cons hbreak, List.dropWhile_cons_of_pos hblank]
    · have hstop : ¬ isEdgeBlank c = true := Bool.eq_false_iff.1 hblank
      rw [List.dropWhile_cons_of_neg hstop, unbroken_cons (isTabOrLineEnd_eq_false hblank),
        List.dropWhile_cons_of_neg hstop]

theorem reverse_unbroken (s : Text) : s.unbroken.reverse = unbroken s.reverse :=
  List.filter_reverse.symm

/-- Tabs and line ends may be taken out before the ends are trimmed. -/
theorem trim_unbroken (s : Text) : s.unbroken.trim = s.clean := by
  rw [trim, dropWhile_unbroken, reverse_unbroken, dropWhile_unbroken, reverse_unbroken]
  rfl

/-! ### Padding -/

/-- The second text is the first with one more character that does not count: a tab or line end
anywhere, a blank at either end. -/
inductive Padded : Text → Text → Prop where
  | inside (front back : Text) {c : Char} (isBreak : isTabOrLineEnd c = true) :
      Padded (front ++ back) (front ++ c :: back)
  | before (s : Text) {c : Char} (isBlank : isEdgeBlank c = true) : Padded s (c :: s)
  | behind (s : Text) {c : Char} (isBlank : isEdgeBlank c = true) : Padded s (s ++ [c])

/-- Blanks behind do not count, as those in front. -/
theorem clean_concat_of_blank {c : Char} (h : isEdgeBlank c = true) (s : Text) :
    clean (s ++ [c]) = clean s := by
  rw [clean_eq, clean_eq, List.dropWhile_append]
  split
  · next hs => rw [List.isEmpty_iff.1 hs, List.dropWhile_cons_of_pos h, List.dropWhile_nil]
  · rw [cleanEnd, List.rdropWhile_concat_pos _ _ _ h, cleanEnd]

/-- One more character that does not count leaves the cleaned text as it is. -/
theorem Padded.clean_eq {s t : Text} (h : Padded s t) : t.clean = s.clean := by
  cases h with
  | inside front back hbreak =>
    rw [← trim_unbroken, ← trim_unbroken, unbroken_append, unbroken_cons_of_break hbreak,
      unbroken_append]
  | @before s c hblank => exact @clean_append_of_blank [c] (by simpa using hblank) s
  | behind s hblank => exact clean_concat_of_blank hblank s

/-- So do any number of them, put in one after the other. -/
theorem clean_eq_of_padded {s t : Text} (h : Relation.ReflTransGen Padded s t) :
    t.clean = s.clean := by
  induction h with
  | refl => rfl
  | tail _ hlast ih => rw [hlast.clean_eq, ih]

/-! ### What cleaning takes away -/

theorem padded_append_front (s : Text) {front : Text} (h : ∀ c ∈ front, isEdgeBlank c = true) :
    Relation.ReflTransGen Padded s (front ++ s) := by
  induction front with
  | nil => exact .refl
  | cons c front ih =>
    obtain ⟨hc, hfront⟩ := List.forall_mem_cons.1 h
    exact (ih hfront).tail (.before _ hc)

theorem padded_append_back (s : Text) {back : Text} (h : ∀ c ∈ back, isEdgeBlank c = true) :
    Relation.ReflTransGen Padded s (s ++ back) := by
  induction back using List.reverseRecOn with
  | nil => rw [List.append_nil]
  | append_singleton back c ih =>
    obtain ⟨hback, hc⟩ := List.forall_mem_append.1 h
    rw [← List.append_assoc]
    exact (ih hback).tail (.behind _ (by simpa using hc))

theorem padded_trim (s : Text) : Relation.ReflTransGen Padded s.trim s := by
  have hback := @padded_append_back s.trim ((s.dropWhile isEdgeBlank).rtakeWhile isEdgeBlank)
    fun c hc => List.mem_rtakeWhile_imp hc
  have hfront := @padded_append_front (s.dropWhile isEdgeBlank) (s.takeWhile isEdgeBlank)
    fun c hc => List.mem_takeWhile_imp hc
  have htrim : s.trim = (s.dropWhile isEdgeBlank).rdropWhile isEdgeBlank := rfl
  rw [htrim, List.rdropWhile_append_rtakeWhile] at hback
  rw [List.takeWhile_append_dropWhile] at hfront
  exact htrim ▸ hback.trans hfront

theorem padded_unbroken (s front : Text) :
    Relation.ReflTransGen Padded (front ++ s.unbroken) (front ++ s) := by
  induction s generalizing front with
  | nil => exact .refl
  | cons c s ih =>
    rcases Bool.eq_false_or_eq_true (isTabOrLineEnd c) with hbreak | hbreak
    · rw [unbroken_cons_of_break hbreak]
      exact (ih front).tail (.inside front s hbreak)
    · rw [unbroken_cons hbreak, List.append_cons, List.append_cons front c s]
      exact ih (front ++ [c])

/-- Cleaning takes away characters that do not count and nothing else. -/
theorem padded_clean (s : Text) : Relation.ReflTransGen Padded s.clean s := by
  rw [← trim_unbroken]
  exact (padded_trim s.unbroken).trans (padded_unbroken s [])

/-- Two texts are cleaned to the same exactly when both come from one text by such characters. -/
theorem clean_eq_clean_iff {s t : Text} : s.clean = t.clean ↔
    ∃ core, Relation.ReflTransGen Padded core s ∧ Relation.ReflTransGen Padded core t := by
  constructor
  · intro h
    exact ⟨s.clean, padded_clean s, h ▸ padded_clean t⟩
  · rintro ⟨core, hs, ht⟩
    rw [clean_eq_of_padded hs, clean_eq_of_padded ht]

end Text

namespace Url

theorem parse_clean (s : Text) : parse s.clean = parse s := by
  simp only [parse, Text.clean_clean]

/-- What is read depends only on the cleaned text. -/
theorem parse_congr {s t : Text} (h : s.clean = t.clean) : parse s = parse t := by
  rw [← parse_clean s, h, parse_clean]

/-- Texts that are the same without tabs and line ends and then without the blanks at their ends are
read as the same address, or with the same fault. So no tab or line end anywhere and no blank at
either end makes a difference, however many there are. -/
theorem parse_eq_of_trim_unbroken :
    (∀ s t : Text, s.unbroken.trim = t.unbroken.trim → parse s = parse t) ∧
      ∀ s t : Text, Relation.ReflTransGen Text.Padded s t → parse t = parse s := by
  constructor
  · intro s t h
    rw [Text.trim_unbroken, Text.trim_unbroken] at h
    exact parse_congr h
  · intro s t h
    exact parse_congr (Text.clean_eq_of_padded h)

/-- A line end splits the `//` in front of a host, and a blank stands before the tab at the end. A
tab among the digits of a port does not hide what is no digit. -/
theorem parse_eq_of_trim_unbroken_tabs :
    parse "/\n/a\t/b \t".toList = parse " //a/b".toList ∧
      parse "//a:9\tx".toList = .error .port := by
  have hport : parse "//a:9x".toList = .error .port := by rfl
  refine ⟨parse_eq_of_trim_unbroken.1 _ _ (by decide), ?_⟩
  rw [parse_eq_of_trim_unbroken.2 "//a:9x".toList "//a:9\tx".toList
    (.single (.inside "//a:9".toList ['x'] (by decide))), hport]

end Url

end Hyperlink
