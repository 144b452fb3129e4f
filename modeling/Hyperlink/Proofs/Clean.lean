import Mathlib.Data.List.DropRight
import Hyperlink.Text

/-!
Cutting and cleaning of joined texts.

A cut passes over a start without the separator (`cut_append_of_not_mem`). A clean text is one that
cleaning leaves alone (`clean_eq_self_iff`); cleaning makes every text clean (`isClean_clean`), and
what stands behind a clean text cannot reach into it (`clean_append`). A text may be cleaned at its
end first and then at its start (`clean_cleanEnd`).
-/

namespace Hyperlink.Text

/-! ### Cutting -/

theorem cut_append_of_not_mem {c : Char} {a : Text} (b : Text) (h : c ∉ a) :
    cut c (a ++ b) = (a ++ (cut c b).1, (cut c b).2) := by
  induction a with
  | nil => rfl
  | cons x a ih =>
    obtain ⟨hx, ha⟩ := not_or.1 (mt List.mem_cons.2 h)
    rw [List.cons_append, cut, if_neg (Ne.symm hx), ih ha]
    rfl

/-- A separator and what stands behind it, if anything does. -/
def behind (c : Char) (rest : Option Text) : Text := (rest.map (c :: ·)).getD []

@[simp] theorem behind_none (c : Char) : behind c none = [] := rfl

@[simp] theorem behind_some (c : Char) (s : Text) : behind c (some s) = c :: s := rfl

theorem cut_cons_self (c : Char) (s : Text) : cut c (c :: s) = ([], some s) := by simp [cut]

theorem cut_append_behind {c : Char} {a : Text} (h : c ∉ a) (rest : Option Text) :
    cut c (a ++ behind c rest) = (a, rest) := by
  rw [cut_append_of_not_mem _ h]
  cases rest with
  | none => simp [cut]
  | some s => simp [cut_cons_self]

theorem cutLast?_of_not_mem {c : Char} {s : Text} (h : c ∉ s) : cutLast? c s = none := by
  induction s with
  | nil => rfl
  | cons x s ih =>
    obtain ⟨hx, hs⟩ := not_or.1 (mt List.mem_cons.2 h)
    rw [cutLast?, ih hs]
    exact if_neg (Ne.symm hx)

theorem cutLast?_eq_none_iff {c : Char} {s : Text} : cutLast? c s = none ↔ c ∉ s := by
  refine ⟨fun h => ?_, cutLast?_of_not_mem⟩
  induction s with
  | nil => simp
  | cons x s ih =>
    rw [cutLast?] at h
    cases hs : cutLast? c s with
    | some ab => simp [hs] at h
    | none =>
      have hx : x ≠ c := by simpa [hs] using h
      exact mt List.mem_cons.1 (not_or.2 ⟨hx.symm, ih hs⟩)

/-- The last separator is the one that no other follows. -/
theorem cutLast?_append {c : Char} {b : Text} (hb : c ∉ b) (a : Text) :
    cutLast? c (a ++ c :: b) = some (a, b) := by
  induction a with
  | nil =>
    rw [List.nil_append, cutLast?, cutLast?_of_not_mem hb]
    exact if_pos rfl
  | cons x a ih => rw [List.cons_append, cutLast?, ih]

theorem eq_of_cutLast? {c : Char} : ∀ {s a b : Text}, cutLast? c s = some (a, b) → s = a ++ c :: b
  | [], _, _, h => by simp [cutLast?] at h
  | x :: s, a, b, h => by
    rw [cutLast?] at h
    cases hs : cutLast? c s with
    | some ab =>
      rw [hs] at h
      obtain ⟨rfl, rfl⟩ := Prod.mk.inj (Option.some.inj h)
      rw [eq_of_cutLast? hs, List.cons_append]
    | none =>
      simp only [hs, Option.ite_none_right_eq_some, Option.some.injEq, Prod.mk.injEq] at h
      obtain ⟨rfl, rfl, rfl⟩ := h
      rfl

theorem not_mem_of_cutLast? {c : Char} : ∀ {s a b : Text}, cutLast? c s = some (a, b) → c ∉ b
  | [], _, _, h => by simp [cutLast?] at h
  | x :: s, a, b, h => by
    rw [cutLast?] at h
    cases hs : cutLast? c s with
    | some ab =>
      rw [hs] at h
      obtain ⟨rfl, rfl⟩ := Prod.mk.inj (Option.some.inj h)
      exact not_mem_of_cutLast? hs
    | none =>
      simp only [hs, Option.ite_none_right_eq_some, Option.some.injEq, Prod.mk.injEq] at h
      obtain ⟨-, -, rfl⟩ := h
      exact cutLast?_eq_none_iff.1 hs

/-- Behind what has been cut off there stands nothing, the separator or something else. -/
theorem eq_behind_or (c : Char) : ∀ s : Text,
    (∃ rest, s = behind c rest) ∨ ∃ x rest, x ≠ c ∧ s = x :: rest
  | [] => Or.inl ⟨none, rfl⟩
  | x :: rest => by
    by_cases h : x = c
    · exact Or.inl ⟨some rest, by rw [h, behind_some]⟩
    · exact Or.inr ⟨x, rest, h, rfl⟩

/-! ### Clean texts -/

/-- A text that cleaning leaves alone. -/
structure IsClean (s : Text) : Prop where
  head : ∀ c ∈ s.head?, isEdgeBlank c = false
  last : ∀ c ∈ s.getLast?, isEdgeBlank c = false
  inner : ∀ c ∈ s, isTabOrLineEnd c = false

/-- The text cleaned at its end only. -/
def cleanEnd (s : Text) : Text := (s.rdropWhile isEdgeBlank).filter fun c => !isTabOrLineEnd c

theorem clean_eq (s : Text) : clean s = cleanEnd (s.dropWhile isEdgeBlank) := rfl

theorem isEdgeBlank_iff {c : Char} : isEdgeBlank c = true ↔ c.toNat ≤ 32 := by
  rw [isEdgeBlank, decide_eq_true_iff, Char.le_def, UInt32.le_iff_toNat_le]
  rfl

/-- A tab or line end is a blank, so what cleaning takes out of the middle is no end. -/
theorem isTabOrLineEnd_eq_false {c : Char} (h : isEdgeBlank c = false) :
    isTabOrLineEnd c = false := by
  by_contra hc
  simp only [isTabOrLineEnd, Bool.not_eq_false, Bool.or_eq_true, beq_iff_eq] at hc
  rcases hc with (rfl | rfl) | rfl <;> revert h <;> decide

theorem dropWhile_of_head {s : Text} (h : ∀ c ∈ s.head?, isEdgeBlank c = false) :
    s.dropWhile isEdgeBlank = s := by
  cases s with
  | nil => rfl
  | cons c s => rw [List.dropWhile_cons_of_neg (by simpa using h c rfl)]

theorem rdropWhile_of_last {s : Text} (h : ∀ c ∈ s.getLast?, isEdgeBlank c = false) :
    s.rdropWhile isEdgeBlank = s := by
  rw [List.rdropWhile_eq_self_iff]
  intro hs
  simpa using h _ (List.getLast?_eq_some_getLast hs)

theorem cleanEnd_eq_self {s : Text} (hlast : ∀ c ∈ s.getLast?, isEdgeBlank c = false)
    (hinner : ∀ c ∈ s, isTabOrLineEnd c = false) : cleanEnd s = s := by
  rw [cleanEnd, rdropWhile_of_last hlast]
  exact List.filter_eq_self.2 fun c hc => by simp [hinner c hc]

theorem clean_eq_self {s : Text} (h : IsClean s) : clean s = s := by
  rw [clean_eq, dropWhile_of_head h.head, cleanEnd_eq_self h.last h.inner]

/-- Nothing behind a text that ends in no blank makes cleaning reach into it. -/
theorem cleanEnd_append {a : Text} (hlast : ∀ c ∈ a.getLast?, isEdgeBlank c = false)
    (hinner : ∀ c ∈ a, isTabOrLineEnd c = false) (b : Text) :
    cleanEnd (a ++ b) = a ++ cleanEnd b := by
  have hdrop : (a ++ b).rdropWhile isEdgeBlank = a ++ b.rdropWhile isEdgeBlank := by
    have ha := congrArg List.reverse (rdropWhile_of_last hlast)
    rw [List.rdropWhile, List.reverse_reverse] at ha
    rw [List.rdropWhile, List.reverse_append, List.dropWhile_append]
    split
    · next hb =>
      rw [ha, List.reverse_reverse, List.rdropWhile, List.isEmpty_iff.1 hb, List.reverse_nil,
        List.append_nil]
    · rw [List.reverse_append, List.reverse_reverse, List.rdropWhile]
  rw [cleanEnd, hdrop, List.filter_append, List.filter_eq_self.2 fun c hc => by simp [hinner c hc]]
  rfl

theorem isClean_of_forall {s : Text} (h : ∀ c ∈ s, isEdgeBlank c = false) : IsClean s :=
  ⟨fun c hc => h c (List.mem_of_mem_head? hc), fun c hc => h c (List.mem_of_getLast? hc),
    fun c hc => isTabOrLineEnd_eq_false (h c hc)⟩

theorem clean_append {a : Text} (ha : IsClean a) (hne : a ≠ []) (b : Text) :
    clean (a ++ b) = a ++ cleanEnd b := by
  rw [clean_eq, dropWhile_of_head, cleanEnd_append ha.last ha.inner]
  rw [List.head?_append_of_ne_nil _ hne]
  exact ha.head

theorem cleanEnd_cons {c : Char} (h : isEdgeBlank c = false) (s : Text) :
    cleanEnd (c :: s) = c :: cleanEnd s :=
  cleanEnd_append (a := [c]) (by simpa using h)
    (by simpa using isTabOrLineEnd_eq_false h) s

theorem clean_cons {c : Char} (h : isEdgeBlank c = false) (s : Text) :
    clean (c :: s) = c :: cleanEnd s := by
  rw [clean_eq, dropWhile_of_head (by simpa using h), cleanEnd_cons h]

/-- A clean text stays so when only its end is cleaned: the last character that is no blank is
neither trimmed nor taken out. -/
theorem isClean_cleanEnd {s : Text} (hs : ∀ c ∈ s.head?, isEdgeBlank c = false) :
    IsClean (cleanEnd s) := by
  refine ⟨?_, ?_, ?_⟩
  · cases s with
    | nil => simp [cleanEnd]
    | cons c s =>
      have hc : isEdgeBlank c = false := hs c rfl
      rw [cleanEnd_cons hc]
      simpa using hc
  · obtain h | ⟨t, c, h⟩ := List.eq_nil_or_concat (s.rdropWhile isEdgeBlank)
    · simp [cleanEnd, h]
    · have hne : s.rdropWhile isEdgeBlank ≠ [] := by simp [h]
      have hc := List.rdropWhile_last_not isEdgeBlank s hne
      simp only [h, List.concat_eq_append, List.getLast_append_singleton,
        Bool.not_eq_true] at hc
      have hfilter : [c].filter (fun c => !isTabOrLineEnd c) = [c] := by
        simp [isTabOrLineEnd_eq_false hc]
      rw [cleanEnd, h, List.concat_eq_append, List.filter_append, hfilter, List.getLast?_concat]
      simpa using hc
  · intro c hc
    simpa using (List.mem_filter.1 hc).2

theorem head?_dropWhile_isEdgeBlank (s : Text) :
    ∀ c ∈ (s.dropWhile isEdgeBlank).head?, isEdgeBlank c = false := by
  intro c hc
  have h := List.head?_dropWhile_not isEdgeBlank s
  rw [Option.mem_def.1 hc] at h
  simpa using h

theorem isClean_clean (s : Text) : IsClean (clean s) := by
  rw [clean_eq]
  exact isClean_cleanEnd (head?_dropWhile_isEdgeBlank s)

theorem clean_eq_self_iff {s : Text} : clean s = s ↔ IsClean s :=
  ⟨fun h => h ▸ isClean_clean s, clean_eq_self⟩

theorem clean_clean (s : Text) : clean (clean s) = clean s := clean_eq_self (isClean_clean s)

/-! ### Cleaning in parts -/

/-- Blanks in front do not count. -/
theorem clean_append_of_blank {mark : Text} (h : ∀ c ∈ mark, isEdgeBlank c = true) (s : Text) :
    clean (mark ++ s) = clean s := by
  rw [clean_eq, List.dropWhile_append_of_pos h, clean_eq]

/-- Cleaning the end leaves a character in front of the text, or takes it out. -/
theorem exists_cleanEnd_cons (c : Char) (s : Text) :
    ∃ mark, (∀ d ∈ mark, d = c) ∧ cleanEnd (c :: s) = mark ++ cleanEnd s := by
  have hcons : (c :: s).rdropWhile isEdgeBlank = [] ∧ s.rdropWhile isEdgeBlank = [] ∨
      (c :: s).rdropWhile isEdgeBlank = c :: s.rdropWhile isEdgeBlank := by
    rw [List.rdropWhile, List.reverse_cons, List.dropWhile_append]
    split
    · next hs =>
      have hnil : s.rdropWhile isEdgeBlank = [] := by
        rw [List.rdropWhile, List.isEmpty_iff.1 hs, List.reverse_nil]
      by_cases hc : isEdgeBlank c = true <;> simp [hc, hnil]
    · exact Or.inr (by rw [List.reverse_concat, List.rdropWhile])
  unfold cleanEnd
  rcases hcons with ⟨hall, hs⟩ | hcons
  · exact ⟨[], by simp, by rw [hall, hs]; rfl⟩
  · refine ⟨[c].filter fun d => !isTabOrLineEnd d, fun d hd => ?_, ?_⟩
    · exact List.mem_singleton.1 (List.mem_filter.1 hd).1
    · rw [hcons, ← List.filter_append, List.singleton_append]

/-- What has been cleaned at its end has only its start left to clean. -/
theorem clean_cleanEnd (s : Text) : clean (cleanEnd s) = clean s := by
  induction s with
  | nil => rfl
  | cons c s ih =>
    rcases Bool.eq_false_or_eq_true (isEdgeBlank c) with hc | hc
    · -- a blank in front is skipped on both sides
      obtain ⟨mark, hmark, he⟩ := exists_cleanEnd_cons c s
      have hskip : clean (c :: s) = clean s := @clean_append_of_blank [c] (by simpa using hc) s
      rw [he, clean_append_of_blank (fun d hd => hmark d hd ▸ hc), ih, hskip]
    · rw [clean_cons hc, cleanEnd_cons hc, ← clean_cons hc, clean_clean]

/-- What a clean text ends with is clean, unless a blank comes to the front. -/
theorem IsClean.of_append {front s : Text} (h : IsClean (front ++ s))
    (hs : ∀ c ∈ s.head?, isEdgeBlank c = false) : IsClean s where
  head := hs
  last c hc := h.last c (by rw [List.getLast?_append, Option.mem_def.1 hc]; rfl)
  inner c hc := h.inner c (List.mem_append_right front hc)

/-- From what a clean text ends with, cleaning takes the blanks in front and nothing else. -/
theorem IsClean.exists_eq_append_clean {front s : Text} (h : IsClean (front ++ s)) :
    ∃ mark, (∀ c ∈ mark, isEdgeBlank c = true) ∧ s = mark ++ s.clean := by
  have hsplit : s.takeWhile isEdgeBlank ++ s.dropWhile isEdgeBlank = s :=
    List.takeWhile_append_dropWhile
  have hrest : IsClean (s.dropWhile isEdgeBlank) := by
    rw [← hsplit, ← List.append_assoc] at h
    exact h.of_append (head?_dropWhile_isEdgeBlank s)
  have hclean : s.clean = s.dropWhile isEdgeBlank :=
    (clean_eq s).trans (cleanEnd_eq_self hrest.last hrest.inner)
  exact ⟨_, fun c hc => List.mem_takeWhile_imp hc, by rw [hclean, hsplit]⟩

/-! ### What cleaning leaves -/

/-- Without tabs and line ends, cleaning the end only cuts it off. -/
theorem cleanEnd_prefix {s : Text} (h : ∀ c ∈ s, isTabOrLineEnd c = false) : cleanEnd s <+: s := by
  have hkept : ∀ c ∈ s.rdropWhile isEdgeBlank, (!isTabOrLineEnd c) = true := fun c hc => by
    simp [h c ((List.rdropWhile_prefix _ _).subset hc)]
  rw [cleanEnd, List.filter_eq_self.2 hkept]
  exact List.rdropWhile_prefix _ _

theorem cleanEnd_sublist (s : Text) : (cleanEnd s).Sublist s :=
  List.filter_sublist.trans (List.rdropWhile_prefix _ _).sublist

theorem clean_sublist (s : Text) : (clean s).Sublist s := by
  rw [clean_eq]
  exact (cleanEnd_sublist _).trans (List.dropWhile_sublist _)

end Hyperlink.Text
