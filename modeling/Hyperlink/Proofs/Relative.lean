import Hyperlink.Page
import Hyperlink.Proofs.DotSegments
import Hyperlink.Proofs.Settled
import Hyperlink.Proofs.Stripped

/-!
Relative references as lists of segments.

`Path.relative` writes a text; `Path.reference` lists the segments of that text. Walked from the
directory of the base, they lead to the target (`walk_reference`), and the text of a reference with
query and fragment behind it is read back as them (`parse_relative`).
-/

namespace Hyperlink

namespace Path

/-- A target path, where the root of the application is the directory at that place. -/
def orDirectory (p : Path) : Path := if p = [] then [[]] else p

/-- A `..` at the end is closed by an empty segment. -/
def closing (last : Text) : Path := if last = up then [[]] else []

/-- The segments of the reference from one path to another. -/
def reference (base target : Path) : Path :=
  let (above, below) := diverge base.dropLast target.dropLast
  let last := target.getLastD []
  if base ≠ [] ∧ above = [] ∧ below = [] ∧ last = [] then [here]
  else (if above = [] then [here] else above.map fun _ => up) ++ below ++ last :: closing last

/-! ### Two paths and what they share -/

theorem diverge_eq : ∀ a b : Path, ∃ shared, a = shared ++ (diverge a b).1 ∧
    b = shared ++ (diverge a b).2
  | [], b => ⟨[], rfl, rfl⟩
  | s :: a, [] => ⟨[], rfl, rfl⟩
  | s :: a, t :: b => by
    by_cases h : s = t
    · subst h
      obtain ⟨shared, ha, hb⟩ := diverge_eq a b
      rw [diverge, if_pos rfl]
      exact ⟨s :: shared, congrArg (s :: ·) ha, congrArg (s :: ·) hb⟩
    · rw [diverge, if_neg h]
      exact ⟨[], rfl, rfl⟩

/-- A path with a root marker shares nothing with one that has none, or nothing behind it. -/
theorem diverge_rooted (base : Path) {target : Path} (h : ∀ t, t ≠ [] → target ≠ [] :: t) :
    diverge ([] :: base) target.dropLast = ([] :: base, target.dropLast) := by
  cases target with
  | nil => rfl
  | cons s target =>
    cases target with
    | nil => rfl
    | cons t target =>
      have hs : s ≠ [] := by
        rintro rfl
        exact h (t :: target) (List.cons_ne_nil t target) rfl
      rw [List.dropLast_cons_of_ne_nil (List.cons_ne_nil t target), diverge, if_neg hs.symm]

theorem orDirectory_eq (p : Path) : orDirectory p = p.dropLast ++ [p.getLastD []] := by
  obtain rfl | ⟨q, s, rfl⟩ := List.eq_nil_or_concat p
  · rfl
  · simp [orDirectory]

theorem orDirectory_ne_nil (p : Path) : p.orDirectory ≠ [] := by
  rw [orDirectory_eq]
  simp

theorem mem_orDirectory {s : Text} {p : Path} (h : s ∈ p.orDirectory) : s ∈ p ∨ s = [] := by
  unfold orDirectory at h
  split at h
  · exact Or.inr (by simpa using h)
  · exact Or.inl h

theorem slash_not_mem_getLastD {p : Path} (h : ∀ s ∈ p, '/' ∉ s) : '/' ∉ p.getLastD [] := by
  have hmem : p.getLastD [] ∈ p.orDirectory := by simp [orDirectory_eq]
  rcases mem_orDirectory hmem with hs | hs
  · exact h _ hs
  · rw [hs]
    simp

/-! ### The text of a reference -/

theorem flatMap_slash_toText {q : Path} (hq : q ≠ []) (p : Path) :
    p.flatMap (· ++ ['/']) ++ toText q = toText (p ++ q) := by
  induction p with
  | nil => rfl
  | cons s p ih =>
    rw [List.flatMap_cons, List.append_assoc, ih, List.cons_append, toText_cons,
      slashed_eq_cons (List.append_ne_nil_of_right_ne_nil p hq), List.append_assoc]
    rfl

theorem flatMap_slash (p : Path) (last : Text) :
    p.flatMap (· ++ ['/']) ++ last = toText (p ++ [last]) := by
  have htext := flatMap_slash_toText (List.cons_ne_nil last []) p
  rwa [toText_cons, slashed_nil, List.append_nil] at htext

/-- Only a `..` in the last place makes a text end in `/..`. -/
theorem closeUp_toText {p : Path} {last : Text} (hp : p ≠ []) (hlast : '/' ∉ last) :
    closeUp (toText (p ++ [last])) = toText (p ++ last :: closing last) := by
  have htext : toText (p ++ [last]) = toText p ++ '/' :: last := by
    rw [toText_append hp, slashed_cons, slashed_nil, List.append_nil]
  have hne : toText (p ++ [last]) ≠ up := by
    intro h
    have hslash : '/' ∈ toText (p ++ [last]) := by simp [htext]
    rw [h] at hslash
    exact absurd hslash (by decide)
  have hsuffix : ['/', '.', '.'] <:+ toText (p ++ [last]) ↔ last = up := by
    constructor
    · rintro ⟨front, h⟩
      have hcut := Text.cutLast?_append hlast (toText p)
      rw [← htext, ← h] at hcut
      have hup : '/' ∉ up := by decide
      rw [show ['/', '.', '.'] = '/' :: up from rfl, Text.cutLast?_append hup front] at hcut
      exact (Prod.mk.inj (Option.some.inj hcut)).2.symm
    · rintro rfl
      exact ⟨toText p, htext.symm⟩
  unfold closeUp closing
  by_cases h : last = up
  · have hclose := toText_append (List.append_ne_nil_of_left_ne_nil hp [last]) [[]]
    rw [if_pos (Or.inr (hsuffix.2 h)), if_pos h, List.append_cons p last [[]], hclose]
    rfl
  · rw [if_neg (not_or.2 ⟨hne, mt hsuffix.1 h⟩), if_neg h]

/-- The reference as it is written is the text of its segments. -/
theorem relative_eq_toText {base target : Path} (hlast : '/' ∉ target.getLastD []) :
    relative base target = toText (reference base target) := by
  have hnil : base = [] → (diverge base.dropLast target.dropLast).1 = [] := by
    rintro rfl
    rfl
  unfold relative reference
  generalize diverge base.dropLast target.dropLast = parts at hnil ⊢
  obtain ⟨above, below⟩ := parts
  generalize target.getLastD [] = last at hlast ⊢
  dsimp only at hnil ⊢
  have hclimb (climb : Path) (hne : climb ≠ []) :
      closeUp (climb.flatMap (· ++ ['/']) ++ (below.flatMap (· ++ ['/']) ++ last)) =
        toText (climb ++ below ++ last :: closing last) := by
    rw [← List.append_assoc, ← List.flatMap_append, flatMap_slash,
      closeUp_toText (List.append_ne_nil_of_left_ne_nil hne below) hlast]
  by_cases hb : base = []
  · rw [if_pos hb, if_neg (by simp [hb]), if_pos (hnil hb)]
    exact hclimb [here] (by simp)
  · rw [if_neg hb]
    by_cases ha : above = []
    · have hrest : below.flatMap (· ++ ['/']) ++ last = [] ↔ below = [] ∧ last = [] := by
        cases below <;> simp
      rw [if_pos ha]
      simp only [hrest, ha, hb, ne_eq, not_false_eq_true, true_and, if_true]
      split
      · rfl
      · exact hclimb [here] (by simp)
    · rw [if_neg ha, if_neg (by simp [ha]), if_neg ha, ← hclimb _ (by simpa using ha),
        List.flatMap_map]
      rfl

/-- A reference starts with a dot segment; behind it stand climbs and segments of the target. -/
theorem exists_reference (base target : Path) : ∃ dots rest, (dots = here ∨ dots = up) ∧
    reference base target = dots :: rest ∧ (∀ s ∈ rest, s = up ∨ s = [] ∨ s ∈ target) ∧
    ∀ s ∈ rest.getLast?, s = [] ∨ s ∈ target.getLast? := by
  obtain ⟨shared, -, hb⟩ := diverge_eq base.dropLast target.dropLast
  unfold reference
  generalize diverge base.dropLast target.dropLast = parts at hb ⊢
  obtain ⟨above, below⟩ := parts
  dsimp only at hb ⊢
  have hbelow : ∀ s ∈ below, s ∈ target := fun s hs =>
    List.dropLast_subset target (hb ▸ List.mem_append_right shared hs)
  have hlast : target.getLastD [] = [] ∨ target.getLastD [] ∈ target.getLast? := by
    rw [List.getLastD_eq_getLast?]
    cases target.getLast? <;> simp
  generalize target.getLastD [] = last at hlast ⊢
  split
  · exact ⟨here, [], Or.inl rfl, rfl, by simp, by simp⟩
  · obtain ⟨dots, climbs, hdots, he, hup⟩ : ∃ dots climbs, (dots = here ∨ dots = up) ∧
        (if above = [] then [here] else above.map fun _ => up) = dots :: climbs ∧
        ∀ s ∈ climbs, s = up := by
      cases above with
      | nil => exact ⟨here, [], Or.inl rfl, rfl, by simp⟩
      | cons s above => exact ⟨up, above.map fun _ => up, Or.inr rfl, by simp, by simp⟩
    refine ⟨dots, climbs ++ below ++ last :: closing last, hdots, by rw [he]; simp, ?_, ?_⟩
    · intro s hs
      simp only [List.mem_append, List.mem_cons] at hs
      rcases hs with (hs | hs) | rfl | hs
      · exact Or.inl (hup s hs)
      · exact Or.inr (Or.inr (hbelow s hs))
      · exact Or.inr (hlast.imp_right List.mem_of_getLast?)
      · unfold closing at hs
        split at hs <;> simp_all
    · intro s hs
      unfold closing at hs
      split at hs
      · exact Or.inl (by simpa using hs.symm)
      · obtain rfl : last = s := by simpa using hs
        exact hlast

/-! ### Walking a reference -/

theorem walk_closing (entered : Path) (last : Text) :
    walk entered (last :: closing last) = walk entered [last] := by
  unfold closing
  split
  · next h => rw [h]; rfl
  · rfl

/-- From the directory of the base, a reference leads to the target. -/
theorem walk_reference {base : Path} (hdot : DotFree base.dropLast) (target entered : Path) :
    walk (base.dropLast.reverse ++ entered) (reference base target) =
      walk entered (orDirectory target) := by
  obtain ⟨shared, ha, hb⟩ := diverge_eq base.dropLast target.dropLast
  rw [orDirectory_eq]
  unfold reference
  generalize diverge base.dropLast target.dropLast = parts at ha hb ⊢
  obtain ⟨above, below⟩ := parts
  dsimp only at ha hb ⊢
  have hshared : DotFree shared := (dotFree_append.1 (ha ▸ hdot)).1
  rw [hb, walk_append (by simp), List.foldl_append, foldl_enter_dotFree hshared, ha]
  split
  · next h =>
    obtain ⟨-, rfl, rfl, hlast⟩ := h
    rw [hlast, List.append_nil]
    rfl
  · have hclimb : (if above = [] then [here] else above.map fun _ => up).foldl enter
        ((shared ++ above).reverse ++ entered) = shared.reverse ++ entered := by
      split
      · next h => simp [h]
      · rw [List.map_const', List.reverse_append, List.append_assoc, foldl_enter_climb]
    rw [walk_append (by simp), List.foldl_append, hclimb, walk_closing]

/-! ### References as texts -/

theorem ofText_dots_slashed {dots : Text} {rest : Path} (hdots : dots = here ∨ dots = up)
    (hrest : ∀ s ∈ rest, '/' ∉ s) : ofText (dots ++ slashed rest) = dots :: rest := by
  rw [← toText_cons, ofText_toText]
  · refine ⟨List.cons_ne_nil _ _, ?_⟩
    rcases hdots with rfl | rfl <;> simp [here, up]
  · intro s hs
    rcases List.mem_cons.1 hs with rfl | hs
    · rcases hdots with rfl | rfl <;> decide
    · exact hrest s hs

section Read

variable {path : Path}

/-- The reference to a path an address ends with: a dot segment, and behind it segments of the
address. -/
theorem exists_relative {input : Text} {target : Url} (h : Url.parse input = .ok target)
    (hpath : path <:+ target.segments) (base : Path) :
    ∃ dots rest, (dots = here ∨ dots = up) ∧ reference base path = dots :: rest ∧
      relative base path = dots ++ slashed rest ∧
      (∀ s ∈ rest, s = up ∨ s = [] ∨ s ∈ target.segments) ∧
      ∀ s ∈ rest.getLast?, s = [] ∨ s ∈ target.segments.getLast? := by
  have hslash : ∀ s ∈ path, '/' ∉ s := fun s hs hc =>
    (Url.ne_of_mem_segments h (hpath.subset hs) hc).1 rfl
  obtain ⟨dots, rest, hdots, he, hrest, hend⟩ := exists_reference base path
  refine ⟨dots, rest, hdots, he, ?_, ?_, ?_⟩
  · rw [relative_eq_toText (slash_not_mem_getLastD hslash), he, toText_cons]
  · exact fun s hs => (hrest s hs).imp_right (Or.imp_right fun hs => hpath.subset hs)
  · intro s hs
    obtain ⟨front, hfront⟩ := hpath
    refine (hend s hs).imp_right fun hs => ?_
    rw [← hfront, List.getLast?_append, Option.mem_def.1 hs]
    rfl

/-- Behind a dot segment, climbs and segments of an address are read back, with the query and the
fragment of the address behind them. -/
theorem parse_dots_slashed {target : Url} (h : Url.parse target.print = .ok target) {dots : Text}
    {rest : Path} (hdots : dots = here ∨ dots = up)
    (hrest : ∀ s ∈ rest, s = up ∨ s = [] ∨ s ∈ target.segments)
    (hlast : ∀ s ∈ rest.getLast?, s = [] ∨ s ∈ target.segments.getLast?) :
    Url.parse (dots ++ slashed rest ++ target.suffix) =
      .ok { segments := dots :: rest, query := target.query, fragment := target.fragment } := by
  have hdotsChars : ∀ c ∈ dots, c = '.' := by
    rcases hdots with rfl | rfl <;> simp [here, up]
  -- the characters behind the first segment
  have hchars : ∀ s ∈ rest, ∀ c ∈ s,
      c ≠ '/' ∧ c ≠ '?' ∧ c ≠ '#' ∧ Text.isTabOrLineEnd c = false := by
    intro s hs c hc
    rcases hrest s hs with rfl | rfl | hs
    · obtain rfl : c = '.' := by simpa [up] using hc
      decide
    · simp at hc
    · exact Url.ne_of_mem_segments h hs hc
  have hslashed : ∀ c ∈ slashed rest, c ≠ '?' ∧ c ≠ '#' :=
    forall_mem_slashed (by decide) fun s hs c hc =>
      have hne := hchars s hs c hc
      ⟨hne.2.1, hne.2.2.1⟩
  have hcleanEnd : Text.cleanEnd (slashed rest ++ target.suffix) = slashed rest ++ target.suffix :=
    Url.cleanEnd_slashed_suffix h (fun s hs c hc => (hchars s hs c hc).2.2.2) hlast
  have hends := Url.endsAuthority_suffix (head?_slashed rest) target
  rw [List.append_assoc, Url.parse_dots_append hdots hends, hcleanEnd, ← List.append_assoc,
    Url.ofTail_suffix h, ofText_dots_slashed hdots fun s hs hc => (hchars s hs _ hc).1 rfl]
  intro c hc
  rcases List.mem_append.1 hc with hc | hc
  · rw [hdotsChars c hc]
    decide
  · exact hslashed c hc

/-- A reference is read back as its segments, with the query and the fragment of the address behind
it. -/
theorem parse_relative {target : Url} (h : Url.parse target.print = .ok target)
    (hpath : path <:+ target.segments) (base : Path) :
    Url.parse (relative base path ++ target.suffix) =
      .ok { segments := reference base path
            query := target.query
            fragment := target.fragment } := by
  obtain ⟨dots, rest, hdots, he, htext, hrest, hlast⟩ := exists_relative h hpath base
  rw [htext, he]
  exact parse_dots_slashed h hdots hrest hlast

end Read

end Path

namespace Page

theorem relativeLink_value {target : Url} (h : target.contextRelative = false) (page : Page) :
    (page.relativeLink target).value =
      Path.relative (page.mount.strip page.base).value (page.mount.strip target).value ++
        target.suffix := by
  rw [← appendSuffix_eq, relativeLink, h]
  rfl

/-- A relative link is a dot segment with nothing, a path or query and fragment behind it. -/
theorem exists_relativeLink {input : Text} {target : Url} (h : Url.parse input = .ok target)
    (page : Page) : ∃ dots rest, (dots = Path.here ∨ dots = Path.up) ∧
      (page.relativeLink target).value = dots ++ (Path.slashed rest ++ target.suffix) := by
  obtain ⟨dots, rest, hdots, -, htext, -, -⟩ :=
    Path.exists_relative h (page.mount.strip_suffix target) (page.mount.strip page.base).value
  refine ⟨dots, rest, hdots, ?_⟩
  rw [relativeLink_value (Url.contextRelative_of_parse h), htext, List.append_assoc]

/-- The link to an address that is read back from its own text is read back too. -/
theorem parse_relativeLink {target : Url} (h : Url.parse target.print = .ok target) (page : Page) :
    Url.parse (page.relativeLink target).value =
      .ok { segments := Path.reference (page.mount.strip page.base).value
              (page.mount.strip target).value
            query := target.query
            fragment := target.fragment } := by
  rw [relativeLink_value (Url.contextRelative_of_parse h)]
  exact Path.parse_relative h (page.mount.strip_suffix target) _

end Page

end Hyperlink
