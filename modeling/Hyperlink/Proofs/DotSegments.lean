import Mathlib.Data.List.DropRight
import Hyperlink.Path

/-!
Dot segments, in lists and in texts.

`Path.normalize` walks down a list of segments. `Text.removeDotSegments` is the algorithm of
RFC 3986, section 5.2.4, on texts: it rewrites the front of what is still to be read and cuts back
what is already written. On paths from the root both come to the same (`removeDotSegments_toText`), and a
path without a root marker is walked like the same path behind one (`normalize_removes_dots`).
-/

namespace Hyperlink

namespace Text

/-- The text without its last segment and the `/` before it. -/
def dropSegment (s : Text) : Text := (s.rdropWhile (· ≠ '/')).dropLast

/-- Moves a path text to the output, one segment after the other, without its dot segments. -/
def removeDots (output : Text) : Text → Text
  | '.' :: '.' :: '/' :: rest => removeDots output rest
  | '.' :: '/' :: rest => removeDots output rest
  | '/' :: '.' :: '/' :: rest => removeDots output ('/' :: rest)
  | ['/', '.'] => removeDots output ['/']
  | '/' :: '.' :: '.' :: '/' :: rest => removeDots (dropSegment output) ('/' :: rest)
  | ['/', '.', '.'] => removeDots (dropSegment output) ['/']
  | ['.'] => output
  | ['.', '.'] => output
  | [] => output
  | c :: rest => removeDots (output ++ c :: rest.takeWhile (· ≠ '/')) (rest.dropWhile (· ≠ '/'))
termination_by input => input.length
decreasing_by
  all_goals simp only [List.length_cons, List.length_nil]
  all_goals first | omega | exact Nat.lt_succ_of_le (List.dropWhile_sublist _).length_le

/-- A path text without its dot segments, as RFC 3986 removes them. -/
def removeDotSegments (s : Text) : Text := removeDots [] s

end Text

namespace Path

/-! ### Walking down a path -/

/-- No segment is a dot segment. -/
def DotFree (p : Path) : Prop := ∀ s ∈ p, s ≠ here ∧ s ≠ up

instance (p : Path) : Decidable (DotFree p) :=
  inferInstanceAs (Decidable (∀ s ∈ p, s ≠ here ∧ s ≠ up))

@[simp] theorem dotFree_nil : DotFree [] := List.forall_mem_nil _

@[simp] theorem dotFree_cons {s : Text} {p : Path} :
    DotFree (s :: p) ↔ (s ≠ here ∧ s ≠ up) ∧ DotFree p := List.forall_mem_cons

@[simp] theorem dotFree_append {p q : Path} : DotFree (p ++ q) ↔ DotFree p ∧ DotFree q :=
  List.forall_mem_append

theorem dotFree_rooted {p : Path} : DotFree ([] :: p) ↔ DotFree p := by simp [here, up]

theorem DotFree.subset {p q : Path} (h : DotFree q) (hsub : p ⊆ q) : DotFree p := fun s hs =>
  h s (hsub hs)

/-- The segments entered, in reverse, after one more segment that is not the last. -/
def enter (entered : Path) (segment : Text) : Path :=
  if segment = here then entered else if segment = up then entered.tail else segment :: entered

theorem enter_of_ne {s : Text} (h : s ≠ here ∧ s ≠ up) (entered : Path) :
    enter entered s = s :: entered := by rw [enter, if_neg h.1, if_neg h.2]

@[simp] theorem enter_here (entered : Path) : enter entered here = entered := if_pos rfl

@[simp] theorem enter_up (entered : Path) : enter entered up = entered.tail := rfl

theorem walk_cons (entered : Path) (s : Text) {rest : Path} (h : rest ≠ []) :
    walk entered (s :: rest) = walk (enter entered s) rest := by
  have hrest : rest.isEmpty = false := by simpa using h
  rcases eq_or_ne s here with rfl | hh
  · rw [walk, if_pos (Or.inl rfl), hrest]; rfl
  · rcases eq_or_ne s up with rfl | hu
    · rw [walk, if_pos (Or.inr rfl), hrest]; rfl
    · rw [walk, if_neg (not_or.2 ⟨hh, hu⟩), enter_of_ne ⟨hh, hu⟩]

/-- Only the last segment is walked differently from the others. -/
theorem walk_append {rest : Path} (h : rest ≠ []) (p entered : Path) :
    walk entered (p ++ rest) = walk (p.foldl enter entered) rest := by
  induction p generalizing entered with
  | nil => rfl
  | cons s p ih =>
    rw [List.cons_append, walk_cons _ _ (by simp [h]), ih]
    rfl

theorem foldl_enter_dotFree {p : Path} (h : DotFree p) (entered : Path) :
    p.foldl enter entered = p.reverse ++ entered := by
  induction p generalizing entered with
  | nil => rfl
  | cons s p ih =>
    obtain ⟨hs, hrest⟩ := dotFree_cons.1 h
    rw [List.foldl_cons, enter_of_ne hs, ih hrest]
    simp

theorem foldl_enter_up (n : Nat) (entered : Path) :
    (List.replicate n up).foldl enter entered = entered.drop n := by
  induction n generalizing entered with
  | zero => rfl
  | succ n ih => rw [List.replicate_succ, List.foldl_cons, enter_up, ih, List.drop_tail]

/-- A `..` for each of some directories leaves them all. -/
theorem foldl_enter_climb (left entered : Path) :
    (List.replicate left.length up).foldl enter (left.reverse ++ entered) = entered := by
  rw [foldl_enter_up, ← @List.length_reverse _ left, List.drop_left]

theorem walk_singleton_here (entered : Path) : walk entered [here] = walk entered [[]] := rfl

theorem walk_singleton_up (entered : Path) : walk entered [up] = walk entered.tail [[]] := rfl

theorem walk_singleton {s : Text} (h : s ≠ here ∧ s ≠ up) (entered : Path) :
    walk entered [s] = entered.reverse ++ [s] := by
  rw [walk, if_neg (not_or.2 h), walk, List.reverse_cons]

@[simp] theorem walk_singleton_nil (entered : Path) : walk entered [[]] = entered.reverse ++ [[]] :=
  walk_singleton (by decide) entered

/-- Without dot segments every segment is entered. -/
theorem walk_of_dotFree {p : Path} (h : DotFree p) (entered : Path) :
    walk entered p = entered.reverse ++ p := by
  obtain rfl | ⟨q, s, rfl⟩ := List.eq_nil_or_concat p
  · simp [walk]
  · rw [List.concat_eq_append] at h ⊢
    obtain ⟨hq, hs⟩ := dotFree_append.1 h
    rw [walk_append (List.cons_ne_nil s []), foldl_enter_dotFree hq,
      walk_singleton (dotFree_cons.1 hs).1]
    simp

theorem mem_walk {s : Text} (p entered : Path) : s ∈ walk entered p →
    s ∈ entered ∨ s ∈ p ∨ s = [] := by
  induction p generalizing entered with
  | nil => exact fun h => Or.inl (by simpa [walk] using h)
  | cons t p ih =>
    intro h
    have hleft : s ∈ (if t = up then entered.tail else entered) → s ∈ entered := by
      split
      · exact List.mem_of_mem_tail
      · exact id
    unfold walk at h
    split at h
    · dsimp only at h
      split at h
      · rw [List.mem_reverse, List.mem_cons] at h
        exact h.elim (fun h => Or.inr (Or.inr h)) fun h => Or.inl (hleft h)
      · exact (ih _ h).imp hleft (Or.imp_left (List.mem_cons_of_mem t))
    · rcases ih _ h with h | h | h
      · rcases List.mem_cons.1 h with rfl | h
        · exact Or.inr (Or.inl List.mem_cons_self)
        · exact Or.inl h
      · exact Or.inr (Or.inl (List.mem_cons_of_mem t h))
      · exact Or.inr (Or.inr h)

theorem slash_not_mem_walk {p : Path} (h : ∀ s ∈ p, '/' ∉ s) : ∀ s ∈ walk [] p, '/' ∉ s := by
  intro s hs
  rcases mem_walk p [] hs with hs | hs | rfl
  · simp at hs
  · exact h s hs
  · simp

/-- The last segment of a walk: a dot segment leaves an empty one behind. -/
theorem exists_walk_singleton (entered : Path) (s : Text) : ∃ kept last,
    walk entered [s] = kept.reverse ++ [last] ∧ kept <:+ entered ∧
      (last = [] ∨ last = s ∧ s ≠ here ∧ s ≠ up) := by
  rcases eq_or_ne s here with rfl | hh
  · exact ⟨entered, [], walk_singleton_nil entered, List.suffix_refl _, Or.inl rfl⟩
  · rcases eq_or_ne s up with rfl | hu
    · exact ⟨entered.tail, [], walk_singleton_nil entered.tail, List.tail_suffix _, Or.inl rfl⟩
    · exact ⟨entered, s, walk_singleton ⟨hh, hu⟩ entered, List.suffix_refl _,
        Or.inr ⟨rfl, hh, hu⟩⟩

theorem walk_ne_nil {p : Path} (h : p ≠ []) (entered : Path) : walk entered p ≠ [] := by
  obtain ⟨q, s, rfl⟩ := (List.eq_nil_or_concat p).resolve_left h
  obtain ⟨kept, last, hwalk, -, -⟩ := exists_walk_singleton (q.foldl enter entered) s
  rw [List.concat_eq_append, walk_append (List.cons_ne_nil s []), hwalk]
  simp

theorem getLast?_walk {s : Text} {p : Path} (hp : p ≠ []) {entered : Path}
    (h : s ∈ (walk entered p).getLast?) : s = [] ∨ s ∈ p.getLast? := by
  obtain ⟨q, t, rfl⟩ := (List.eq_nil_or_concat p).resolve_left hp
  rw [List.concat_eq_append] at h ⊢
  obtain ⟨kept, last, hwalk, -, hlast⟩ := exists_walk_singleton (q.foldl enter entered) t
  rw [walk_append (List.cons_ne_nil t []), hwalk] at h
  obtain rfl : last = s := by simpa using h
  exact hlast.imp_right fun hl => by simp [hl.1]

/-! ### What a walk enters -/

theorem dotFree_enter {entered : Path} (h : DotFree entered) (s : Text) :
    DotFree (enter entered s) := by
  unfold enter
  split
  · exact h
  · next hh =>
    split
    · exact h.subset (List.tail_suffix entered).subset
    · next hu => exact dotFree_cons.2 ⟨⟨hh, hu⟩, h⟩

theorem dotFree_foldl_enter : ∀ (p : Path) {entered : Path}, DotFree entered →
    DotFree (p.foldl enter entered)
  | [], _, h => h
  | s :: p, _, h => dotFree_foldl_enter p (dotFree_enter h s)

/-- A walk enters no dot segment. -/
theorem dotFree_walk (p : Path) {entered : Path} (h : DotFree entered) :
    DotFree (walk entered p) := by
  obtain rfl | ⟨q, t, rfl⟩ := List.eq_nil_or_concat p
  · exact h.subset (List.reverse_subset.2 (List.Subset.refl entered))
  · rw [List.concat_eq_append, walk_append (List.cons_ne_nil t [])]
    obtain ⟨kept, last, hwalk, hkept, hlast⟩ := exists_walk_singleton (q.foldl enter entered) t
    rw [hwalk, dotFree_append]
    constructor
    · exact (dotFree_foldl_enter q h).subset
        (List.Subset.trans (List.reverse_subset.2 (List.Subset.refl kept)) hkept.subset)
    · rcases hlast with rfl | ⟨rfl, hdot⟩
      · exact dotFree_rooted.2 dotFree_nil
      · exact dotFree_cons.2 ⟨hdot, dotFree_nil⟩

@[simp] theorem normalize_rooted (p : Path) : normalize ([] :: p) = [] :: walk [] p := rfl

theorem normalize_of_dotFree : ∀ {p : Path}, DotFree p → normalize p = p
  | [], _ => rfl
  | [] :: p, h => by
    rw [normalize_rooted, walk_of_dotFree (dotFree_rooted.1 h)]
    rfl
  | (_ :: _) :: _, h => walk_of_dotFree h []

theorem dotFree_normalize (p : Path) : DotFree (normalize p) := by
  unfold normalize
  split
  · exact dotFree_rooted.2 (dotFree_walk _ dotFree_nil)
  · exact dotFree_walk p dotFree_nil

/-- The directory a reference path is seen from. -/
def directory (base : Path) : Path := if base.dropLast = [] then [[]] else base.dropLast

theorem merge_of_not_rooted {reference : Path} (h : reference.isRooted = false) (base : Path) :
    merge base reference = normalize (directory base ++ reference) := by
  rw [merge, if_neg (by simp [h])]
  rfl

/-! ### Texts of paths from the root -/

/-- The text with a `/` before each segment. -/
def slashed (p : Path) : Text := p.flatMap ('/' :: ·)

@[simp] theorem slashed_nil : slashed [] = [] := rfl

@[simp] theorem slashed_cons (s : Text) (p : Path) : slashed (s :: p) = '/' :: s ++ slashed p := rfl

@[simp] theorem slashed_append (p q : Path) : slashed (p ++ q) = slashed p ++ slashed q :=
  List.flatMap_append

theorem toText_cons (s : Text) (p : Path) : toText (s :: p) = s ++ slashed p :=
  Text.intercalate_cons '/' s p

theorem toText_rooted (p : Path) : toText ([] :: p) = slashed p := toText_cons [] p

theorem slashed_eq_cons {p : Path} (h : p ≠ []) : slashed p = '/' :: toText p := by
  obtain ⟨s, q, rfl⟩ := List.exists_cons_of_ne_nil h
  rw [slashed_cons, toText_cons]
  rfl

theorem toText_append {p : Path} (hp : p ≠ []) (q : Path) :
    toText (p ++ q) = toText p ++ slashed q := by
  obtain ⟨s, p, rfl⟩ := List.exists_cons_of_ne_nil hp
  rw [List.cons_append, toText_cons, toText_cons, slashed_append, List.append_assoc]

/-- What holds of every character of the segments, and of `/`, holds of the whole text. -/
theorem forall_mem_slashed {P : Char → Prop} {p : Path} (hslash : P '/')
    (h : ∀ s ∈ p, ∀ c ∈ s, P c) : ∀ c ∈ slashed p, P c := by
  intro c hc
  obtain ⟨s, hs, hc⟩ := List.mem_flatMap.1 hc
  rcases List.mem_cons.1 hc with rfl | hc
  · exact hslash
  · exact h s hs c hc

theorem head?_slashed (p : Path) : ∀ c ∈ (slashed p).head?, c = '/' := by
  cases p with
  | nil => simp
  | cons s p => simp

theorem getLast?_slashed {p : Path} {c : Char} (h : c ∈ (slashed p).getLast?) :
    ∃ s ∈ p.getLast?, c ∈ s.getLast? ∨ c = '/' := by
  obtain rfl | ⟨q, s, rfl⟩ := List.eq_nil_or_concat p
  · simp at h
  · refine ⟨s, by simp, ?_⟩
    cases s with
    | nil => exact Or.inr (by simpa using h.symm)
    | cons d s =>
      rw [List.concat_eq_append, slashed_append, slashed_cons, slashed_nil, List.append_nil,
        List.getLast?_append, List.getLast?_cons_cons] at h
      exact Or.inl (by simpa using h)

end Path

namespace Text

/-! ### The two algorithms, segment by segment -/

open Hyperlink.Path (here up slashed walk enter)

theorem rdropWhile_slash {s : Text} (h : '/' ∉ s) (front : Text) :
    (front ++ '/' :: s).rdropWhile (· ≠ '/') = front ++ ['/'] := by
  have hs : ∀ c ∈ s.reverse, (decide (c ≠ '/')) = true := fun c hc => by
    simpa using fun e : c = '/' => h (e ▸ List.mem_reverse.1 hc)
  rw [List.rdropWhile, List.reverse_append, List.reverse_cons, List.append_assoc,
    List.dropWhile_append_of_pos hs]
  simp

theorem dropSegment_append {s : Text} (h : '/' ∉ s) (out : Text) :
    dropSegment (out ++ '/' :: s) = out := by
  rw [dropSegment, rdropWhile_slash h, List.dropLast_concat]

/-- What is cut back is the last segment entered. -/
theorem dropSegment_slashed : ∀ {entered : Path}, (∀ s ∈ entered, '/' ∉ s) →
    dropSegment (slashed entered.reverse) = slashed entered.tail.reverse
  | [], _ => rfl
  | s :: entered, h => by
    rw [List.reverse_cons, Path.slashed_append, Path.slashed_cons, Path.slashed_nil,
      List.append_nil, dropSegment_append (h s List.mem_cons_self), List.tail_cons]

/-- A segment that is no dot segment goes to the output as it is. -/
theorem removeDots_segment {s : Text} (hs : '/' ∉ s) (hdot : s ≠ here ∧ s ≠ up) {tail : Text}
    (ht : tail = [] ∨ ∃ t, tail = '/' :: t) (out : Text) :
    removeDots out ('/' :: s ++ tail) = removeDots (out ++ '/' :: s) tail := by
  have htake : (s ++ tail).takeWhile (· ≠ '/') = s ∧ (s ++ tail).dropWhile (· ≠ '/') = tail := by
    have hall : ∀ c ∈ s, (decide (c ≠ '/')) = true := fun c hc => by
      simpa using fun e : c = '/' => hs (e ▸ hc)
    rw [List.takeWhile_append_of_pos hall, List.dropWhile_append_of_pos hall]
    rcases ht with rfl | ⟨t, rfl⟩ <;> simp
  rw [List.cons_append, removeDots, htake.1, htake.2]
  -- no other rule of the algorithm fits: each would make `s` a dot segment
  all_goals
    intros
    simp_all [here, up]

theorem removeDots_here_cons (out t : Text) :
    removeDots out ('/' :: here ++ '/' :: t) = removeDots out ('/' :: t) := by
  rw [here, List.cons_append, List.cons_append, List.nil_append, removeDots]

theorem removeDots_up_cons (out t : Text) :
    removeDots out ('/' :: up ++ '/' :: t) = removeDots (dropSegment out) ('/' :: t) := by
  rw [up, List.cons_append, List.cons_append, List.cons_append, List.nil_append, removeDots]

/-- One segment that is not the last: the text on the output stays that of the segments entered. -/
theorem removeDots_enter {s : Text} {rest entered : Path} (hs : '/' ∉ s) (hrest : rest ≠ [])
    (he : ∀ t ∈ entered, '/' ∉ t) :
    removeDots (slashed entered.reverse) (slashed (s :: rest)) =
      removeDots (slashed (enter entered s).reverse) (slashed rest) := by
  rw [Path.slashed_cons, Path.slashed_eq_cons hrest]
  rcases eq_or_ne s here with rfl | hh
  · rw [removeDots_here_cons, Path.enter_here]
  · rcases eq_or_ne s up with rfl | hu
    · rw [removeDots_up_cons, dropSegment_slashed he, Path.enter_up]
    · rw [removeDots_segment hs ⟨hh, hu⟩ (Or.inr ⟨_, rfl⟩), Path.enter_of_ne ⟨hh, hu⟩]
      simp

/-- The last segment: a dot segment leaves a `/` behind. -/
theorem removeDots_last {s : Text} {entered : Path} (hs : '/' ∉ s)
    (he : ∀ t ∈ entered, '/' ∉ t) :
    removeDots (slashed entered.reverse) (slashed [s]) = slashed (walk entered [s]) := by
  have hroot : ∀ out, removeDots out ['/'] = out ++ ['/'] := fun out => by
    simp [removeDots]
  rcases eq_or_ne s here with rfl | hh
  · rw [Path.walk_singleton_here, Path.walk_singleton_nil]
    simp [here, removeDots, hroot]
  · rcases eq_or_ne s up with rfl | hu
    · rw [Path.walk_singleton_up, Path.walk_singleton_nil]
      simp [up, removeDots, hroot, dropSegment_slashed he]
    · have hstep := removeDots_segment hs ⟨hh, hu⟩ (Or.inl rfl) (slashed entered.reverse)
      rw [Path.walk_singleton ⟨hh, hu⟩, Path.slashed_cons, Path.slashed_nil, hstep]
      simp [removeDots]

theorem not_mem_of_mem_enter {entered : Path} {s : Text} (hs : '/' ∉ s)
    (he : ∀ t ∈ entered, '/' ∉ t) : ∀ t ∈ enter entered s, '/' ∉ t := by
  intro t ht
  unfold enter at ht
  split at ht
  · exact he t ht
  · split at ht
    · exact he t (List.mem_of_mem_tail ht)
    · rcases List.mem_cons.1 ht with rfl | ht
      · exact hs
      · exact he t ht

/-- The text algorithm does on a whole path what `walk` does on its segments. -/
theorem removeDots_slashed : ∀ {rest entered : Path}, rest ≠ [] → (∀ s ∈ rest, '/' ∉ s) →
    (∀ s ∈ entered, '/' ∉ s) →
    removeDots (slashed entered.reverse) (slashed rest) = slashed (walk entered rest)
  | [s], entered, _, hr, he => removeDots_last (hr s List.mem_cons_self) he
  | s :: t :: rest, entered, _, hr, he => by
    have hs : '/' ∉ s := hr s List.mem_cons_self
    rw [removeDots_enter hs (List.cons_ne_nil t rest) he,
      Path.walk_cons _ _ (List.cons_ne_nil t rest)]
    exact removeDots_slashed (List.cons_ne_nil t rest)
      (fun u hu => hr u (List.mem_cons_of_mem s hu)) (not_mem_of_mem_enter hs he)

/-- On the text of a path from the root the algorithm of the standard gives the text of the
normalized path. -/
theorem removeDotSegments_toText {p : Path} (hne : p ≠ []) (hp : ∀ s ∈ p, '/' ∉ s) :
    removeDotSegments (Path.toText ([] :: p)) = Path.toText (Path.normalize ([] :: p)) := by
  rw [Path.normalize_rooted, Path.toText_rooted, Path.toText_rooted,
    removeDotSegments]
  exact @removeDots_slashed p [] hne hp (by simp)

end Text

namespace Path

/-! ### What is left of a path -/

theorem normalize_of_not_rooted {p : Path} (h : p.isRooted = false) : normalize p = walk [] p :=
  if_neg (by simp [h])

/-- What the removal of dot segments comes to. None is left. A path from the root stays one, and its
text is what the algorithm of the standard makes of it. A path without a root marker comes out as it
does behind one: at the top of either there is nothing that a `..` could leave. -/
theorem normalize_removes_dots {p : Path} (hslash : ∀ s ∈ p, '/' ∉ s) :
    DotFree p.normalize ∧
      (p.isRooted = true → 2 ≤ p.length →
        p.normalize.isRooted = true ∧ 2 ≤ p.normalize.length ∧
          p.normalize.toText = Text.removeDotSegments p.toText) ∧
      (p.isRooted = false → normalize ([] :: p) = [] :: p.normalize) := by
  refine ⟨dotFree_normalize p, fun hr hlength => ?_, fun hr => ?_⟩
  · obtain ⟨q, rfl⟩ := exists_of_isRooted hr
    have hne : q ≠ [] := List.length_pos_iff.1 (Nat.le_of_succ_le_succ hlength)
    have hwalk : 0 < (walk [] q).length := List.length_pos_iff.2 (walk_ne_nil hne [])
    refine ⟨rfl, Nat.succ_le_succ hwalk, ?_⟩
    exact (Text.removeDotSegments_toText hne fun s hs => hslash s (List.mem_cons_of_mem [] hs)).symm
  · rw [normalize_rooted, normalize_of_not_rooted hr]

/-- A climb above the top, with an empty segment next and a dot segment at the end. -/
theorem normalize_removes_dots_climb :
    Text.removeDotSegments "/a/../..//b/.".toList = "//b/".toList ∧
      normalize [[], ['a'], up, up, [], ['b'], here] =
        [] :: normalize [['a'], up, up, [], ['b'], here] := by
  obtain ⟨-, hrooted, -⟩ := @normalize_removes_dots [[], ['a'], up, up, [], ['b'], here] (by decide)
  obtain ⟨-, -, hplain⟩ := @normalize_removes_dots [['a'], up, up, [], ['b'], here] (by decide)
  obtain ⟨-, -, htext⟩ := hrooted rfl (by decide)
  exact ⟨htext.symm, hplain rfl⟩

end Path

end Hyperlink
