import Mathlib.Data.List.Forall2
import Hyperlink.Mount

/-!
Segments below a mount point.

`Mount.strip` takes the mount segments off the front of a path from the root of the server, in
whatever spelling the path has for them (`carries_iff`). `Mount.Through` names these segments.
-/

namespace Hyperlink.Mount

/-! ### Spellings of a name -/

/-- A segment spells a mount name: path parameters may follow it. -/
def Spells (name segment : Text) : Prop :=
  segment = name ∨ ∃ parameters, segment = name ++ ';' :: parameters

/-- Every name spells itself. -/
theorem forall₂_spells_self (names : Path) : List.Forall₂ Spells names names :=
  List.forall₂_same.2 fun _ _ => Or.inl rfl

theorem isPrefixOf?_eq_some {name segment rest : Text} :
    name.isPrefixOf? segment = some rest ↔ segment = name ++ rest := by
  induction name generalizing segment with
  | nil => simp [List.isPrefixOf?, eq_comm]
  | cons c name ih =>
    cases segment with
    | nil => simp [List.isPrefixOf?]
    | cons d segment =>
      by_cases h : c = d
      · simp [List.isPrefixOf?, h, ih]
      · simp [List.isPrefixOf?, h, Ne.symm h]

theorem carries_iff {name segment : Text} : carries name segment = true ↔ Spells name segment := by
  unfold carries Spells
  constructor
  · intro h
    split at h
    · next rest hrest =>
      rw [isPrefixOf?_eq_some] at hrest
      cases rest with
      | nil => exact Or.inl (by simpa using hrest)
      | cons c rest =>
        obtain rfl : c = ';' := by simpa using h
        exact Or.inr ⟨rest, hrest⟩
    · simp at h
  · rintro (rfl | ⟨parameters, rfl⟩)
    · rw [isPrefixOf?_eq_some.2 (List.append_nil segment).symm]
      rfl
    · rw [isPrefixOf?_eq_some.2 rfl]
      rfl

/-! ### Entering -/

theorem enter?_eq_some : ∀ {names path below : Path}, enter? names path = some below →
    ∃ own, path = own ++ below ∧ List.Forall₂ Spells names own
  | [], path, below, h => ⟨[], by simpa [enter?] using h, List.Forall₂.nil⟩
  | name :: names, [], below, h => by simp [enter?] at h
  | name :: names, s :: path, below, h => by
    obtain ⟨hs, h⟩ := Option.ite_none_right_eq_some.1 (by simpa only [enter?] using h)
    obtain ⟨own, rfl, hown⟩ := enter?_eq_some h
    exact ⟨s :: own, rfl, hown.cons (carries_iff.1 hs)⟩

theorem enter?_append {names own : Path}
    (h : List.Forall₂ Spells names own) (below : Path) :
    enter? names (own ++ below) = some below := by
  induction h with
  | nil => rfl
  | cons hs _ ih => rw [List.cons_append, enter?, if_pos (carries_iff.2 hs), ih]

theorem enter?_eq_none_iff {names path : Path} : enter? names path = none ↔
    ∀ own below, path = own ++ below → ¬ List.Forall₂ Spells names own := by
  constructor
  · rintro h own below rfl hown
    rw [enter?_append hown below] at h
    simp at h
  · intro h
    cases hbelow : enter? names path with
    | none => rfl
    | some below =>
      obtain ⟨own, he, hown⟩ := enter?_eq_some hbelow
      exact absurd hown (h own below he)

theorem strip_of_not_anchored {u : Url} (h : u.isAnchored = false) (m : Mount) :
    (m.strip u).value = u.segments := by
  rw [strip, h]
  rfl

theorem strip_of_anchored {u : Url} (h : u.isAnchored = true) (m : Mount) :
    (m.strip u).value = (enter? m.path u.segments.tail).getD u.segments := by
  rw [strip, if_pos h]
  cases enter? m.path u.segments.tail <;> rfl

/-- Stripping only takes segments off the front. -/
theorem strip_suffix (m : Mount) (u : Url) : (m.strip u).value <:+ u.segments := by
  rcases Bool.eq_false_or_eq_true u.isAnchored with h | h
  · rw [strip_of_anchored h]
    cases hbelow : enter? m.path u.segments.tail with
    | none => exact List.suffix_refl _
    | some below =>
      obtain ⟨own, he, -⟩ := enter?_eq_some hbelow
      exact (he ▸ List.suffix_append own below).trans (List.tail_suffix _)
  · exact strip_of_not_anchored h m ▸ List.suffix_refl _

/-! ### Mount segments -/

theorem isNames_path (m : Mount) : m.path.IsNames := fun s hs =>
  (List.mem_append.1 hs).elim (m.isNames_context s) (m.isNames_filter s)

/-- Context-relative or not, a path is given below mount segments. -/
theorem start_subset (m : Mount) (flag : Bool) :
    (if flag = true then m.context else m.path) ⊆ m.path := by
  split
  · exact List.subset_append_left _ _
  · exact List.Subset.refl _

/-- The mount segments of an address: those it spells itself from the root of the server, or the
names of the mount point below which it is given. -/
inductive Through (m : Mount) (u : Url) : Path → Prop where
  | named (isRooted : u.segments.isRooted = false) : Through m u m.path
  | spelled {own below : Path} (segments : u.segments = [] :: (own ++ below))
      (spells : List.Forall₂ Spells m.path own) : Through m u own

theorem Through.length {m : Mount} {u : Url} {own : Path} (h : m.Through u own) :
    own.length = m.path.length := by
  cases h with
  | named _ => rfl
  | spelled _ hspells => exact hspells.length_eq.symm

end Hyperlink.Mount
