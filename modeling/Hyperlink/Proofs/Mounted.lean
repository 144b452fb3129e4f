import Hyperlink.Proofs.Relative
import Hyperlink.Proofs.Resolution

/-!
Relative links below a mount point.

A page and its target are both seen from the filter root. A relative link from the page leads to the
target placed below the mount segments of the page itself (`resolve_relativeLink`), with the path
parameters the page has in them.
-/

namespace Hyperlink

namespace Path

theorem unrooted_suffix (p : Path) : p.unrooted <:+ p := by
  unfold unrooted
  split
  · exact List.suffix_cons _ _
  · exact List.suffix_refl _

theorem unrooted_of_not_rooted {p : Path} (h : p.isRooted = false) : p.unrooted = p := by
  unfold unrooted
  split
  · simp [isRooted] at h
  · rfl

theorem directory_rooted (p : Path) : directory ([] :: p) = [] :: p.dropLast := by
  cases p with
  | nil => rfl
  | cons s p => rfl

/-- From the directory of a base below some segments, a reference leads to the target below the same
segments. -/
theorem normalize_reference {base : Path} (hdot : DotFree base.dropLast) (own target : Path) :
    normalize ([] :: (own ++ base.dropLast) ++ reference base target) =
      normalize ([] :: (own ++ orDirectory target)) := by
  have hreference : reference base target ≠ [] := by
    obtain ⟨dots, rest, -, he, -, -⟩ := exists_reference base target
    rw [he]
    exact List.cons_ne_nil dots rest
  rw [List.cons_append, normalize_rooted, normalize_rooted, walk_append hreference,
    walk_append (orDirectory_ne_nil target), List.foldl_append, foldl_enter_dotFree hdot,
    walk_reference hdot]

/-- A base without segments is the directory itself. -/
theorem normalize_reference_nil (own target : Path) :
    normalize ([] :: own ++ reference [] target) = normalize ([] :: (own ++ orDirectory target)) := by
  have hreference := @normalize_reference [] dotFree_nil own target
  rwa [List.dropLast_nil, List.append_nil] at hreference

/-- The root marker of a base counts as a directory when the target has none: the reference climbs
out of the segments in front of both by one more. -/
theorem normalize_reference_unshared {own base : Path} (hown : DotFree own) (hb : base ≠ [])
    (hdot : DotFree base.dropLast) {target : Path} (h : ∀ t, t ≠ [] → target ≠ [] :: t) :
    normalize ([] :: (own ++ base.dropLast) ++ reference ([] :: base) target) =
      normalize ([] :: (own.dropLast ++ orDirectory target)) := by
  have hleft : DotFree own.dropLast := hown.subset (List.dropLast_subset own)
  have hreference : reference ([] :: base) target =
      List.replicate (base.dropLast.length + 1) up ++
        (target.dropLast ++ target.getLastD [] :: closing (target.getLastD [])) := by
    unfold reference
    rw [List.dropLast_cons_of_ne_nil hb, diverge_rooted _ h]
    simp only [List.cons_ne_nil, ne_eq, not_false_eq_true, false_and, and_false, if_false]
    rw [List.map_const', List.length_cons, List.append_assoc]
  have hclimb : (List.replicate (base.dropLast.length + 1) up).foldl enter
      ((own ++ base.dropLast).foldl enter []) = own.dropLast.foldl enter [] := by
    rw [List.foldl_append, foldl_enter_dotFree hown, foldl_enter_dotFree hdot,
      List.replicate_succ', List.foldl_append, foldl_enter_climb, foldl_enter_dotFree hleft,
      List.append_nil, List.append_nil]
    exact List.tail_reverse
  rw [hreference, orDirectory_eq, List.cons_append, normalize_rooted, normalize_rooted,
    walk_append (by simp), walk_append (by simp), hclimb, walk_append (by simp), walk_closing,
    walk_append (by simp) own.dropLast, walk_append (by simp)]

end Path

namespace Page

variable {page : Page}

theorem basePath_of_through {own : Path} (hflag : page.base.contextRelative = false)
    (h : page.mount.Through page.base own) :
    page.basePath = [] :: (own ++ (page.mount.strip page.base).value) := by
  cases h with
  | named hr =>
    have hanchored : page.base.isAnchored = false := by simp [Url.isAnchored, hr]
    rw [basePath, Mount.strip_of_not_anchored hanchored, hanchored, hflag,
      Path.unrooted_of_not_rooted hr]
    rfl
  | spelled hsegments hspells =>
    have hanchored : page.base.isAnchored = true := by
      simp [Url.isAnchored, hflag, hsegments, Path.isRooted]
    rw [basePath, Mount.strip_of_anchored hanchored, if_pos hanchored, hsegments, List.tail_cons,
      Mount.enter?_append hspells]
    rfl

theorem resolvedPath_reference (base target : Path) (query : Query) (fragment : Option Text) :
    page.resolvedPath { segments := Path.reference base target, query, fragment } =
      Path.normalize (Path.directory page.basePath ++ Path.reference base target) := by
  have hr : (Path.reference base target).isRooted = false := by
    obtain ⟨dots, rest, hdots, he, -, -⟩ := Path.exists_reference base target
    rw [he]
    rcases hdots with rfl | rfl <;> rfl
  rw [resolvedPath_eq rfl, if_neg (by simp [hr]), Path.merge_of_not_rooted hr]

/-- A reference is resolved as the path from the root that it comes to from the directory of the
page. -/
theorem resolve_reference {base target path : Path}
    (h : Path.normalize (Path.directory page.basePath ++ Path.reference base target) =
      Path.normalize ([] :: path)) (query : Query) (fragment : Option Text) :
    (page.resolve { segments := Path.reference base target, query, fragment }).value =
      (page.resolve { segments := [] :: path, query, fragment }).value := by
  simp only [resolve, Logged.render_value]
  rw [resolvedPath_reference, h]
  rfl

/-- A relative link is read back, and leads to the target below the mount segments of the page,
wherever the target stands. -/
theorem resolve_relativeLink {target : Url} {own : Path}
    (hflag : page.base.contextRelative = false) (hown : page.mount.Through page.base own)
    (hne : (page.mount.strip page.base).value ≠ [] ∨ page.mount.path = [])
    (hdot : Path.DotFree (page.mount.strip page.base).value.dropLast)
    (htarget : Url.parse target.print = .ok target) :
    ∃ r, Url.parse (page.relativeLink target).value = .ok r ∧
      (page.resolve r).value =
        (page.resolve
          { segments := [] :: (own ++ (page.mount.strip target).value.orDirectory)
            query := target.query
            fragment := target.fragment }).value := by
  refine ⟨_, parse_relativeLink htarget page, ?_⟩
  have hown' : (page.mount.strip page.base).value = [] → own = [] := fun h =>
    List.eq_nil_of_length_eq_zero (by rw [hown.length, hne.resolve_left (not_not.2 h)]; rfl)
  have hdirectory : Path.directory page.basePath =
      [] :: (own ++ (page.mount.strip page.base).value.dropLast) := by
    rw [basePath_of_through hflag hown, Path.directory_rooted]
    by_cases hbelow : (page.mount.strip page.base).value = []
    · rw [hbelow, hown' hbelow]
      rfl
    · rw [List.dropLast_append_of_ne_nil hbelow]
  exact resolve_reference (by rw [hdirectory, Path.normalize_reference hdot]) _ _

/-- The page `/shop;v=1/a/b` of an application at `/shop`. -/
def shopPage : Page where
  base := { segments := [[], "shop;v=1".toList, ['a'], ['b']] }
  mount := .ofTexts "/shop".toList []

/-- A page with a path parameter on its mount segment keeps it in the address of a target that
climbs. -/
theorem resolve_relativeLink_parameter :
    ∃ r, Url.parse (shopPage.relativeLink
        { segments := [[], "shop".toList, ['a'], Path.up, ['c']] }).value = .ok r ∧
      (shopPage.resolve r).value = "/shop;v=1/c".toList :=
  @resolve_relativeLink shopPage _ ["shop;v=1".toList] rfl
    (@Mount.Through.spelled _ _ _ [['a'], ['b']] rfl (.cons (Or.inr ⟨"v=1".toList, rfl⟩) .nil))
    (Or.inl (by decide)) (by decide) (by rfl)

end Page

end Hyperlink
