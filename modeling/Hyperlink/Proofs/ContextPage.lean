import Hyperlink.Proofs.ContextRelative
import Hyperlink.Proofs.OnMount

/-!
Context-relative pages.

The segments of a context-relative page are counted from the context root, with or without a root
marker. Those of a target are counted from the filter root, and a link is made of the two as if both
were seen from one place. So it leads to the target below the context path, and a root marker of the
page is one more directory to leave (`Page.linkStart`). The filter path is missed on the way
(`resolve_relativeLink_contextPage`).
-/

namespace Hyperlink.Page

variable {page : Page} {target : Url}

/-- The segments below which a link from a context-relative page finds its target. -/
def linkStart (page : Page) : Path :=
  if page.base.segments.isRooted then page.mount.context.dropLast else page.mount.context

/-- What a link leaves of the context path, and what it has left of it. -/
theorem exists_context_eq_linkStart (page : Page) : ∃ left,
    page.mount.context = page.linkStart ++ left ∧
      (left = [] ↔ (page.base.segments.isRooted = true → page.mount.context = [])) := by
  rcases Bool.eq_false_or_eq_true page.base.segments.isRooted with hr | hr
  · rw [linkStart, if_pos hr]
    obtain hnil | ⟨p, s, hcontext⟩ := List.eq_nil_or_concat page.mount.context
    · exact ⟨[], by simp [hnil], by simp [hnil]⟩
    · exact ⟨[s], by simp [hcontext], by simp [hr, hcontext]⟩
  · exact ⟨[], by simp [linkStart, hr], by simp [hr]⟩

theorem linkStart_prefix (page : Page) : page.linkStart <+: page.mount.context := by
  obtain ⟨left, hcontext, -⟩ := exists_context_eq_linkStart page
  exact ⟨left, hcontext.symm⟩

/-- Links find their target below the mount point when there is no filter path, and no context path
that a root marker could leave. -/
theorem slashed_linkStart_iff (page : Page) :
    Path.slashed page.linkStart = Path.slashed page.mount.path ↔
      page.mount.filter = [] ∧ (page.base.segments.isRooted = true → page.mount.context = []) := by
  obtain ⟨left, hcontext, hleft⟩ := exists_context_eq_linkStart page
  have hpath : page.mount.path = page.linkStart ++ (left ++ page.mount.filter) := by
    rw [Mount.path, ← List.append_assoc, ← hcontext]
  have hnil : Path.slashed (left ++ page.mount.filter) = [] ↔ left ++ page.mount.filter = [] := by
    cases left ++ page.mount.filter <;> simp
  rw [← hleft, hpath, Path.slashed_append, List.self_eq_append_right, hnil, List.append_eq_nil_iff,
    and_comm]

/-- Followed from the directory of a context-relative page, a reference leads to the target below
the segments that links start from. -/
theorem normalize_linkStart {path : Path} (hflag : page.base.contextRelative = true)
    (hbase : page.base.segments.unrooted ≠ []) (hdot : Path.DotFree page.base.segments)
    (hcontext : Path.DotFree page.mount.context) (hr : path.isRooted = false) (hne : path ≠ []) :
    Path.normalize (Path.directory page.basePath ++ Path.reference page.base.segments path) =
      Path.normalize ([] :: (page.linkStart ++ path)) := by
  have hdirectory : Path.directory page.basePath =
      [] :: (page.mount.context ++ page.base.segments.unrooted.dropLast) := by
    have hseen : page.mount.fromContext page.base = page.base.segments.unrooted := by
      rw [Mount.fromContext, if_pos hflag]
    have hanchored : page.base.isAnchored ≠ true := by simp [Url.isAnchored, hflag]
    rw [directory_basePath (fun h => absurd h hanchored) (Or.inl (hseen ▸ hbase)), hseen]
  have hbelow : Path.DotFree page.base.segments.unrooted.dropLast :=
    (hdot.subset (Path.unrooted_suffix _).subset).subset (List.dropLast_subset _)
  have hpath : path.orDirectory = path := by rw [Path.orDirectory, if_neg hne]
  rw [hdirectory, linkStart]
  rcases Bool.eq_false_or_eq_true page.base.segments.isRooted with hrooted | hrooted
  · obtain ⟨below, hsegments⟩ := Path.exists_of_isRooted hrooted
    have hunshared : ∀ t, t ≠ [] → path ≠ [] :: t := by
      rintro t - rfl
      simp [Path.isRooted] at hr
    rw [hsegments] at hbase hbelow
    rw [if_pos hrooted, hsegments]
    have hclimb := Path.normalize_reference_unshared hcontext hbase hbelow hunshared
    rw [hpath] at hclimb
    exact hclimb
  · rw [Path.unrooted_of_not_rooted hrooted] at hbelow
    rw [if_neg (by simp [hrooted]), Path.unrooted_of_not_rooted hrooted,
      Path.normalize_reference hbelow, hpath]

/-- From a context-relative page a link is read back, and leads to the target below the segments that
links start from. That is the target below the mount point only without a filter path, and, for a
page with a root marker, without a context path. -/
theorem resolve_relativeLink_contextPage (hflag : page.base.contextRelative = true)
    (hbase : page.base.segments.unrooted ≠ []) (hdot : Path.DotFree page.base.segments)
    (hmount : Path.DotFree page.mount.path) (htarget : Url.parse target.print = .ok target)
    (hr : target.segments.isRooted = false) (hne : target.segments ≠ [])
    (htargetDot : Path.DotFree target.segments) :
    ∃ r, Url.parse (page.relativeLink target).value = .ok r ∧
      (page.resolve r).value =
        (page.resolve
          { segments := [] :: (page.linkStart ++ target.segments)
            query := target.query
            fragment := target.fragment }).value ∧
      ((page.resolve r).value =
        (page.resolve
          { segments := [] :: (page.mount.path ++ target.segments)
            query := target.query
            fragment := target.fragment }).value ↔
        page.mount.filter = [] ∧
          (page.base.segments.isRooted = true → page.mount.context = [])) := by
  have hcontext : Path.DotFree page.mount.context := (Path.dotFree_append.1 hmount).1
  have hstart : Path.DotFree page.linkStart := hcontext.subset page.linkStart_prefix.subset
  have hown : (page.mount.strip page.base).value = page.base.segments :=
    Mount.strip_of_not_anchored (by simp [Url.isAnchored, hflag]) page.mount
  have hbelow : (page.mount.strip target).value = target.segments :=
    Mount.strip_of_not_anchored (by simp [Url.isAnchored, hr]) page.mount
  refine ⟨_, parse_relativeLink htarget page, ?_⟩
  rw [hown, hbelow,
    resolve_reference (normalize_linkStart hflag hbase hdot hcontext hr hne)]
  refine ⟨rfl, ?_⟩
  rw [resolve_rooted_append_inj page hstart hmount htargetDot hne, slashed_linkStart_iff]

/-- The context-relative page `/a/b` of an application at `/shop/ctx`, behind a filter path. -/
def markedPage : Page where
  base := { segments := [[], ['a'], ['b']], contextRelative := true }
  mount := .ofTexts "/shop/ctx".toList "/app".toList

/-- A root marker in front of the page makes the link leave the last segment of the context path. -/
theorem resolve_relativeLink_contextPage_marked :
    ∃ r, Url.parse (markedPage.relativeLink
        { segments := [['x'], [], ['y']], query := [⟨['q'], []⟩] }).value = .ok r ∧
      (markedPage.resolve r).value = "/shop/x//y?q".toList ∧
      (markedPage.resolve r).value ≠ "/shop/ctx/app/x//y?q".toList := by
  obtain ⟨r, hr, hlink, hiff⟩ := @resolve_relativeLink_contextPage markedPage
    { segments := [['x'], [], ['y']], query := [⟨['q'], []⟩] } rfl (by decide) (by decide)
    (by decide) (by rfl) rfl (by decide) (by decide)
  exact ⟨r, hr, hlink, fun h => absurd (hiff.1 h).1 (by decide)⟩

/-- From a context-relative page a link does not lead to its target below the mount point, even
without a root marker. -/
theorem not_resolve_relativeLink_contextPage :
    ¬ ∀ (page : Page) (target : Url), Path.DotFree page.mount.path →
      page.base.contextRelative = true → page.base.segments.unrooted ≠ [] →
      Path.DotFree page.base.segments → Url.parse target.print = .ok target →
      target.contextRelative = false → target.isAnchored = false → target.segments ≠ [] →
      Path.DotFree target.segments →
      ∃ r, Url.parse (page.relativeLink target).value = .ok r ∧
        (page.resolve r).value =
          (page.resolve
            { segments := [] :: (page.mount.path ++ target.segments)
              query := target.query
              fragment := target.fragment }).value := by
  intro h
  obtain ⟨r, hr, he⟩ := h
    ⟨{ segments := [['a']], contextRelative := true }, .ofTexts "/ctx".toList "/app".toList⟩
    { segments := [['x']] } (by decide) rfl (by decide) (by decide) (by rfl) rfl rfl (by decide)
    (by decide)
  obtain rfl : ({ segments := [Path.here, ['x']] } : Url) = r := Except.ok.inj hr
  exact absurd he (by decide)

end Hyperlink.Page
