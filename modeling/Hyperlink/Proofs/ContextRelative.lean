import Hyperlink.Proofs.Mounted

/-!
Context-relative targets.

A context-relative target is given below the context root. A link to it compares it with the page as
seen from there, in whichever way the page is given (`basePath_eq_fromContext`), and leads to the
address that the target has below the context path (`resolve_relativeLink_contextRelative`).
-/

namespace Hyperlink.Page

variable {page : Page} {target : Url}

/-- Seen from the root of the server, the page stands below the context path where it stands seen
from the context root. A page given from the root of the server has to spell the context path
itself. -/
theorem basePath_eq_fromContext
    (h : page.base.isAnchored = true → [] :: page.mount.context <+: page.base.segments) :
    page.basePath = [] :: (page.mount.context ++ page.mount.fromContext page.base) := by
  rcases Bool.eq_false_or_eq_true page.base.isAnchored with ha | ha
  · obtain ⟨below, hbelow⟩ := h ha
    have hflag : page.base.contextRelative = false := by
      simpa using (Bool.and_eq_true_iff.1 ha).1
    rw [basePath, if_pos ha, Mount.fromContext, if_neg (by simp [hflag]), if_pos ha, ← hbelow,
      List.cons_append, List.tail_cons, Mount.enter?_append (Mount.forall₂_spells_self _)]
    rfl
  · rw [basePath, if_neg (by simp [ha]), Mount.fromContext]
    rcases Bool.eq_false_or_eq_true page.base.contextRelative with hflag | hflag
    · rw [if_pos hflag, if_pos hflag]
      rfl
    · have hr : page.base.segments.isRooted = false := by
        simpa [Url.isAnchored, hflag] using ha
      rw [if_neg (by simp [hflag]), if_neg (by simp [hflag]), if_neg (by simp [ha]),
        Path.unrooted_of_not_rooted hr, Mount.path, List.cons_append, List.append_assoc]

/-- The directory of the page lies below the context path. A page on the context root itself has
none there, unless that is the root of the server. -/
theorem directory_basePath
    (hbase : page.base.isAnchored = true → [] :: page.mount.context <+: page.base.segments)
    (hbelow : page.mount.fromContext page.base ≠ [] ∨ page.mount.context = []) :
    Path.directory page.basePath =
      [] :: (page.mount.context ++ (page.mount.fromContext page.base).dropLast) := by
  rw [basePath_eq_fromContext hbase, Path.directory_rooted]
  by_cases hnil : page.mount.fromContext page.base = []
  · rw [hnil, hbelow.resolve_left (not_not.2 hnil)]
    rfl
  · rw [List.dropLast_append_of_ne_nil hnil]

theorem relativeLink_value_of_contextRelative (h : target.contextRelative = true) (page : Page) :
    (page.relativeLink target).value =
      Path.relative (page.mount.fromContext page.base) target.segments.unrooted ++
        target.suffix := by
  rw [← appendSuffix_eq, relativeLink, h]
  rfl

/-- A context-relative target without dot segments stands below the context path as it is. -/
theorem resolvedPath_of_contextRelative (h : target.contextRelative = true)
    (hhost : target.host = none) (hdot : Path.DotFree target.segments) (page : Page) :
    page.resolvedPath target = [] :: (page.mount.context ++ target.segments.unrooted) := by
  have hbelow := hdot.subset (Path.unrooted_suffix _).subset
  rw [resolvedPath_eq_mountedPath h hhost, mountedPath, if_pos h, Path.normalize_of_dotFree hbelow,
    List.cons_append]

/-- The relative link to a context-relative target is read back, and leads to the address of the
target. -/
theorem resolve_relativeLink_contextRelative
    (htarget : Url.parse target.print = .ok target) (hhost : target.host = none)
    (hdot : Path.DotFree target.segments) (hne : target.segments.unrooted ≠ [])
    (hcontext : Path.DotFree page.mount.context)
    (hbase : page.base.isAnchored = true → [] :: page.mount.context <+: page.base.segments)
    (hbelow : page.mount.fromContext page.base ≠ [] ∨ page.mount.context = [])
    (hbelowDot : Path.DotFree (page.mount.fromContext page.base).dropLast) :
    ∃ r, Url.parse (page.relativeLink { target with contextRelative := true }).value = .ok r ∧
      (page.resolve r).value = (page.resolve { target with contextRelative := true }).value := by
  have hread := Path.parse_relative htarget (Path.unrooted_suffix target.segments)
    (page.mount.fromContext page.base)
  refine ⟨_, (congrArg Url.parse (relativeLink_value_of_contextRelative rfl page)).trans hread, ?_⟩
  -- both sides come to the target below the context path
  have hpath : Path.normalize (Path.directory page.basePath ++
      Path.reference (page.mount.fromContext page.base) target.segments.unrooted) =
        [] :: (page.mount.context ++ target.segments.unrooted) := by
    have hall : Path.DotFree ([] :: (page.mount.context ++ target.segments.unrooted)) :=
      Path.dotFree_rooted.2
        (Path.dotFree_append.2 ⟨hcontext, hdot.subset (Path.unrooted_suffix _).subset⟩)
    rw [directory_basePath hbase hbelow, Path.normalize_reference hbelowDot, Path.orDirectory,
      if_neg hne, Path.normalize_of_dotFree hall]
  obtain ⟨hscheme, hport⟩ := Url.eq_none_of_parse htarget hhost
  have hflagged := @resolvedPath_of_contextRelative { target with contextRelative := true } rfl
    hhost hdot page
  simp only [resolve, Logged.render_value]
  rw [resolvedPath_reference, hpath, hflagged, hscheme, hport, hhost]
  rfl

/-- The page `a/b` below the filter path `/app` of an application at `/ctx`. -/
def filterPage : Page where
  base := { segments := [['a'], ['b']] }
  mount := .ofTexts "/ctx".toList "/app".toList

/-- From a page given below the filter root, the link leaves the directories of the filter path
too. -/
theorem resolve_relativeLink_contextRelative_filter :
    ∃ r, Url.parse (filterPage.relativeLink
        { segments := [[], ['x'], [], ['y']], query := [⟨['q'], []⟩]
          contextRelative := true }).value = .ok r ∧
      (filterPage.resolve r).value = "/ctx/x//y?q".toList :=
  @resolve_relativeLink_contextRelative filterPage
    { segments := [[], ['x'], [], ['y']], query := [⟨['q'], []⟩] } (by rfl) rfl
    (by decide) (by decide) (by decide) (by intro h; exact absurd h (by decide))
    (Or.inl (by decide)) (by decide)

end Hyperlink.Page
