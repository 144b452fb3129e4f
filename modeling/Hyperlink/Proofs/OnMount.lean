import Hyperlink.Proofs.Mounted

/-!
Pages on the mount point.

A page on the mount point itself has no segments of its own: stripped of the mount segments nothing
is left, and a link from it says to stay in the directory. For a browser that directory is the one
above the mount point, because the last mount segment is the resource. So a relative link from there
misses its target by one segment, whatever the target is (`resolve_relativeLink_onMount`), unless the
application is mounted on the root of the server.
-/

namespace Hyperlink

namespace Mount

/-! ### Spellings of the mount segments -/

theorem ne_dots_of_spells {name s : Text} (h : Spells name s)
    (hdot : name ≠ Path.here ∧ name ≠ Path.up) : s ≠ Path.here ∧ s ≠ Path.up := by
  rcases h with rfl | ⟨parameters, rfl⟩
  · exact hdot
  · -- a segment with a parameter holds a `;`
    have hmem : ';' ∈ name ++ ';' :: parameters := by simp
    refine ⟨?_, ?_⟩ <;> intro he <;> rw [he] at hmem <;> exact absurd hmem (by decide)

theorem dotFree_of_spells {names own : Path} (h : List.Forall₂ Spells names own)
    (hdot : Path.DotFree names) : Path.DotFree own := by
  induction h with
  | nil => exact Path.dotFree_nil
  | cons hs _ ih =>
    obtain ⟨hname, hnames⟩ := Path.dotFree_cons.1 hdot
    exact Path.dotFree_cons.2 ⟨ne_dots_of_spells hs hname, ih hnames⟩

/-- A path that leaves out the last mount segment is written differently, whatever parameters stand
in the others. -/
theorem slashed_dropLast_ne {names own : Path} (h : List.Forall₂ Spells names own)
    (hne : names ≠ []) : Path.slashed own.dropLast ≠ Path.slashed names := by
  induction h with
  | nil => exact absurd rfl hne
  | @cons name s names own hs hrest ih =>
    cases hrest with
    | nil => simp
    | @cons name' s' names own hs' hrest =>
      rw [List.dropLast_cons_of_ne_nil (List.cons_ne_nil s' own), Path.slashed_cons,
        Path.slashed_cons name]
      rcases hs with rfl | ⟨parameters, rfl⟩
      · rw [ne_eq, List.append_cancel_left_eq]
        exact ih (List.cons_ne_nil name' names)
      · -- behind the name one text goes on with `;`, the other with `/`
        simp

/-- An address of which nothing is left below the mount point spells the mount segments, or none. -/
theorem through_of_strip_eq_nil {m : Mount} {u : Url} (hflag : u.contextRelative = false)
    (h : (m.strip u).value = []) : ∃ own, m.Through u own ∧ List.Forall₂ Spells m.path own := by
  rcases Bool.eq_false_or_eq_true u.segments.isRooted with hr | hr
  · have hanchored : u.isAnchored = true := by simp [Url.isAnchored, hflag, hr]
    obtain ⟨path, hsegments⟩ := Path.exists_of_isRooted hr
    rw [strip_of_anchored hanchored, hsegments, List.tail_cons] at h
    cases hbelow : enter? m.path path with
    | none => simp [hbelow] at h
    | some below =>
      obtain ⟨own, rfl, hown⟩ := enter?_eq_some hbelow
      exact ⟨own, .spelled hsegments hown, hown⟩
  · exact ⟨m.path, .named hr, forall₂_spells_self m.path⟩

end Mount

namespace Page

variable {page : Page} {target : Url}

/-- A path from the root of the server, resolved: the origin of the page, and the path without its
dot segments. -/
theorem resolve_rooted (page : Page) {path : Path} (hne : path ≠ []) (query : Query)
    (fragment : Option Text) :
    (page.resolve { segments := [] :: path, query, fragment }).value =
      Url.printOrigin page.base.scheme page.base.host
          ((Scheme.kindOf page.base.scheme).explicitPort page.base.port) ++
        (Path.slashed (Path.walk [] path) ++ Url.suffix { query, fragment }) := by
  have hresolved : page.resolvedPath { segments := [] :: path, query, fragment } =
      [] :: Path.walk [] path := by
    rw [resolvedPath_eq rfl]
    exact if_pos (Or.inr rfl)
  obtain ⟨s, p, hwalk⟩ := List.exists_cons_of_ne_nil (Path.walk_ne_nil hne [])
  have htext : Path.toRootedText ([] :: s :: p) = Path.slashed (s :: p) := Path.toText_rooted _
  rw [resolve, Logged.render_value, appendSuffix_eq, hresolved, hwalk, locate_eq,
    List.isEmpty_cons, Bool.and_false, if_neg Bool.false_ne_true, htext, List.append_assoc]
  rfl

/-- Two addresses that end in the same path are resolved alike when they start alike. -/
theorem resolve_rooted_append_inj (page : Page) {own other path : Path} (hown : Path.DotFree own)
    (hother : Path.DotFree other) (hpath : Path.DotFree path) (hne : path ≠ []) (query : Query)
    (fragment : Option Text) :
    (page.resolve { segments := [] :: (own ++ path), query, fragment }).value =
        (page.resolve { segments := [] :: (other ++ path), query, fragment }).value ↔
      Path.slashed own = Path.slashed other := by
  -- without dot segments both are written as they are
  have hwalk {front : Path} (hfront : Path.DotFree front) :
      Path.walk [] (front ++ path) = front ++ path :=
    Path.walk_of_dotFree (Path.dotFree_append.2 ⟨hfront, hpath⟩) []
  rw [resolve_rooted page (by simp [hne]), resolve_rooted page (by simp [hne]),
    List.append_right_inj, List.append_left_inj, hwalk hown, hwalk hother, Path.slashed_append,
    Path.slashed_append, List.append_left_inj]

/-- The directory of a page on the mount point is the one above. -/
theorem directory_basePath_onMount {own : Path} (hflag : page.base.contextRelative = false)
    (hown : page.mount.Through page.base own) (hbase : (page.mount.strip page.base).value = []) :
    Path.directory page.basePath = [] :: own.dropLast := by
  rw [basePath_of_through hflag hown, hbase, List.append_nil, Path.directory_rooted]

/-- From a page on the mount point a link is read back, and leads to the target in the directory that
the page stands in. That is the target below the mount point only on the root of the server. -/
theorem resolve_relativeLink_onMount
    (hflag : page.base.contextRelative = false) (hbase : (page.mount.strip page.base).value = [])
    (hmount : Path.DotFree page.mount.path) (htarget : Url.parse target.print = .ok target)
    (hr : target.segments.isRooted = false) (hne : target.segments ≠ [])
    (hdot : Path.DotFree target.segments) :
    ∃ r, Url.parse (page.relativeLink target).value = .ok r ∧
      (page.resolve r).value =
        (page.resolve
          { segments := Path.directory page.basePath ++ target.segments
            query := target.query
            fragment := target.fragment }).value ∧
      ((page.resolve r).value =
        (page.resolve
          { segments := [] :: (page.mount.path ++ target.segments)
            query := target.query
            fragment := target.fragment }).value ↔ page.mount.path = []) := by
  obtain ⟨own, hown, hspells⟩ := Mount.through_of_strip_eq_nil hflag hbase
  have hdirectory := directory_basePath_onMount hflag hown hbase
  have hbelow : (page.mount.strip target).value = target.segments :=
    Mount.strip_of_not_anchored (by simp [Url.isAnchored, hr]) page.mount
  have hreached : Path.normalize (Path.directory page.basePath ++
      Path.reference [] target.segments) =
        Path.normalize ([] :: (own.dropLast ++ target.segments)) := by
    rw [hdirectory, Path.normalize_reference_nil, Path.orDirectory, if_neg hne]
  refine ⟨_, parse_relativeLink htarget page, ?_⟩
  rw [hbase, hbelow, resolve_reference hreached, hdirectory]
  refine ⟨rfl, ?_⟩
  have hdotOwn : Path.DotFree own.dropLast :=
    (Mount.dotFree_of_spells hspells hmount).subset (List.dropLast_subset own)
  rw [resolve_rooted_append_inj page hdotOwn hmount hdot hne]
  constructor
  · intro h
    by_contra hne
    exact Mount.slashed_dropLast_ne hspells hne h
  · intro h
    rw [h] at hspells ⊢
    rw [List.forall₂_nil_left_iff.1 hspells]
    rfl

/-- The page `/ctx;v=1/app;w`, which is the mount point of its application. -/
def mountPage : Page where
  base := { segments := [[], "ctx;v=1".toList, "app;w".toList] }
  mount := .ofTexts "/ctx".toList "/app".toList

/-- The directory above is written as the page spells it, here with a parameter. -/
theorem resolve_relativeLink_onMount_parameter :
    ∃ r, Url.parse (mountPage.relativeLink
        { segments := [['x'], [], ['y']], query := [⟨['q'], []⟩] }).value = .ok r ∧
      (mountPage.resolve r).value = "/ctx;v=1/x//y?q".toList ∧
      (mountPage.resolve r).value ≠ "/ctx/app/x//y?q".toList := by
  obtain ⟨r, hr, hlink, hiff⟩ := @resolve_relativeLink_onMount mountPage
    { segments := [['x'], [], ['y']], query := [⟨['q'], []⟩] } rfl (by rfl) (by decide)
    (by rfl) rfl (by decide) (by decide)
  exact ⟨r, hr, hlink, fun h => absurd (hiff.1 h) (by decide)⟩

/-- From a page on the mount point a link does not lead to its target below the mount point. -/
theorem not_resolve_relativeLink_onMount :
    ¬ ∀ (page : Page) (target : Url), page.mount.path ≠ [] → Path.DotFree page.mount.path →
      page.base.contextRelative = false → (page.mount.strip page.base).value = [] →
      Url.parse target.print = .ok target → target.segments.isRooted = false →
      target.segments ≠ [] → Path.DotFree target.segments →
      ∃ r, Url.parse (page.relativeLink target).value = .ok r ∧
        (page.resolve r).value =
          (page.resolve
            { segments := [] :: (page.mount.path ++ target.segments)
              query := target.query
              fragment := target.fragment }).value := by
  intro h
  obtain ⟨r, hr, he⟩ := h ⟨{ segments := [[], "ctx".toList] }, .ofTexts "/ctx".toList []⟩
    { segments := [['x']] } (by decide) (by decide) rfl (by rfl) (by rfl) rfl (by decide)
    (by decide)
  obtain rfl : ({ segments := [Path.here, ['x']] } : Url) = r := Except.ok.inj hr
  exact absurd he (by decide)

end Page

end Hyperlink
