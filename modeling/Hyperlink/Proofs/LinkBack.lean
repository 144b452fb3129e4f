import Hyperlink.Proofs.LinkOrigin
import Hyperlink.Proofs.Mounted

/-!
Where a link on the same server leads back to.

The paths of page and target are stripped of the mount segments one by one, so they need not be seen
from the same place. `Page.reached` says where a link leads for each of the four combinations, and
`linkBy_leads_back_iff` that it is the target exactly when both paths normalize to the same one.
-/

namespace Hyperlink

/-! ### Paths -/

namespace Path

/-- Different normalized paths from the root have different texts. -/
theorem locatedText_inj {p q : Path} (hp : p ≠ []) (hq : q ≠ []) (hps : ∀ s ∈ p, '/' ∉ s)
    (hqs : ∀ s ∈ q, '/' ∉ s) :
    locatedText (normalize ([] :: p)) = locatedText (normalize ([] :: q)) ↔
      normalize ([] :: p) = normalize ([] :: q) := by
  rw [normalize_rooted, normalize_rooted, locatedText_rooted (walk_ne_nil hp []),
    locatedText_rooted (walk_ne_nil hq []), List.cons_inj_right]
  exact slashed_inj (walk_ne_nil hp []) (walk_ne_nil hq []) (slash_not_mem_walk hps)
    (slash_not_mem_walk hqs)

/-- The path without its root marker, unless the marker is all there is. -/
def unmarked : Path → Path
  | [] :: s :: p => s :: p
  | p => p

theorem unmarked_suffix (p : Path) : unmarked p <:+ p := by
  unfold unmarked
  split
  · exact List.suffix_cons _ _
  · exact List.suffix_refl _

theorem unmarked_ne_nil {p : Path} (h : p ≠ []) : unmarked p ≠ [] := by
  unfold unmarked
  split
  · exact List.cons_ne_nil _ _
  · exact h

/-- A base that keeps its root marker is left by the root, unless the target keeps its own. -/
theorem normalize_reference_rooted {base : Path} (hb : base ≠ []) (hdot : DotFree base.dropLast)
    (target : Path) :
    normalize ([] :: base.dropLast ++ reference ([] :: base) target) =
      normalize ([] :: target.orDirectory.unmarked) := by
  by_cases hmarked : ∃ t, t ≠ [] ∧ target = [] :: t
  · obtain ⟨t, ht, rfl⟩ := hmarked
    have hreference : reference ([] :: base) ([] :: t) = reference base t := by
      unfold reference
      rw [List.dropLast_cons_of_ne_nil hb, List.dropLast_cons_of_ne_nil ht, diverge, if_pos rfl,
        List.getLastD_cons]
      simp [hb]
    have hunmarked : (orDirectory ([] :: t)).unmarked = t := by
      obtain ⟨s, p, rfl⟩ := List.exists_cons_of_ne_nil ht
      rfl
    have hkept := normalize_reference hdot [] t
    rw [List.nil_append, List.nil_append, orDirectory, if_neg ht] at hkept
    rw [hreference, hunmarked, hkept]
  · have hunshared : ∀ t, t ≠ [] → target ≠ [] :: t := fun t ht he => hmarked ⟨t, ht, he⟩
    have hunmarked : target.orDirectory.unmarked = target.orDirectory := by
      cases target with
      | nil => rfl
      | cons s target =>
        cases s with
        | nil =>
          obtain rfl : target = [] := by
            by_contra hne
            exact hunshared target hne rfl
          rfl
        | cons c s => rfl
    have hclimb := normalize_reference_unshared dotFree_nil hb hdot hunshared
    rw [hunmarked]
    exact hclimb

end Path

/-! ### What stands behind an authority -/

namespace Url

/-- Path, query and fragment of an address that has scheme and authority. -/
def behindAuthority (address : Text) : Option Text :=
  (Scheme.split? address).map fun (_, rest) =>
    (rest.drop 2).dropWhile fun c => c ≠ '/' && c ≠ '?' && c ≠ '#'

theorem behindAuthority_printOrigin {scheme host : Text} {port : Option Port} {tail : Text}
    (hs : Scheme.isValid scheme = true) (hv : Host.isValid host = true)
    (ht : EndsAuthority tail) :
    behindAuthority (printOrigin (some scheme) (some host) port ++ tail) = some tail := by
  have htext : printOrigin (some scheme) (some host) port ++ tail =
      scheme ++ ':' :: '/' :: '/' :: ((host ++ Port.tail port) ++ tail) := by
    simp [printOrigin, printAuthority_eq]
  have hscheme : '/' ∉ scheme := fun hc =>
    (Scheme.ne_of_isTailChar (Scheme.isTailChar_of_isValid hs _ hc)).2.1 rfl
  have hauthority : ∀ c ∈ host ++ Port.tail port,
      (decide (c ≠ '/') && decide (c ≠ '?') && decide (c ≠ '#')) = true := by
    intro c hc
    have hne : c ≠ '/' ∧ c ≠ '?' ∧ c ≠ '#' := by
      rcases List.mem_append.1 hc with hc | hc
      · obtain ⟨-, h1, h2, h3, -⟩ := Host.ne_of_isValid hv c hc
        exact ⟨h1, h2, h3⟩
      · obtain ⟨-, h1, h2, h3, -⟩ := Port.ne_of_mem_tail hc
        exact ⟨h1, h2, h3⟩
    simp [hne]
  have htail : tail.dropWhile (fun c => c ≠ '/' && c ≠ '?' && c ≠ '#') = tail := by
    cases tail with
    | nil => rfl
    | cons c tail => rcases ht c rfl with rfl | rfl | rfl <;> rfl
  rw [behindAuthority, htext, Scheme.split?_append hscheme, Option.map_some]
  simp only [List.drop_succ_cons, List.drop_zero]
  rw [List.dropWhile_append_of_pos hauthority, htail]

theorem SameOrigin.isFull {toAscii : Text → Option Text} {u v : Url} (h : SameOrigin toAscii u v) :
    u.isFull = true ∧ v.isFull = true := by
  obtain ⟨⟨_, h1, _, h2, -⟩, ⟨_, h3, _, h4, -⟩, -⟩ := h
  rw [Option.mem_def] at h1 h2 h3 h4
  simp [Url.isFull, h1, h2, h3, h4]

end Url

namespace Page

/-! ### Where a link leads -/

/-- The segments, behind the root marker, that a link from a page on the server root leads to. The
rest of the target replaces the rest of the page below its mount segments; a page past the mount
point is left by the root, a page on the mount point by the directory it stands in. -/
def reached (page : Page) (target : Url) : Path :=
  let below := (page.mount.strip target).value.orDirectory
  match Mount.enter? page.mount.path page.base.segments.tail with
  | some [] => page.base.segments.tail.dropLast ++ below
  | some _ => page.base.segments.tail.take page.mount.path.length ++ below
  | none => below.unmarked

variable {toAscii : Text → Option Text} {page : Page} {target : Url}

/-- Following the reference to a target leads to the segments reached. -/
theorem normalize_reached {path : Path} (hflag : page.base.contextRelative = false)
    (hsegments : page.base.segments = [] :: path) (hne : path ≠ []) (hdot : Path.DotFree path) :
    Path.normalize (Path.directory page.basePath ++
        Path.reference (page.mount.strip page.base).value (page.mount.strip target).value) =
      Path.normalize ([] :: page.reached target) := by
  have hanchored : page.base.isAnchored = true := by
    simp [Url.isAnchored, hflag, hsegments, Path.isRooted]
  have hbasePath : page.basePath = [] :: path := by rw [basePath, if_pos hanchored, hsegments]
  have hdropLast {below : Path} (h : below <:+ path) : Path.DotFree below.dropLast :=
    (hdot.subset h.subset).subset (List.dropLast_subset below)
  rw [hbasePath, Path.directory_rooted, Mount.strip_of_anchored hanchored, hsegments,
    List.tail_cons, reached, hsegments, List.tail_cons]
  cases hbelow : Mount.enter? page.mount.path path with
  | none => exact Path.normalize_reference_rooted hne (hdropLast (List.suffix_refl path)) _
  | some below =>
    obtain ⟨own, rfl, hown⟩ := Mount.enter?_eq_some hbelow
    cases below with
    | nil =>
      -- on the mount point: nothing of the page is left to compare, but its last segment counts
      exact Path.normalize_reference_nil (own ++ []).dropLast (page.mount.strip target).value
    | cons s below =>
      have htake : (own ++ s :: below).take page.mount.path.length = own := by
        rw [hown.length_eq, List.take_left]
      have hwalk := Path.normalize_reference (hdropLast (List.suffix_append own (s :: below))) own
        (page.mount.strip target).value
      rw [List.dropLast_append_of_ne_nil (List.cons_ne_nil s below)]
      dsimp only
      rw [htake]
      exact hwalk

theorem mem_reached {s : Text} (h : s ∈ page.reached target) :
    s ∈ page.base.segments ∨ s ∈ target.segments ∨ s = [] := by
  have hbelow : ∀ t ∈ (page.mount.strip target).value.orDirectory,
      t ∈ target.segments ∨ t = [] := fun t ht =>
    (Path.mem_orDirectory ht).imp_left fun ht => (page.mount.strip_suffix target).subset ht
  unfold reached at h
  split at h
  · exact (List.mem_append.1 h).imp (fun h => List.mem_of_mem_tail (List.dropLast_subset _ h))
      (hbelow s)
  · exact (List.mem_append.1 h).imp (fun h => List.mem_of_mem_tail (List.mem_of_mem_take h))
      (hbelow s)
  · exact Or.inr (hbelow s ((Path.unmarked_suffix _).subset h))

theorem reached_ne_nil (page : Page) (target : Url) : page.reached target ≠ [] := by
  have hne := (page.mount.strip target).value.orDirectory_ne_nil
  unfold reached
  split
  · simp [hne]
  · simp [hne]
  · exact Path.unmarked_ne_nil hne

/-- Past the mount point page and target are seen from the root, where they are. -/
theorem reached_of_outside {path : Path} (hflag : target.contextRelative = false)
    (hbase : Mount.enter? page.mount.path page.base.segments.tail = none)
    (htarget : Mount.enter? page.mount.path path = none) (hne : path ≠ [])
    (hsegments : target.segments = [] :: path) : page.reached target = path := by
  have hanchored : target.isAnchored = true := by
    simp [Url.isAnchored, hflag, hsegments, Path.isRooted]
  have hstrip : (page.mount.strip target).value = [] :: path := by
    rw [Mount.strip_of_anchored hanchored, hsegments, List.tail_cons, htarget]
    rfl
  obtain ⟨s, p, rfl⟩ := List.exists_cons_of_ne_nil hne
  rw [reached, hbase, hstrip]
  rfl

/-- Below the mount point, in the same spelling of it, both are seen from there. -/
theorem reached_of_below {own below path : Path} (hflag : target.contextRelative = false)
    (hspells : List.Forall₂ Mount.Spells page.mount.path own)
    (hbase : page.base.segments = [] :: (own ++ below)) (hbelow : below ≠ [])
    (hsegments : target.segments = [] :: (own ++ path)) (hne : path ≠ []) :
    page.reached target = own ++ path := by
  have hanchored : target.isAnchored = true := by
    simp [Url.isAnchored, hflag, hsegments, Path.isRooted]
  have hstrip : (page.mount.strip target).value = path := by
    rw [Mount.strip_of_anchored hanchored, hsegments, List.tail_cons, Mount.enter?_append hspells]
    rfl
  obtain ⟨s, below, rfl⟩ := List.exists_cons_of_ne_nil hbelow
  rw [reached, hbase, List.tail_cons, Mount.enter?_append hspells, hstrip, hspells.length_eq,
    Path.orDirectory, if_neg hne]
  simp

theorem behindAuthority_resolve {scheme host : Text}
    (hscheme : (target.scheme <|> page.base.scheme) = some scheme)
    (hhost : (target.host <|> page.base.host) = some host) (hs : Scheme.isValid scheme = true)
    (hv : Host.isValid host = true) :
    Url.behindAuthority (page.resolve target).value =
      some ((page.resolvedPath target).locatedText ++ target.suffix) := by
  have hends := Url.endsAuthority_suffix (page.resolvedPath target).head?_locatedText target
  rw [resolve_some hhost, hscheme, Url.behindAuthority_printOrigin hs hv hends]

/-- On the same server, the link to a target is read back and leads back to the target exactly when
the segments it reaches normalize to those of the target. -/
theorem linkBy_leads_back_iff {a : Text} {base : Url} {mount : Mount}
    (hbase : Url.parse a = .ok base) (hbaseRooted : base.segments.isRooted = true)
    (hdot : Path.DotFree base.segments) (htarget : Url.parse target.print = .ok target)
    (htargetRooted : target.segments.isRooted = true) (hsame : Url.SameOrigin toAscii base target) :
    ∃ r x y, Url.parse ((⟨base, mount⟩ : Page).linkBy toAscii target).value = .ok r ∧
      Url.behindAuthority ((⟨base, mount⟩ : Page).resolve r).value = some x ∧
      Url.behindAuthority ((⟨base, mount⟩ : Page).resolve target).value = some y ∧
      (x = y ↔ Path.normalize ([] :: (⟨base, mount⟩ : Page).reached target) =
        target.segments.normalize) := by
  obtain ⟨hbaseFull, htargetFull⟩ := hsame.isFull
  obtain ⟨path, hpath, hsegments⟩ := Url.exists_of_isRooted hbase hbaseRooted
  obtain ⟨targetPath, htargetPath, htargetSegments⟩ := Url.exists_of_isRooted htarget htargetRooted
  have hstays : (⟨base, mount⟩ : Page).leaves toAscii target = false :=
    (leaves_eq_false_iff hbaseFull htargetFull).2 hsame
  obtain ⟨⟨ownScheme, hownScheme, scheme, hscheme, -⟩, ⟨ownHost, hownHost, host, hhost, -⟩, -⟩ :=
    hsame
  -- the link and the target, resolved
  have hread := parse_relativeLink htarget ⟨base, mount⟩
  have hlink := @behindAuthority_resolve ⟨base, mount⟩
    { segments := Path.reference (mount.strip base).value (mount.strip target).value
      query := target.query
      fragment := target.fragment } ownScheme ownHost hownScheme hownHost
    (Url.isValid_scheme_of_parse hbase _ hownScheme) (Url.isValid_host_of_parse hbase _ hownHost)
  have hdirect := @behindAuthority_resolve ⟨base, mount⟩ target scheme host
    (by rw [Option.mem_def.1 hscheme]; rfl) (by rw [Option.mem_def.1 hhost]; rfl)
    (Url.isValid_scheme_of_parse htarget _ hscheme) (Url.isValid_host_of_parse htarget _ hhost)
  have hserver : target.host.isSome = true ∨ target.segments.isRooted = true :=
    Or.inr htargetRooted
  have hslash : ∀ s ∈ target.segments, '/' ∉ s := fun s hs hc =>
    (Url.ne_of_mem_segments htarget hs hc).1 rfl
  have hreachedSlash : ∀ s ∈ (⟨base, mount⟩ : Page).reached target, '/' ∉ s := by
    intro s hs hc
    rcases mem_reached hs with hs | hs | rfl
    · exact (Url.ne_of_mem_segments hbase hs hc).1 rfl
    · exact hslash s hs hc
    · simp at hc
  have hdotPath : Path.DotFree path := Path.dotFree_rooted.1 (hsegments ▸ hdot)
  refine ⟨_, _, _, by rw [linkBy_of_full htargetFull, hstays]; exact hread, hlink, hdirect, ?_⟩
  show _ ++ target.suffix = _ ++ target.suffix ↔ _
  rw [List.append_left_inj, resolvedPath_reference,
    normalize_reached (Url.contextRelative_of_parse hbase) hsegments hpath hdotPath,
    resolvedPath_eq (Url.contextRelative_of_parse htarget), if_pos hserver, htargetSegments]
  exact Path.locatedText_inj (reached_ne_nil _ _) htargetPath hreachedSlash fun s hs =>
    hslash s (htargetSegments ▸ List.mem_cons_of_mem [] hs)

/-- The page `http://h/ctx/a` of an application at `/ctx`. -/
def belowContext : Page where
  base := { scheme := some "http".toList, host := some ['h']
            segments := [[], "ctx".toList, ['a']] }
  mount := .ofTexts "/ctx".toList []

/-- The address `http://h/x`. -/
def pastContext : Url :=
  { scheme := some "http".toList, host := some ['h'], segments := [[], ['x']] }

/-- A page below the mount point and a target past it are not seen from the same place. -/
theorem linkBy_leads_astray :
    ∃ r x y,
      Url.parse (belowContext.linkBy (fun host => some host.lower) pastContext).value = .ok r ∧
      Url.behindAuthority (belowContext.resolve r).value = some x ∧
      Url.behindAuthority (belowContext.resolve pastContext).value = some y ∧ x ≠ y := by
  obtain ⟨r, x, y, hr, hx, hy, hiff⟩ := @linkBy_leads_back_iff (fun host => some host.lower)
    pastContext "http://h/ctx/a".toList belowContext.base belowContext.mount (by rfl) (by rfl)
    (by decide) (by rfl) (by rfl)
    ⟨⟨_, rfl, _, rfl, by decide⟩, ⟨_, rfl, _, rfl, by decide⟩, by decide⟩
  exact ⟨r, x, y, hr, hx, hy, fun h => absurd (hiff.1 h) (by decide)⟩

/-- A link does not always lead back to its target: a page on the mount point links to a target
below it from the directory above. -/
theorem not_linkBy_leads_back :
    ¬ ∀ (toAscii : Text → Option Text) (mount : Mount) (a : Text) (base target : Url),
      Url.parse a = .ok base → base.segments.isRooted = true → Path.DotFree base.segments →
      Url.parse target.print = .ok target → target.segments.isRooted = true →
      Url.SameOrigin toAscii base target →
      ∃ r, Url.parse ((⟨base, mount⟩ : Page).linkBy toAscii target).value = .ok r ∧
        Url.behindAuthority ((⟨base, mount⟩ : Page).resolve r).value =
          Url.behindAuthority ((⟨base, mount⟩ : Page).resolve target).value := by
  intro h
  obtain ⟨r, hr, he⟩ := h (fun host => some host.lower) (.ofTexts "/ctx".toList [])
    "http://h/ctx".toList
    { scheme := some "http".toList, host := some ['h'], segments := [[], "ctx".toList] }
    { scheme := some "http".toList, host := some ['h'], segments := [[], "ctx".toList, ['x']] }
    (by rfl) (by rfl) (by decide) (by rfl) (by rfl)
    ⟨⟨_, rfl, _, rfl, by decide⟩, ⟨_, rfl, _, rfl, by decide⟩, by decide⟩
  obtain rfl : ({ segments := [Path.here, ['x']] } : Url) = r := Except.ok.inj hr
  exact absurd he (by decide)

end Page

end Hyperlink
