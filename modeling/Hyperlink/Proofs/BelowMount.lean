import Hyperlink.Proofs.LinkOrigin
import Hyperlink.Proofs.Mounted

/-!
No way out of the mount point.

A target without a host is placed below the mount point when its scheme takes it off the page, and
below the context path when it is context-relative. Its dot segments are taken away before the
segments of that place stand in front, so they cannot climb past it. On the target alone that is what
RFC 3986 does on a path from the root (`slashed_walk_unrooted`), and the whole is read back from the
address that is written (`parse_origin_below`).
-/

namespace Hyperlink

namespace Path

/-- Without its root marker a path that stands alone is walked from the top, also when only a `/`
remains of it. -/
theorem StandsAlone.normalize_unrooted : ∀ {p : Path}, p.StandsAlone →
    normalize p.unrooted = walk [] p.unrooted
  | [], _ => rfl
  | (_ :: _) :: _, _ => rfl
  | [[]], h => absurd rfl h.not_root
  | [] :: (_ :: _) :: _, _ => rfl
  | [[], []], _ => rfl
  | [] :: [] :: s :: p, h => absurd rfl (h.not_authority (s :: p) (List.cons_ne_nil s p))

theorem StandsAlone.unrooted_ne_nil : ∀ {p : Path}, p.StandsAlone → p ≠ [] → p.unrooted ≠ []
  | [], _, hne => hne
  | (_ :: _) :: _, _, hne => hne
  | [[]], h, _ => absurd rfl h.not_root
  | [] :: s :: p, _, _ => List.cons_ne_nil s p

end Path

namespace Url

/-- The path text without one leading `/`. -/
def pathBelow (u : Url) : Text :=
  if u.segments.toText.head? = some '/' then u.segments.toText.tail else u.segments.toText

/-- The path is that of a place with a path text behind it, from which the dot segments are taken
away first. -/
structure LandsBelow (u : Url) (start : Path) (path : Text) : Prop where
  path : u.segments.toText = Path.slashed start ++ Text.removeDotSegments ('/' :: path)
  start : [] :: start <+: u.segments
  dotFree : Path.DotFree u.segments

section Below

variable {target : Url} (h : parse target.print = .ok target)
include h

theorem slash_pathBelow (hne : target.segments ≠ []) :
    '/' :: target.pathBelow = Path.slashed target.segments.unrooted := by
  have hhead := head_toText_iff h
  rcases Bool.eq_false_or_eq_true target.segments.isRooted with hr | hr
  · obtain ⟨p, hp, hsegments⟩ := exists_of_isRooted h hr
    have htail : target.segments.toText.tail = Path.toText p := by
      rw [hsegments, Path.toText_rooted, Path.slashed_eq_cons hp, List.tail_cons]
    rw [pathBelow, if_pos (hhead.2 hr), htail, hsegments]
    exact (Path.slashed_eq_cons hp).symm
  · rw [pathBelow, if_neg fun hc => by simp [hhead.1 hc] at hr, Path.unrooted_of_not_rooted hr,
      Path.slashed_eq_cons hne]

variable (hhost : target.host = none) (hne : target.segments ≠ [])
include hhost hne

theorem unrooted_ne_nil : target.segments.unrooted ≠ [] :=
  (standsAlone_of_parse h hhost).unrooted_ne_nil hne

/-- Walking down the segments from the top does what the standard does on the path text from the
root. -/
theorem slashed_walk_unrooted : Path.slashed (Path.walk [] target.segments.unrooted) =
    Text.removeDotSegments ('/' :: target.pathBelow) := by
  have hslash : ∀ s ∈ target.segments.unrooted, '/' ∉ s := fun s hs hc =>
    (ne_of_mem_segments h ((Path.unrooted_suffix _).subset hs) hc).1 rfl
  rw [slash_pathBelow h hne, ← Path.toText_rooted, ← Path.toText_rooted,
    Text.removeDotSegments_toText (unrooted_ne_nil h hhost hne) hslash, Path.normalize_rooted]

theorem landsBelow {start : Path} (hstart : Path.DotFree start) {v : Url}
    (hv : v.segments = [] :: (start ++ Path.walk [] target.segments.unrooted)) :
    v.LandsBelow start target.pathBelow where
  path := by
    rw [hv, Path.toText_rooted, Path.slashed_append, slashed_walk_unrooted h hhost hne]
  start := by
    rw [hv, ← List.cons_append]
    exact List.prefix_append _ _
  dotFree := by
    rw [hv, Path.dotFree_rooted, Path.dotFree_append]
    exact ⟨hstart, Path.dotFree_walk _ Path.dotFree_nil⟩

/-- Behind an origin and the segments of a place, the walked target is read back. -/
theorem parse_origin_below {scheme : Option Text} {host : Text} {port : Option Port}
    (hscheme : ∀ s ∈ scheme, Scheme.isValid s = true) (hvalid : Host.isValid host = true)
    (hcolon : ':' ∈ host → (Host.bracketed? host).isSome = true) {start : Path}
    (hstart : ∀ s ∈ start, ∀ c ∈ s,
      c ≠ '/' ∧ c ≠ '?' ∧ c ≠ '#' ∧ Text.isTabOrLineEnd c = false) :
    parse (printOrigin scheme (some host) port ++
        (Path.locatedText ([] :: (start ++ Path.walk [] target.segments.unrooted)) ++
          target.suffix)) =
      .ok { scheme, host := some host, port
            segments := [] :: (start ++ Path.walk [] target.segments.unrooted)
            query := target.query
            fragment := target.fragment } := by
  have hunrooted := unrooted_ne_nil h hhost hne
  have hsuffix := Path.unrooted_suffix target.segments
  have hwalk := Path.walk_ne_nil hunrooted []
  have hpath : start ++ Path.walk [] target.segments.unrooted ≠ [] :=
    List.append_ne_nil_of_right_ne_nil start hwalk
  have hchars : ∀ s ∈ start ++ Path.walk [] target.segments.unrooted, ∀ c ∈ s,
      c ≠ '/' ∧ c ≠ '?' ∧ c ≠ '#' ∧ Text.isTabOrLineEnd c = false := by
    intro s hs c hc
    rcases List.mem_append.1 hs with hs | hs
    · exact hstart s hs c hc
    · rcases Path.mem_walk _ _ hs with hs | hs | rfl
      · simp at hs
      · exact ne_of_mem_segments h (hsuffix.subset hs) hc
      · simp at hc
  -- the last segment is that of the target, or empty where the target ends in a dot segment
  have hlast : ∀ s ∈ (start ++ Path.walk [] target.segments.unrooted).getLast?,
      s = [] ∨ s ∈ target.segments.getLast? := by
    intro s hs
    rw [List.getLast?_append_of_ne_nil _ hwalk] at hs
    refine (Path.getLast?_walk hunrooted hs).imp_right fun hs => ?_
    obtain ⟨front, hfront⟩ := hsuffix
    rw [← hfront, List.getLast?_append_of_ne_nil _ hunrooted]
    exact hs
  rw [Path.locatedText_rooted hpath, parse_origin_append hscheme hvalid
      (fun hc => Or.inl (hcolon hc)) (endsAuthority_suffix (Path.head?_slashed _) target),
    ofTail_slashed_suffix h hpath hchars hlast]

end Below

end Url

namespace Page

variable {page : Page} {target : Url}

theorem mountedPath_eq (halone : target.segments.StandsAlone) :
    page.mountedPath target = [] :: ((if target.contextRelative then page.mount.context
      else page.mount.path) ++ Path.walk [] target.segments.unrooted) := by
  rw [mountedPath, halone.normalize_unrooted]
  rfl

/-- A target with a scheme that is not the page's, and without a host, is put below the mount
point. -/
theorem linkBy_value_of_otherScheme (toAscii : Text → Option Text) {scheme : Text}
    (hscheme : target.scheme = some scheme) (hhost : target.host = none)
    (hserver : target.isServerPath = false)
    (hother : ∀ own ∈ page.base.scheme, own.sameLetters scheme = false) :
    (page.linkBy toAscii target).value =
      locate (some scheme) page.base.host (target.port <|> page.base.port)
        (page.mountedPath target) ++ target.suffix := by
  have hschemeless : target.isSchemeless = false := by
    rw [Url.isSchemeless, hscheme]
    rfl
  have hleaves : page.leaves toAscii target = true := by
    have hown : (page.base.scheme.any fun own => own.sameLetters scheme) = false := by
      cases hbase : page.base.scheme with
      | none => rfl
      | some own => exact hother own hbase
    simp [leaves, hscheme, hown]
  simp [linkBy, hschemeless, hleaves, absoluteLink, appendSuffix_eq, hhost, hserver, hscheme]

theorem resolve_value_of_contextRelative (hflag : target.contextRelative = true)
    (hhost : target.host = none) (page : Page) :
    (page.resolve target).value =
      locate (target.scheme <|> page.base.scheme) page.base.host (target.port <|> page.base.port)
        (page.mountedPath target) ++ target.suffix := by
  rw [resolve, Logged.render_value, appendSuffix_eq, resolvedPath_eq_mountedPath hflag hhost,
    hhost]
  rfl

section Placed

variable {a : Text} {base : Url} {mount : Mount} (hbase : Url.parse a = .ok base)
  (hfull : base.host.isSome = true) (hcolon : base.BracketsColon)
  (hmount : ∀ s ∈ mount.path, (s ≠ Path.here ∧ s ≠ Path.up) ∧
    ∀ c ∈ s, c ≠ '?' ∧ c ≠ '#' ∧ Text.isTabOrLineEnd c = false)
  (htarget : Url.parse target.print = .ok target) (hhost : target.host = none)
  (hne : target.segments ≠ [])
include hbase hfull hcolon hmount htarget hhost hne

/-- The address of a target on the host of the page, below some of the mount segments. -/
theorem exists_landsBelow {scheme : Option Text} (hscheme : ∀ s ∈ scheme, Scheme.isValid s = true)
    {start : Path} (hstart : start ⊆ mount.path) (port : Option Port) :
    ∃ v, Url.parse (locate scheme base.host port
          ([] :: (start ++ Path.walk [] target.segments.unrooted)) ++ target.suffix) = .ok v ∧
      v.host = base.host ∧ v.LandsBelow start target.pathBelow := by
  obtain ⟨host, hown⟩ := Option.isSome_iff_exists.1 hfull
  have hchars : ∀ s ∈ start, ∀ c ∈ s,
      c ≠ '/' ∧ c ≠ '?' ∧ c ≠ '#' ∧ Text.isTabOrLineEnd c = false := by
    intro s hs c hc
    refine ⟨?_, (hmount s (hstart hs)).2 c hc⟩
    rintro rfl
    exact (mount.isNames_path s (hstart hs)).2 hc
  have hdot : Path.DotFree start := fun s hs => (hmount s (hstart hs)).1
  rw [hown, locate_some, List.append_assoc]
  exact ⟨_, Url.parse_origin_below htarget hhost hne hscheme
    (Url.isValid_host_of_parse hbase host hown) (hcolon host hown) hchars, rfl,
    Url.landsBelow htarget hhost hne hdot rfl⟩

theorem linkBy_landsBelow (toAscii : Text → Option Text) (hr : target.segments.isRooted = false)
    {scheme : Text} (hscheme : Scheme.isValid scheme = true)
    (hother : ∀ own ∈ base.scheme, own.sameLetters scheme = false) :
    ∃ v, Url.parse ((⟨base, mount⟩ : Page).linkBy toAscii
        { target with scheme := some scheme }).value = .ok v ∧
      v.host = base.host ∧ v.LandsBelow mount.path target.pathBelow := by
  have halone := Url.standsAlone_of_parse htarget hhost
  have hlink := @linkBy_value_of_otherScheme ⟨base, mount⟩ { target with scheme := some scheme }
    toAscii scheme rfl hhost (by simp [Url.isServerPath, Url.isAnchored, hr]) hother
  have hpath := @mountedPath_eq ⟨base, mount⟩ { target with scheme := some scheme } halone
  rw [if_neg (by simp [Url.contextRelative_of_parse htarget])] at hpath
  rw [hlink, hpath]
  exact exists_landsBelow hbase hfull hcolon hmount htarget hhost hne (by simpa using hscheme)
    (List.Subset.refl _) _

theorem resolve_landsBelow :
    ∃ v, Url.parse ((⟨base, mount⟩ : Page).resolve
        { target with contextRelative := true }).value = .ok v ∧
      v.host = base.host ∧ v.LandsBelow mount.context target.pathBelow := by
  have halone := Url.standsAlone_of_parse htarget hhost
  have hlink := @resolve_value_of_contextRelative { target with contextRelative := true } rfl
    hhost ⟨base, mount⟩
  have hpath := @mountedPath_eq ⟨base, mount⟩ { target with contextRelative := true } halone
  have hscheme := forall_mem_orElse (Url.isValid_scheme_of_parse htarget)
    (Url.isValid_scheme_of_parse hbase)
  rw [if_pos rfl] at hpath
  rw [hlink, hpath]
  exact exists_landsBelow hbase hfull hcolon hmount htarget hhost hne hscheme
    (List.subset_append_left _ _) _

end Placed

/-- Whatever dot segments a target without a host has, an absolute address does not leave the place
that the target is put in: the mount point where its scheme takes it off the page, the context path
where it is context-relative. -/
theorem parse_landsBelow (toAscii : Text → Option Text) {a : Text} {base : Url} {mount : Mount}
    (hbase : Url.parse a = .ok base) (hfull : base.host.isSome = true)
    (hcolon : base.BracketsColon)
    (hmount : ∀ s ∈ mount.path, (s ≠ Path.here ∧ s ≠ Path.up) ∧
      ∀ c ∈ s, c ≠ '?' ∧ c ≠ '#' ∧ Text.isTabOrLineEnd c = false)
    (htarget : Url.parse target.print = .ok target) (hhost : target.host = none)
    (hne : target.segments.toText ≠ []) :
    (target.segments.toText.head? ≠ some '/' → ∀ scheme, Scheme.isValid scheme = true →
      (∀ own ∈ base.scheme, own.sameLetters scheme = false) →
      ∃ v, Url.parse ((⟨base, mount⟩ : Page).linkBy toAscii
          { target with scheme := some scheme }).value = .ok v ∧
        v.host = base.host ∧ v.LandsBelow mount.path target.segments.toText) ∧
    ∃ v, Url.parse ((⟨base, mount⟩ : Page).resolve
        { target with contextRelative := true }).value = .ok v ∧
      v.host = base.host ∧ v.LandsBelow mount.context target.pathBelow := by
  have hsegments : target.segments ≠ [] := by
    intro hnil
    rw [hnil] at hne
    exact hne rfl
  constructor
  · intro hhead scheme hscheme hother
    have hr : target.segments.isRooted = false := by
      simpa using mt (Url.head_toText_iff htarget).2 hhead
    have hbelow : target.pathBelow = target.segments.toText := by rw [Url.pathBelow, if_neg hhead]
    rw [← hbelow]
    exact linkBy_landsBelow hbase hfull hcolon hmount htarget hhost hsegments toAscii hr hscheme
      hother
  · exact resolve_landsBelow hbase hfull hcolon hmount htarget hhost hsegments

/-- The page `http://h:80/a/b` of an application at `/ctx` behind a filter path `/app`. -/
def serverPage : Page where
  base := { scheme := some "http".toList, host := some ['h'], port := Scheme.Kind.http.defaultPort
            segments := [[], ['a'], ['b']] }
  mount := .ofTexts "/ctx".toList "/app".toList

/-- The reference `../..//x/./..`. -/
def climbingTarget : Url := { segments := [Path.up, Path.up, [], ['x'], Path.here, Path.up] }

/-- A target of two climbs, a segment that is left again and an empty one stays below `/ctx/app`, or
`/ctx`, with that empty segment. -/
theorem parse_landsBelow_climb :
    (∃ v, Url.parse (serverPage.linkBy (fun _ => none)
          { climbingTarget with scheme := some "https".toList }).value = .ok v ∧
      v.host = some ['h'] ∧ v.segments.toText = "/ctx/app//".toList) ∧
    ∃ v, Url.parse (serverPage.resolve
          { climbingTarget with contextRelative := true }).value = .ok v ∧
      v.host = some ['h'] ∧ v.segments.toText = "/ctx//".toList := by
  have hmount : ∀ s ∈ serverPage.mount.path, (s ≠ Path.here ∧ s ≠ Path.up) ∧
      ∀ c ∈ s, c ≠ '?' ∧ c ≠ '#' ∧ Text.isTabOrLineEnd c = false := by
    have hpath : serverPage.mount.path = ["ctx".toList, "app".toList] := by decide
    rw [hpath]
    simp [Path.here, Path.up, Text.isTabOrLineEnd]
  have hremoved : Text.removeDotSegments "/../..//x/./..".toList = "//".toList := by
    simp [Text.removeDotSegments, Text.removeDots, Text.dropSegment, List.rdropWhile]
  obtain ⟨habsolute, v, hv, hhost, hlands⟩ := @parse_landsBelow climbingTarget (fun _ => none)
    "http://h:80/a/b".toList serverPage.base serverPage.mount (by rfl) rfl
    (by simp [Url.BracketsColon, serverPage]) hmount (by rfl) rfl (by decide)
  obtain ⟨w, hw, hwHost, hwLands⟩ := habsolute (by decide) "https".toList (by decide) (by decide)
  refine ⟨⟨w, hw, hwHost, ?_⟩, v, hv, hhost, ?_⟩
  · rw [hwLands.path]
    exact congrArg ("/ctx/app".toList ++ ·) hremoved
  · rw [hlands.path]
    exact congrArg ("/ctx".toList ++ ·) hremoved

end Page

end Hyperlink
