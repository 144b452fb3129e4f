import Hyperlink.Page
import Hyperlink.Proofs.DotSegments
import Hyperlink.Proofs.Reading

/-!
Resolving is reference resolution as RFC 3986 describes it.

The standard works on the five components of an address as texts. `resolve_eq_recompose` says that
`Page.resolve`, which works on lists of segments, writes the very text that sections 5.2 and 5.3
prescribe, but for a default port, which is left out.
-/

namespace Hyperlink

/-! ### The standard -/

/-- The five components of an address. -/
structure Components where
  scheme : Option Text
  authority : Option Text
  path : Text
  query : Option Text
  fragment : Option Text

/-- The components put together again (section 5.3). -/
def Components.recompose (r : Components) : Text :=
  (match r.scheme with
    | some scheme => scheme ++ [':']
    | none => []) ++
  (match r.authority with
    | some authority => '/' :: '/' :: authority
    | none => []) ++
  r.path ++ Text.behind '?' r.query ++ Text.behind '#' r.fragment

/-- A reference path behind the directory of a base path (section 5.2.3). -/
def Text.mergePaths (base reference : Text) : Text :=
  if base = [] then '/' :: reference else base.rdropWhile (· ≠ '/') ++ reference

namespace Url

/-- Host and port of an address, the port only if it is not the default one of a scheme. -/
def authorityFor (scheme : Option Text) (u : Url) : Option Text :=
  u.host.map fun host =>
    host ++ if u.port = (Scheme.kindOf scheme).defaultPort then [] else Port.tail u.port

/-- The components of a target seen from a base (section 5.2.2), for a target that is not empty
before its query. -/
def componentsFrom (base target : Url) : Components where
  scheme := target.scheme <|> base.scheme
  authority :=
    authorityFor (target.scheme <|> base.scheme) (if target.host.isSome then target else base)
  path :=
    Text.removeDotSegments
      (if target.host.isSome ∨ target.segments.toText.head? = some '/' then target.segments.toText
        else Text.mergePaths base.segments.toText target.segments.toText)
  query := if target.query = [] then none else some target.query.print
  fragment := target.fragment

/-! ### Segments and path texts -/

/-- The path text starts with a `/` exactly when the root marker stands in front. -/
theorem head_toText_iff {input : Text} {u : Url} (h : parse input = .ok u) :
    u.segments.toText.head? = some '/' ↔ u.segments.isRooted = true := by
  constructor
  · intro hhead
    cases hp : u.segments with
    | nil => rw [hp] at hhead; simp [Path.toText] at hhead
    | cons s p =>
      cases s with
      | nil => rfl
      | cons c s =>
        have hmem : c :: s ∈ u.segments := hp ▸ List.mem_cons_self
        have hc := (ne_of_mem_segments h hmem List.mem_cons_self).1
        rw [hp] at hhead
        cases p <;> simp_all [Path.toText, List.intercalate_cons_cons]
  · intro hr
    obtain ⟨p, hne, hp⟩ := exists_of_isRooted h hr
    rw [hp, Path.toText_rooted, Path.slashed_eq_cons hne]
    rfl

end Url

namespace Path

/-- Dropping the last segment is cutting the text behind its last `/`. -/
theorem mergePaths_toText {base reference : Path} (hb : base ≠ []) (hslash : ∀ s ∈ base, '/' ∉ s)
    (hr : reference ≠ []) :
    Text.mergePaths (toText ([] :: base)) (toText reference) =
      toText ([] :: (base.dropLast ++ reference)) := by
  obtain ⟨p, s, rfl⟩ := (List.eq_nil_or_concat base).resolve_left hb
  have hs : '/' ∉ s := hslash s (by simp)
  rw [List.concat_eq_append] at hb ⊢
  rw [toText_rooted, List.dropLast_concat, toText_rooted, slashed_append,
    slashed_append, slashed_cons, slashed_nil, List.append_nil, Text.mergePaths, if_neg (by simp),
    Text.rdropWhile_slash hs, slashed_eq_cons hr]
  simp

/-- Different paths from the root have different texts. -/
theorem slashed_inj {p q : Path} (hp : p ≠ []) (hq : q ≠ []) (hps : ∀ s ∈ p, '/' ∉ s)
    (hqs : ∀ s ∈ q, '/' ∉ s) : slashed p = slashed q ↔ p = q := by
  have hread (r : Path) (hr : r ≠ []) (hrs : ∀ s ∈ r, '/' ∉ s) :
      ofText (slashed r) = [] :: r := by
    rw [← toText_rooted, ofText_toText (by simp [hr]) (by simpa using hrs)]
  refine ⟨fun h => ?_, fun h => by rw [h]⟩
  have hcons : [] :: p = [] :: q := by rw [← hread p hp hps, h, hread q hq hqs]
  exact List.tail_eq_of_cons_eq hcons

/-- The text that `locate` writes for a normalized path behind a host. -/
def locatedText (p : Path) : Text := if p.isEmpty then [] else p.toRootedText

theorem locatedText_rooted {p : Path} (h : p ≠ []) : locatedText ([] :: p) = slashed p := by
  obtain ⟨s, q, rfl⟩ := List.exists_cons_of_ne_nil h
  exact toText_rooted (s :: q)

theorem head?_locatedText : ∀ p : Path, ∀ c ∈ p.locatedText.head?, c = '/'
  | [] => by simp [locatedText]
  | [[]] => by simp [locatedText, toRootedText]
  | [] :: s :: p => by
    rw [show locatedText ([] :: s :: p) = toText ([] :: s :: p) from rfl, toText_rooted]
    exact head?_slashed (s :: p)
  | (c :: s) :: p => by simp [locatedText, toRootedText, isRooted]

theorem locatedText_normalize {p : Path} (hne : p ≠ []) (hslash : ∀ s ∈ p, '/' ∉ s) :
    locatedText (normalize ([] :: p)) = Text.removeDotSegments (toText ([] :: p)) := by
  rw [Text.removeDotSegments_toText hne hslash, normalize_rooted,
    locatedText_rooted (walk_ne_nil hne []), toText_rooted]

end Path

namespace Page

/-- The origin in front of a resolved path is written like that of an address, but for the port. -/
theorem locate_eq (scheme host : Option Text) (port : Option Port) (path : Path) :
    locate scheme host port path =
      Url.printOrigin scheme host ((Scheme.kindOf scheme).explicitPort port) ++
        if host.isSome && path.isEmpty then [] else path.toRootedText := by
  cases host with
  | none => rfl
  | some host =>
    unfold locate Url.printOrigin Url.printAuthority
    generalize (Scheme.kindOf scheme).explicitPort port = explicit
    cases scheme <;> cases explicit <;> simp

theorem locate_some (scheme : Option Text) (host : Text) (port : Option Port) (path : Path) :
    locate scheme (some host) port path =
      Url.printOrigin scheme (some host) ((Scheme.kindOf scheme).explicitPort port) ++
        path.locatedText := locate_eq scheme (some host) port path

/-- An address resolved on a host, as far as its path. -/
theorem resolve_some {page : Page} {target : Url} {host : Text}
    (h : (target.host <|> page.base.host) = some host) :
    (page.resolve target).value =
      Url.printOrigin (target.scheme <|> page.base.scheme) (some host)
          ((Scheme.kindOf (target.scheme <|> page.base.scheme)).explicitPort
            (if target.host.isSome then target.port else target.port <|> page.base.port)) ++
        ((page.resolvedPath target).locatedText ++ target.suffix) := by
  rw [resolve, Logged.render_value, appendSuffix_eq, h, locate_some, List.append_assoc]

theorem explicitPort_tail (scheme : Option Text) (port : Option Port) :
    Port.tail ((Scheme.kindOf scheme).explicitPort port) =
      if port = (Scheme.kindOf scheme).defaultPort then [] else Port.tail port := by
  unfold Scheme.Kind.explicitPort
  split <;> rfl

/-- What stands before the path, as the standard puts it together. -/
theorem printOrigin_eq (scheme : Option Text) (u : Url) (host : Text) (hhost : u.host = some host) :
    Url.printOrigin scheme (some host) ((Scheme.kindOf scheme).explicitPort u.port) =
      (match scheme with
        | some scheme => scheme ++ [':']
        | none => []) ++
      (match Url.authorityFor scheme u with
        | some authority => '/' :: '/' :: authority
        | none => []) := by
  cases scheme <;>
    simp [Url.authorityFor, hhost, Url.printOrigin, Url.printAuthority_eq, explicitPort_tail]

/-- The directory a relative target is seen from, and the text the standard puts in front of it. -/
theorem exists_directory {a : Text} {page : Page} (hbase : Url.parse a = .ok page.base)
    (hpath : page.base.segments.toText.head? = some '/' ∨
      page.base.segments.toText = [] ∧ page.mount = .root) :
    ∃ d : Path, (∀ s ∈ d, '/' ∉ s) ∧
      Path.directory page.basePath = [] :: d ∧
      ∀ reference, reference ≠ [] →
        Text.mergePaths page.base.segments.toText (Path.toText reference) =
          Path.toText ([] :: (d ++ reference)) := by
  have hflag := Url.contextRelative_of_parse hbase
  rcases hpath with hhead | ⟨hempty, hroot⟩
  · have hr := (Url.head_toText_iff hbase).1 hhead
    obtain ⟨p, hne, hp⟩ := Url.exists_of_isRooted hbase hr
    have hslash : ∀ s ∈ p, '/' ∉ s := fun s hs hc =>
      (Url.ne_of_mem_segments hbase (hp ▸ List.mem_cons_of_mem [] hs) hc).1 rfl
    have hpath : page.basePath = [] :: p := by
      rw [basePath, Url.isAnchored, hflag, hr, hp]
      rfl
    refine ⟨p.dropLast, fun s hs => hslash s (List.dropLast_subset _ hs), ?_, ?_⟩
    · rw [Path.directory, hpath, List.dropLast_cons_of_ne_nil hne]
      rfl
    · intro reference hr
      rw [hp, Path.mergePaths_toText hne hslash hr]
  · have hnil : page.base.segments = [] := by
      by_contra hne
      have := Path.ofText_toText ⟨hne, Url.segments_ne_root_of_parse hbase⟩ fun s hs hc =>
        (Url.ne_of_mem_segments hbase hs hc).1 rfl
      rw [hempty] at this
      exact hne this.symm
    have hpath : page.basePath = [[]] := by
      rw [basePath, Url.isAnchored, hflag, hnil, hroot]
      rfl
    refine ⟨[], by simp, by rw [hpath]; rfl, ?_⟩
    intro reference hr
    rw [hnil, List.nil_append, Path.toText_rooted, Path.slashed_eq_cons hr]
    rfl

/-- A target that is not marked replaces the path of the page behind a host or from the root. -/
theorem resolvedPath_eq {target : Url} (hflag : target.contextRelative = false) (page : Page) :
    page.resolvedPath target =
      if target.host.isSome = true ∨ target.segments.isRooted = true then target.segments.normalize
      else Path.merge page.basePath target.segments := by
  have hserver : (target.host.isSome || target.isServerPath) = true ↔
      target.host.isSome = true ∨ target.segments.isRooted = true := by
    cases hhost : target.host with
    | none => simp [Url.isServerPath, Url.isAnchored, hflag, hhost]
    | some host => simp
  rw [resolvedPath]
  split
  · next h => rw [if_pos (hserver.1 h)]
  · next h => rw [if_neg (by simp [hflag]), if_neg fun hr => h (hserver.2 hr)]

/-- A context-relative target without a host is put below the context path. -/
theorem resolvedPath_eq_mountedPath {target : Url} (hflag : target.contextRelative = true)
    (hhost : target.host = none) (page : Page) :
    page.resolvedPath target = page.mountedPath target := by
  have hserver : target.isServerPath = false := by simp [Url.isServerPath, Url.isAnchored, hflag]
  simp [resolvedPath, hhost, hserver, hflag]

/-- The three ways of an address that has been read: from the root of a server, a host without a
path, and a path seen from the directory of the page. -/
theorem resolvedPath_cases {input : Text} {target : Url} (htarget : Url.parse input = .ok target)
    (page : Page) :
    (∃ p, p ≠ [] ∧ target.segments = [] :: p ∧
        page.resolvedPath target = Path.normalize ([] :: p)) ∨
      (target.host.isSome = true ∧ target.segments = [] ∧ page.resolvedPath target = []) ∨
      (target.host = none ∧ target.segments.isRooted = false ∧ page.resolvedPath target =
        Path.normalize (Path.directory page.basePath ++ target.segments)) := by
  rw [resolvedPath_eq (Url.contextRelative_of_parse htarget)]
  rcases Bool.eq_false_or_eq_true target.segments.isRooted with hr | hr
  · obtain ⟨p, hp, he⟩ := Url.exists_of_isRooted htarget hr
    exact Or.inl ⟨p, hp, he, by rw [if_pos (Or.inr hr), he]⟩
  · rcases Bool.eq_false_or_eq_true target.host.isSome with hhost | hhost
    · have hnil : target.segments = [] :=
        (Url.segments_of_host htarget hhost).resolve_right (by simp [hr])
      exact Or.inr (Or.inl ⟨hhost, hnil, by rw [if_pos (Or.inl hhost), hnil]; rfl⟩)
    · refine Or.inr (Or.inr ⟨by simpa using hhost, hr, ?_⟩)
      rw [if_neg (by simp [hhost, hr]), Path.merge_of_not_rooted hr]

/-- The path of a resolved target, as the standard computes it. -/
theorem locatedText_resolvedPath {a b : Text} {page : Page} {target : Url}
    (hbase : Url.parse a = .ok page.base)
    (hpath : page.base.segments.toText.head? = some '/' ∨
      page.base.segments.toText = [] ∧ page.mount = .root)
    (htarget : Url.parse b = .ok target)
    (hne : target.host.isSome = true ∨ target.segments.toText ≠ []) :
    (page.resolvedPath target).locatedText = (Url.componentsFrom page.base target).path := by
  have hslash : ∀ s ∈ target.segments, '/' ∉ s := fun s hs hc =>
    (Url.ne_of_mem_segments htarget hs hc).1 rfl
  have hhead := Url.head_toText_iff htarget
  show _ = Text.removeDotSegments (if _ then _ else _)
  rcases resolvedPath_cases htarget page with
    ⟨p, hp, he, hresolved⟩ | ⟨hhost, hnil, hresolved⟩ | ⟨hhost, hr, hresolved⟩
  · rw [hresolved, if_pos (Or.inr (hhead.2 (by rw [he]; rfl))), he]
    exact Path.locatedText_normalize hp fun s hs => hslash s (he ▸ List.mem_cons_of_mem [] hs)
  · rw [hresolved, if_pos (Or.inl hhost), hnil]
    simp [Path.toText, Path.locatedText, Text.removeDotSegments, Text.removeDots]
  · have htext : target.segments ≠ [] := by
      intro he
      simp [hhost, he, Path.toText] at hne
    obtain ⟨d, hd, hdir, hmerge⟩ := exists_directory hbase hpath
    have hp : d ++ target.segments ≠ [] := by simp [htext]
    rw [hresolved, if_neg (by simp [hhost, hhead, hr]), hmerge _ htext, hdir, List.cons_append]
    refine Path.locatedText_normalize hp fun s hs => ?_
    rcases List.mem_append.1 hs with hs | hs
    · exact hd s hs
    · exact hslash s hs

/-- Resolving a target that has a host or a path is reference resolution by the standard. -/
theorem resolve_eq_recompose {a b : Text} {base target : Url} {mount : Mount}
    (hbase : Url.parse a = .ok base) (hfull : base.isFull = true)
    (hpath : base.segments.toText.head? = some '/' ∨ base.segments.toText = [] ∧ mount = .root)
    (htarget : Url.parse b = .ok target)
    (hne : target.host.isSome = true ∨ target.segments.toText ≠ []) :
    ((⟨base, mount⟩ : Page).resolve target).value =
      (Url.componentsFrom base target).recompose := by
  have hpathText := @locatedText_resolvedPath a b ⟨base, mount⟩ target hbase hpath htarget hne
  obtain ⟨-, hbaseHost⟩ := Bool.and_eq_true_iff.1 hfull
  -- the address that host and port are taken from
  obtain ⟨host, hhost⟩ := Option.isSome_iff_exists.1
    (show (if target.host.isSome then target else base).host.isSome = true by
      split
      · assumption
      · exact hbaseHost)
  have hport : (if target.host.isSome then target.port else target.port <|> base.port) =
      (if target.host.isSome then target else base).port := by
    cases ht : target.host with
    | some h => rfl
    | none => simp [(Url.eq_none_of_parse htarget ht).2]
  have hhost' : (target.host <|> base.host) = some host := by
    cases ht : target.host with
    | some h => simpa [ht] using hhost
    | none => simpa [ht] using hhost
  rw [resolve_some hhost', hport, hpathText, printOrigin_eq _ _ host hhost, Url.suffix]
  simp [Components.recompose, Url.componentsFrom]

/-- A climb above the root, with the default port of the base and a parameter of the target. -/
theorem resolve_eq_recompose_climb :
    (Url.componentsFrom
      { scheme := some "http".toList, host := some "h".toList, port := some 80
        segments := [[], ['a'], ['b']] }
      { segments := [Path.up, Path.up, ['c']], query := [⟨['x'], ['1']⟩] }).recompose =
        "http://h/c?x=1".toList := by
  refine (@resolve_eq_recompose "http://h:80/a/b".toList "../../c?x=1".toList _ _ .root (by rfl)
    (by rfl) (Or.inl (by rfl)) (by rfl) (Or.inr (by decide))).symm.trans ?_
  rfl

end Page

end Hyperlink
