import Hyperlink.Proofs.Mounted

/-!
References without a path.

By RFC 3986 such a reference (`?q`, `#f` or nothing at all) names the resource of the page, so its
path is the path of the page. Here the last segment of that path is taken off as for any other
reference, and nothing is put in its place: what is named is the path without its last segment and
without the `/` before it. `resolve_empty_iff` says for which pages that is the same place.
-/

namespace Hyperlink

/-- Two addresses that differ in their paths alone have different texts. -/
theorem Components.recompose_path_inj (r : Components) (p q : Text) :
    ({ r with path := p } : Components).recompose = ({ r with path := q } : Components).recompose ↔
      p = q := by
  simp [recompose]

namespace Path

/-! ### The last segment of a path -/

/-- A path below the root that names a directory though no empty segment says so: the root itself,
or a dot segment at the end. -/
def EndsInDots (p : Path) : Prop := p = [] ∨ p.getLast? = some here ∨ p.getLast? = some up

/-- The last segment of a path below the root takes nowhere: it is `..` behind an empty segment, or
it stays in the directory that a dot segment before it, or the root, has named. -/
def LastIdle (p : Path) : Prop :=
  (p.getLast? = some up ∧ p.dropLast.getLast? = some []) ∨
    EndsInDots p.dropLast ∧
      (p.getLast? = some [] ∨ p.getLast? = some here ∨
        p.getLast? = some up ∧ (normalize ([] :: p.dropLast)).toRootedText = ['/'])

theorem walk_concat (dir : Path) (last : Text) :
    walk [] (dir ++ [last]) = walk (dir.foldl enter []) [last] :=
  walk_append (List.cons_ne_nil last []) dir []

/-- At the end of a path a dot segment leaves the directory it has named. -/
theorem orDirectory_walk_of_dots {dir : Path} (h : dir.EndsInDots) :
    (walk [] dir).orDirectory = (dir.foldl enter []).reverse ++ [[]] := by
  rcases h with rfl | h | h
  · rfl
  · obtain ⟨front, rfl⟩ := List.getLast?_eq_some_iff.1 h
    simp [walk_concat, walk_singleton_here, orDirectory]
  · obtain ⟨front, rfl⟩ := List.getLast?_eq_some_iff.1 h
    simp [walk_concat, walk_singleton_up, orDirectory]

/-- Any other segment at the end of a path is the last one entered. -/
theorem exists_orDirectory_walk {dir : Path} (h : ¬ dir.EndsInDots) : ∃ entered last,
    dir.getLast? = some last ∧ dir.foldl enter [] = last :: entered ∧
      (walk [] dir).orDirectory = entered.reverse ++ [last] := by
  obtain ⟨hne, hhere, hup⟩ : dir ≠ [] ∧ dir.getLast? ≠ some here ∧ dir.getLast? ≠ some up := by
    simpa [EndsInDots] using h
  obtain ⟨front, last, rfl⟩ := (List.eq_nil_or_concat dir).resolve_left hne
  rw [List.concat_eq_append] at hhere hup ⊢
  have hlast : last ≠ here ∧ last ≠ up := by simpa using And.intro hhere hup
  refine ⟨front.foldl enter [], last, by simp, ?_, ?_⟩
  · rw [List.foldl_append, List.foldl_cons, List.foldl_nil, enter_of_ne hlast]
  · rw [walk_concat, walk_singleton hlast, orDirectory, if_neg (by simp)]

theorem locatedText_cons_nil (p : Path) : locatedText ([] :: p) = slashed p.orDirectory := by
  cases p with
  | nil => rfl
  | cons s p => exact locatedText_rooted (List.cons_ne_nil s p)

theorem toRootedText_cons_nil (p : Path) : toRootedText ([] :: p) = slashed p.orDirectory := by
  rw [← locatedText_cons_nil]
  rfl

/-- A path that ends in dots normalizes to the root exactly when no segment is left entered. -/
theorem toRootedText_eq_root_iff {dir : Path} (h : dir.EndsInDots) :
    (normalize ([] :: dir)).toRootedText = ['/'] ↔ dir.foldl enter [] = [] := by
  rw [normalize_rooted, toRootedText_cons_nil, orDirectory_walk_of_dots h, slashed_append]
  constructor
  · intro htext
    have hnil : slashed (dir.foldl enter []).reverse = [] := by
      simpa using congrArg List.length htext
    cases hentered : (dir.foldl enter []).reverse with
    | nil => exact List.reverse_eq_nil_iff.1 hentered
    | cons s entered => simp [hentered] at hnil
  · intro hentered
    rw [hentered]
    rfl

/-- A path from the root without its last segment names what the whole path does exactly when the
last segment takes nowhere. -/
theorem orDirectory_walk_eq_iff (dir : Path) (last : Text) :
    (walk [] dir).orDirectory = walk [] (dir ++ [last]) ↔ LastIdle (dir ++ [last]) := by
  have hdots : here ≠ up := by decide
  rw [walk_concat, LastIdle, List.getLast?_concat, List.dropLast_concat]
  by_cases h : dir.EndsInDots
  · have hlast : dir.getLast? ≠ some [] := by
      rcases h with rfl | h | h <;> simp [*, here, up]
    rw [orDirectory_walk_of_dots h, toRootedText_eq_root_iff h]
    generalize dir.foldl enter [] = entered
    rcases eq_or_ne last here with rfl | hhere
    · rw [walk_singleton_here, walk_singleton_nil]
      simp [h]
    · rcases eq_or_ne last up with rfl | hup
      · rw [walk_singleton_up, walk_singleton_nil]
        have hnil : up ≠ [] := by decide
        cases entered <;> simp [h, hlast, hdots.symm, hnil]
      · rw [walk_singleton ⟨hhere, hup⟩]
        simp [h, hhere, hup, eq_comm]
  · obtain ⟨entered, own, hown, hentered, hwalk⟩ := exists_orDirectory_walk h
    rw [hwalk, hentered, hown]
    rcases eq_or_ne last here with rfl | hhere
    · rw [walk_singleton_here, walk_singleton_nil]
      simp [h, hdots]
    · rcases eq_or_ne last up with rfl | hup
      · rw [walk_singleton_up, walk_singleton_nil]
        simp [h]
      · rw [walk_singleton ⟨hhere, hup⟩]
        simp [h, hup]

/-- The text of a path from the root after its dot segments are taken out, also for a bare root. -/
theorem removeDotSegments_toRootedText {p : Path} (hslash : ∀ s ∈ p, '/' ∉ s) :
    Text.removeDotSegments (toRootedText ([] :: p)) = slashed (walk [] p).orDirectory := by
  cases p with
  | nil => simp [toRootedText, Text.removeDotSegments, Text.removeDots, walk, orDirectory]
  | cons s p =>
    have hne : s :: p ≠ [] := List.cons_ne_nil s p
    have hwalk : (walk [] (s :: p)).orDirectory = walk [] (s :: p) := if_neg (walk_ne_nil hne [])
    have htext : toRootedText ([] :: s :: p) = toText ([] :: s :: p) := rfl
    rw [htext, Text.removeDotSegments_toText hne hslash, normalize_rooted, toText_rooted, hwalk]

end Path

namespace Page

variable {a b : Text} {base target : Url} (mount : Mount)

/-- A target without a host brings its path, query and fragment to the origin of the page. -/
theorem resolve_hostless (hfull : base.isFull = true) (htarget : Url.parse b = .ok target)
    (hhost : target.host = none) :
    ((⟨base, mount⟩ : Page).resolve target).value =
      ({ Url.componentsFrom base target with
          path := ((⟨base, mount⟩ : Page).resolvedPath target).locatedText } :
        Components).recompose := by
  obtain ⟨hscheme, hport⟩ := Url.eq_none_of_parse htarget hhost
  obtain ⟨host, hown⟩ := Option.isSome_iff_exists.1 (Bool.and_eq_true_iff.1 hfull).2
  have hhost' : (target.host <|> base.host) = some host := by rw [hhost, hown]; rfl
  have hscheme' : (target.scheme <|> base.scheme) = base.scheme := by rw [hscheme]; rfl
  have hport' : (if target.host.isSome then target.port else target.port <|> base.port) =
      base.port := by rw [hhost, hport]; rfl
  rw [resolve_some hhost', hscheme', hport', printOrigin_eq base.scheme base host hown,
    Url.suffix]
  simp [Components.recompose, Url.componentsFrom, hscheme', hhost]

/-- Without a path, what is named is the directory of the page, written without a `/` at its end. -/
theorem resolvedPath_empty {p : Path} (hbase : Url.parse a = .ok base)
    (hsegments : base.segments = [] :: p) (htarget : Url.parse b = .ok target)
    (hhost : target.host = none) (hempty : target.segments = []) :
    (⟨base, mount⟩ : Page).resolvedPath target = Path.normalize ([] :: p.dropLast) := by
  have hflag := Url.contextRelative_of_parse hbase
  have hpath : (⟨base, mount⟩ : Page).basePath = [] :: p := by
    rw [basePath, if_pos (by simp [Url.isAnchored, hflag, hsegments, Path.isRooted]), hsegments]
  rw [resolvedPath_eq (Url.contextRelative_of_parse htarget), hhost, hempty,
    if_neg (by simp [Path.isRooted]), Path.merge_of_not_rooted rfl, hpath, Path.directory_rooted,
    List.append_nil]

/-- A reference without a path is resolved to the path of the page without its last segment and the
`/` before it, dot segments taken out. That is the path of the page itself exactly when its last
segment takes nowhere. -/
theorem resolve_empty_iff (hbase : Url.parse a = .ok base) (hfull : base.isFull = true)
    (hpath : base.segments.toText.head? = some '/') (htarget : Url.parse b = .ok target)
    (hhost : target.host = none) (hempty : target.segments = []) :
    ((⟨base, mount⟩ : Page).resolve target).value =
        ({ Url.componentsFrom base target with
            path := Text.removeDotSegments (Path.toRootedText base.segments.dropLast) } :
          Components).recompose ∧
      (((⟨base, mount⟩ : Page).resolve target).value =
          ({ Url.componentsFrom base target with
              path := Text.removeDotSegments base.segments.toText } : Components).recompose ↔
        Path.LastIdle base.segments.unrooted) := by
  obtain ⟨p, hne, hsegments⟩ :=
    Url.exists_of_isRooted hbase ((Url.head_toText_iff hbase).1 hpath)
  have hslash : ∀ s ∈ p, '/' ∉ s := fun s hs hc =>
    (Url.ne_of_mem_segments hbase (hsegments ▸ List.mem_cons_of_mem [] hs) hc).1 rfl
  obtain ⟨dir, last, rfl⟩ := (List.eq_nil_or_concat p).resolve_left hne
  rw [List.concat_eq_append] at hsegments hslash hne
  have hdir : ∀ s ∈ dir, '/' ∉ s := fun s hs => hslash s (List.mem_append_left [last] hs)
  -- three paths: the one resolved, the one named, and the whole one of the page
  have hresolved := resolvedPath_empty mount hbase hsegments htarget hhost hempty
  rw [List.dropLast_concat] at hresolved
  have hnamed : base.segments.dropLast = [] :: dir := by
    rw [hsegments, ← List.cons_append, List.dropLast_concat]
  have hwhole : Text.removeDotSegments base.segments.toText =
      Path.slashed (Path.walk [] (dir ++ [last])) := by
    rw [hsegments, Text.removeDotSegments_toText hne hslash, Path.normalize_rooted,
      Path.toText_rooted]
  have hvalue := resolve_hostless mount hfull htarget hhost
  rw [hresolved, Path.normalize_rooted, Path.locatedText_cons_nil] at hvalue
  rw [hvalue, hnamed, Path.removeDotSegments_toRootedText hdir, hwhole, hsegments]
  refine ⟨rfl, ?_⟩
  have hentered : ∀ s ∈ (Path.walk [] dir).orDirectory, '/' ∉ s := by
    intro s hs
    rcases Path.mem_orDirectory hs with hs | rfl
    · exact Path.slash_not_mem_walk hdir s hs
    · simp
  rw [Components.recompose_path_inj, Path.slashed_inj (Path.orDirectory_ne_nil _)
    (Path.walk_ne_nil hne []) hentered (Path.slash_not_mem_walk hslash)]
  exact Path.orDirectory_walk_eq_iff dir last

/-- An empty segment behind a dot segment takes nowhere: the page is named, without its default
port. -/
theorem resolve_empty_dots :
    ({ Url.componentsFrom
        { scheme := some "http".toList, host := some ['h'], port := some 80
          segments := [[], ['a'], ['b'], Path.up, []] }
        { query := [⟨['q'], []⟩], fragment := some ['f'] } with
        path := Text.removeDotSegments "/a/b/../".toList } : Components).recompose =
      "http://h/a/?q#f".toList := by
  obtain ⟨-, hiff⟩ := @resolve_empty_iff "http://h:80/a/b/../".toList "?q#f".toList _ _ .root
    (by rfl) rfl (by decide) (by rfl) rfl rfl
  exact (hiff.2 (Or.inr ⟨Or.inr (Or.inr rfl), Or.inl rfl⟩)).symm

/-- A query alone does not name the resource of the page, nor its directory. -/
theorem not_resolve_empty :
    ¬ ∀ (a b : Text) (base target : Url) (mount : Mount), Url.parse a = .ok base →
      base.isFull = true → base.segments.toText.head? = some '/' → Url.parse b = .ok target →
      target.host = none → target.segments = [] →
      ((⟨base, mount⟩ : Page).resolve target).value =
        ({ Url.componentsFrom base target with
            path := Text.removeDotSegments base.segments.toText } : Components).recompose := by
  intro h
  have hpath : Text.removeDotSegments "/a/b".toList = "/a/b".toList :=
    @Text.removeDotSegments_toText [['a'], ['b']] (by decide) (by decide)
  have hresolve := h "http://h/a/b".toList "?q".toList
    { scheme := some "http".toList, host := some ['h'], segments := [[], ['a'], ['b']] }
    { query := [⟨['q'], []⟩] } .root (by rfl) rfl (by decide) (by rfl) rfl rfl
  have hwhole : (Path.toText [[], ['a'], ['b']]) = "/a/b".toList := by decide
  rw [hwhole, hpath] at hresolve
  exact absurd hresolve (by decide)

end Page

end Hyperlink
