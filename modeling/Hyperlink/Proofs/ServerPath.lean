import Hyperlink.Proofs.Mounted

/-!
Resolving where nobody has a host.

A target without a host, seen from a page without one, is resolved to a path from the root of the
server. The text of that path is read back as a path, unless an empty segment stands right behind
the root marker and another one follows: then the text starts with `//`, which is read as the start
of an authority (`serverPath_resolve_iff`).
-/

namespace Hyperlink

/-! ### Texts from the root -/

namespace Url

theorem tailPath_cons {c : Char} (h : c ≠ '?' ∧ c ≠ '#') (s : Text) :
    tailPath (c :: s) = c :: tailPath s :=
  @tailPath_append [c] (by simpa using h) s

/-- A text from the root without tabs and line ends is read as a path exactly when it does not start
with a second `/`. -/
theorem parse_slash_iff {text : Text} (htab : ∀ c ∈ text, Text.isTabOrLineEnd c = false) :
    (∃ v, parse ('/' :: text) = .ok v ∧ v.host = none ∧ v.scheme = none ∧
        v.segments.isRooted = true) ↔ ∀ t, text ≠ '/' :: t := by
  have hfront : tailPath (Text.clean ('/' :: text)) = '/' :: tailPath (Text.cleanEnd text) := by
    rw [Text.clean_cons (by decide), tailPath_cons (by decide)]
  constructor
  · rintro ⟨v, hv, hhost, -, -⟩ t rfl
    obtain ⟨-, -, hne⟩ := front_of_parse hv hhost
    rw [hfront, Text.cleanEnd_cons (by decide), tailPath_cons (by decide)] at hne
    exact hne _ rfl
  · intro hne
    have hsecond : ∀ t, tailPath (Text.cleanEnd text) ≠ '/' :: t := by
      intro t ht
      have hhead : '/' ∈ (Text.cleanEnd text).head? := head?_tailPath (by rw [ht]; rfl)
      obtain ⟨x, hx⟩ := List.head?_eq_some_iff.1 hhead
      obtain ⟨rest, hrest⟩ := Text.cleanEnd_prefix htab
      exact hne (x ++ rest) (by rw [← hrest, hx]; rfl)
    obtain ⟨p, -, hp⟩ := Path.ofText_slash (tailPath (Text.cleanEnd text))
    refine ⟨_, parse_path ?_ ?_, rfl, rfl, ?_⟩
    · rw [hfront]
      rfl
    · rw [hfront]
      intro t ht
      exact hsecond t (List.cons.inj ht).2
    · show (Path.ofText (tailPath (Text.clean ('/' :: text)))).isRooted = true
      rw [hfront, hp]
      rfl

end Url

/-! ### Resolved paths -/

namespace Path

theorem isRooted_normalize {p : Path} (h : p.isRooted = true) : (normalize p).isRooted = true := by
  obtain ⟨q, rfl⟩ := exists_of_isRooted h
  rfl

/-- Whatever is merged onto a path from the root is a path from the root. -/
theorem isRooted_merge {base : Path} (h : base.isRooted = true) (reference : Path) :
    (merge base reference).isRooted = true := by
  rcases Bool.eq_false_or_eq_true reference.isRooted with hr | hr
  · rw [merge, if_pos hr]
    exact isRooted_normalize hr
  · obtain ⟨p, rfl⟩ := exists_of_isRooted h
    rw [merge_of_not_rooted hr, directory_rooted]
    rfl

theorem mem_normalize {s : Text} {p : Path} (h : s ∈ normalize p) : s ∈ p ∨ s = [] := by
  unfold normalize at h
  split at h
  · rcases List.mem_cons.1 h with rfl | h
    · exact Or.inr rfl
    · exact ((mem_walk _ _ h).resolve_left (by simp)).imp_left fun h => (unrooted_suffix p).subset h
  · exact (mem_walk _ _ h).resolve_left (by simp)

theorem mem_directory {s : Text} {p : Path} (h : s ∈ directory p) : s ∈ p ∨ s = [] := by
  unfold directory at h
  split at h
  · exact Or.inr (by simpa using h)
  · exact Or.inl (List.dropLast_subset p h)

theorem mem_merge {s : Text} {base reference : Path} (h : s ∈ merge base reference) :
    s ∈ base ∨ s ∈ reference ∨ s = [] := by
  rcases Bool.eq_false_or_eq_true reference.isRooted with hr | hr
  · rw [merge, if_pos hr] at h
    exact Or.inr (mem_normalize h)
  · rw [merge_of_not_rooted hr] at h
    rcases mem_normalize h with h | rfl
    · rcases List.mem_append.1 h with h | h
      · exact (mem_directory h).imp_right Or.inr
      · exact Or.inr (Or.inl h)
    · exact Or.inr (Or.inr rfl)

/-- A path from the root is written with `//` in front when an empty segment stands behind the root
marker, and another one behind that. -/
theorem toRootedText_append_eq_slashes_iff {p : Path} (hp : ∀ s ∈ p, '/' ∉ s) {tail : Text}
    (htail : ∀ t, tail ≠ '/' :: t) :
    (∃ t, toRootedText ([] :: p) ++ tail = '/' :: '/' :: t) ↔
      ∃ rest, rest ≠ [] ∧ p = [] :: rest := by
  cases p with
  | nil => simp [toRootedText, htail]
  | cons s p =>
    have htext : toRootedText ([] :: s :: p) = slashed (s :: p) := toText_rooted (s :: p)
    rw [htext, slashed_append_eq_slashes_iff hp htail]

theorem exists_toRootedText_rooted (p : Path) : ∃ text, toRootedText ([] :: p) = '/' :: text := by
  cases p with
  | nil => exact ⟨[], rfl⟩
  | cons s p => exact ⟨s ++ slashed p, toText_rooted (s :: p)⟩

theorem mem_toRootedText {p : Path} {c : Char} (h : c ∈ toRootedText p) :
    (∃ s ∈ p, c ∈ s) ∨ c = '/' := by
  unfold toRootedText at h
  split at h
  · exact Or.inr (by simpa using h)
  · exact Or.inr (by simpa using h)
  · split at h
    · exact mem_of_mem_toText h
    · rcases List.mem_cons.1 h with rfl | h
      · exact Or.inr rfl
      · exact mem_of_mem_toText h

end Path

namespace Page

variable {page : Page} {target : Url}

theorem isRooted_basePath (page : Page) : page.basePath.isRooted = true := by
  unfold basePath
  split
  · next h => exact (Bool.and_eq_true_iff.1 h).2
  · rfl

/-- Without a host of its own, a target is resolved to a path from the root. -/
theorem isRooted_resolvedPath (h : target.host = none) (page : Page) :
    (page.resolvedPath target).isRooted = true := by
  unfold resolvedPath
  split
  · next hc =>
    refine Path.isRooted_normalize ?_
    simp only [h, Url.isServerPath, Url.isAnchored] at hc
    exact (by simpa using hc : _ ∧ _).2
  · split
    · rfl
    · exact Path.isRooted_merge page.isRooted_basePath _

theorem mem_basePath {s : Text} (h : s ∈ page.basePath) :
    s ∈ page.base.segments ∨ s ∈ page.mount.path ∨ s = [] := by
  unfold basePath at h
  split at h
  · exact Or.inl h
  · rcases List.mem_append.1 h with h | h
    · exact Or.inr ((List.mem_cons.1 h).symm.imp_left fun h => page.mount.start_subset _ h)
    · exact Or.inl ((Path.unrooted_suffix _).subset h)

theorem mem_mountedPath {s : Text} (h : s ∈ page.mountedPath target) :
    s ∈ target.segments ∨ s ∈ page.mount.path ∨ s = [] := by
  unfold mountedPath at h
  rcases List.mem_append.1 h with h | h
  · exact Or.inr ((List.mem_cons.1 h).symm.imp_left fun h => page.mount.start_subset _ h)
  · exact (Path.mem_normalize h).imp (fun h => (Path.unrooted_suffix _).subset h) Or.inr

/-- Every segment of a resolved path comes from the target, the page or the mount point, but for
empty ones. -/
theorem mem_resolvedPath {s : Text} (h : s ∈ page.resolvedPath target) :
    s ∈ target.segments ∨ s ∈ page.base.segments ∨ s ∈ page.mount.path ∨ s = [] := by
  unfold resolvedPath at h
  split at h
  · exact (Path.mem_normalize h).imp_right fun h => Or.inr (Or.inr h)
  · split at h
    · exact (mem_mountedPath h).imp_right Or.inr
    · rcases Path.mem_merge h with h | h | h
      · exact Or.inr (mem_basePath h)
      · exact Or.inl h
      · exact Or.inr (Or.inr (Or.inr h))

/-- Without a host on either side the address is a path, with query and fragment. -/
theorem resolve_of_host_eq_none (hbase : page.base.host = none) (htarget : target.host = none) :
    (page.resolve target).value = (page.resolvedPath target).toRootedText ++ target.suffix := by
  rw [← appendSuffix_eq, resolve, Logged.render_value, hbase, htarget]
  rfl

/-! ### No way to a host -/

section Read

variable {a b : Text} (hbase : Url.parse a = .ok page.base) (htarget : Url.parse b = .ok target)
  (hmount : ∀ s ∈ page.mount.path, ∀ c ∈ s, Text.isTabOrLineEnd c = false)
include hbase htarget hmount

theorem ne_of_mem_resolvedPath {s : Text} (hs : s ∈ page.resolvedPath target) {c : Char}
    (hc : c ∈ s) : c ≠ '/' ∧ Text.isTabOrLineEnd c = false := by
  rcases mem_resolvedPath hs with hs | hs | hs | rfl
  · obtain ⟨hslash, -, -, htab⟩ := Url.ne_of_mem_segments htarget hs hc
    exact ⟨hslash, htab⟩
  · obtain ⟨hslash, -, -, htab⟩ := Url.ne_of_mem_segments hbase hs hc
    exact ⟨hslash, htab⟩
  · refine ⟨?_, hmount s hs c hc⟩
    rintro rfl
    exact (page.mount.isNames_path s hs).2 hc
  · simp at hc

/-- Where neither the page nor the target has a host, the address of the target is read back as a
path from the root of the server, unless an empty segment that is not the last comes first in it:
then what follows `//` is read as an authority. -/
theorem serverPath_resolve_iff (hbaseHost : page.base.host = none) (hhost : target.host = none) :
    (∃ v, Url.parse (page.resolve target).value = .ok v ∧ v.host = none ∧ v.scheme = none ∧
        v.segments.isRooted = true) ↔
      ∀ rest, rest ≠ [] → page.resolvedPath target ≠ [] :: [] :: rest := by
  have hchars := @ne_of_mem_resolvedPath page target a b hbase htarget hmount
  obtain ⟨p, hp⟩ := Path.exists_of_isRooted (isRooted_resolvedPath hhost page)
  rw [hp] at hchars
  have hslashes := @Path.toRootedText_append_eq_slashes_iff p
    (fun s hs hc => (hchars (List.mem_cons_of_mem _ hs) hc).1 rfl) target.suffix fun t ht => by
      simpa using Url.head?_suffix target '/' (by rw [ht]; rfl)
  have htab : ∀ c ∈ Path.toRootedText ([] :: p) ++ target.suffix,
      Text.isTabOrLineEnd c = false := by
    intro c hc
    rcases List.mem_append.1 hc with hc | hc
    · rcases Path.mem_toRootedText hc with ⟨s, hs, hc⟩ | rfl
      · exact (hchars hs hc).2
      · decide
    · exact (Url.wellFormed_of_parse htarget).isTabOrLineEnd_of_mem_suffix hc
  obtain ⟨text, htext⟩ := Path.exists_toRootedText_rooted p
  rw [resolve_of_host_eq_none hbaseHost hhost, hp, htext, List.cons_append]
  rw [htext, List.cons_append] at hslashes htab
  rw [Url.parse_slash_iff fun c hc => htab c (List.mem_cons_of_mem _ hc)]
  constructor
  · rintro hne rest hrest he
    obtain ⟨t, ht⟩ := hslashes.2 ⟨rest, hrest, (List.cons.inj he).2⟩
    exact hne t (List.cons.inj ht).2
  · rintro hne t ht
    obtain ⟨rest, hrest, he⟩ := hslashes.1 ⟨t, congrArg ('/' :: ·) ht⟩
    exact hne rest hrest (congrArg ([] :: ·) he)

end Read

/-- The page `shop/a` of an application at `/ctx` on a server without a known name. -/
def namelessPage : Page where
  base := { segments := ["shop".toList, ['a']] }
  mount := .ofTexts "/ctx".toList []

/-- The reference `..//./x`. -/
def emptySegment : Url := { segments := [Path.up, [], Path.here, ['x']] }

/-- An empty segment in the middle of the path is no obstacle. -/
theorem serverPath_resolve_below :
    ∃ v, Url.parse (namelessPage.resolve emptySegment).value = .ok v ∧
      v.host = none ∧ v.scheme = none ∧ v.segments.isRooted = true := by
  have hmount : ∀ s ∈ namelessPage.mount.path, ∀ c ∈ s, Text.isTabOrLineEnd c = false := by
    intro s hs c hc
    obtain rfl : s = ['c', 't', 'x'] := List.mem_singleton.1 hs
    simp only [List.mem_cons, List.not_mem_nil, or_false] at hc
    rcases hc with rfl | rfl | rfl <;> decide
  have hpath : namelessPage.resolvedPath emptySegment = [[], "ctx".toList, [], ['x']] := by decide
  refine (@serverPath_resolve_iff namelessPage emptySegment "shop/a".toList "..//./x".toList
    (by rfl) (by rfl) hmount rfl rfl).2 fun rest _ h => ?_
  rw [hpath] at h
  simp at h

/-- The path `/.//x` on a server without a known name is resolved to `//x`, and that names a
host. -/
theorem not_serverPath_resolve :
    ¬ ∀ (page : Page) (target : Url) (a b : Text), Url.parse a = .ok page.base →
      Url.parse b = .ok target →
      (∀ s ∈ page.mount.path, ∀ c ∈ s, c ≠ '?' ∧ c ≠ '#' ∧ Text.isTabOrLineEnd c = false) →
      page.base.host = none → target.host = none →
      ∃ v, Url.parse (page.resolve target).value = .ok v ∧ v.host = none ∧ v.scheme = none ∧
        v.segments.isRooted = true := by
  intro h
  obtain ⟨v, hv, hhost, -, -⟩ := h { base := { segments := [[], []] } }
    { segments := [[], Path.here, [], ['x']] } ['/'] "/.//x".toList (by rfl) (by rfl) (by decide)
    rfl rfl
  obtain rfl : ({ host := some ['x'] } : Url) = v := Except.ok.inj hv
  simp at hhost

end Page

/-! ### Without empty segments in between -/

namespace Path

/-- No segment but the root marker and the last one is empty. -/
def Compact (p : Path) : Prop := ∀ s ∈ p.unrooted.dropLast, s ≠ []

theorem mem_dropLast_append {s : Text} {p q : Path} (h : s ∈ (p ++ q).dropLast) :
    s ∈ p ∨ s ∈ q.dropLast := by
  rw [List.dropLast_append] at h
  split at h
  · exact Or.inl (List.dropLast_subset p h)
  · exact List.mem_append.1 h

/-- The last segment of a path stays the last one, whatever is left on the way to it. -/
theorem mem_dropLast_walk {s : Text} : ∀ (p entered : Path), s ∈ (walk entered p).dropLast →
    s ∈ entered ∨ s ∈ p.dropLast
  | [], entered, h => Or.inl (List.mem_reverse.1 (List.dropLast_subset _ h))
  | [t], entered, h => by
    obtain ⟨kept, last, hwalk, hkept, -⟩ := exists_walk_singleton entered t
    rw [hwalk, List.dropLast_concat] at h
    exact Or.inl (hkept.subset (List.mem_reverse.1 h))
  | t :: u :: p, entered, h => by
    rw [walk_cons _ _ (List.cons_ne_nil u p)] at h
    rcases mem_dropLast_walk (u :: p) _ h with h | h
    · unfold enter at h
      split at h
      · exact Or.inl h
      · split at h
        · exact Or.inl (List.mem_of_mem_tail h)
        · rcases List.mem_cons.1 h with rfl | h
          · exact Or.inr List.mem_cons_self
          · exact Or.inl h
    · exact Or.inr (List.mem_cons_of_mem t h)

theorem normalize_ne_of_compact {p : Path} (hr : p.isRooted = true) (h : p.Compact) {rest : Path}
    (hrest : rest ≠ []) : normalize p ≠ [] :: [] :: rest := by
  obtain ⟨q, rfl⟩ := exists_of_isRooted hr
  rw [normalize_rooted]
  intro he
  have hmem : ([] : Text) ∈ (walk [] q).dropLast := by
    rw [(List.cons.inj he).2, List.dropLast_cons_of_ne_nil hrest]
    exact List.mem_cons_self
  exact (mem_dropLast_walk q [] hmem).elim (by simp) fun hq => h [] hq rfl

end Path

namespace Page

variable {page : Page} {target : Url}

theorem compact_basePath (h : page.base.segments.Compact) : page.basePath.Compact := by
  unfold basePath
  split
  · exact h
  · intro s hs
    rcases Path.mem_dropLast_append hs with hs | hs
    · exact (page.mount.isNames_path s (page.mount.start_subset _ hs)).1
    · exact h s hs

/-- A page and a target without empty segments in between are resolved to a path that does not start
with two slashes. -/
theorem resolvedPath_ne_of_compact (hflag : target.contextRelative = false)
    (hhost : target.host = none) (hbase : page.base.segments.Compact)
    (htarget : target.segments.Compact) {rest : Path} (hrest : rest ≠ []) :
    page.resolvedPath target ≠ [] :: [] :: rest := by
  rw [resolvedPath_eq hflag]
  rcases Bool.eq_false_or_eq_true target.segments.isRooted with hr | hr
  · rw [if_pos (Or.inr hr)]
    exact Path.normalize_ne_of_compact hr htarget hrest
  · obtain ⟨p, hp⟩ := Path.exists_of_isRooted page.isRooted_basePath
    have hcompact : page.basePath.Compact := compact_basePath hbase
    rw [hp] at hcompact
    rw [if_neg (by simp [hhost, hr]), Path.merge_of_not_rooted hr, hp, Path.directory_rooted]
    refine Path.normalize_ne_of_compact rfl (fun s hs => ?_) hrest
    rcases Path.mem_dropLast_append hs with hs | hs
    · exact hcompact s hs
    · exact htarget s (by rwa [Path.unrooted_of_not_rooted hr])

end Page

end Hyperlink
