import Hyperlink.Proofs.ContextRelative
import Hyperlink.Proofs.LinkOrigin

/-!
Targets with any text in them.

Nothing is checked when an address is put together, so its segments, query and fragment may hold
slashes, colons, blanks or whole addresses. Still no such text gets out of its place: a relative
link is read as a relative path (`parse_relativeLink_relative`), and an address resolved for a
target without a host is read with the host of the page (`parse_resolve_hostless`).
-/

namespace Hyperlink

namespace Path

/-- The first segment of a text ends where the first `/` stands. -/
theorem head?_ofText {s t : Text} (hs : '/' ∉ s) (hne : s ≠ []) (ht : ∀ c ∈ t.head?, c = '/') :
    (ofText (s ++ t)).head? = some s := by
  cases t with
  | nil =>
    have htext : s ++ [] = toText [s] := by simp [toText]
    rw [htext, ofText_toText (by simpa using hne) (by simpa using hs)]
    rfl
  | cons c t =>
    obtain rfl : c = '/' := ht c rfl
    have htext : s ++ '/' :: t = toText (s :: t.splitOn '/') := by
      rw [toText_cons, slashed_eq_cons (List.splitOn_ne_nil _ _), toText, List.intercalate_splitOn]
    have hslash : ∀ r ∈ s :: t.splitOn '/', '/' ∉ r := by
      intro r hr
      rcases List.mem_cons.1 hr with rfl | hr
      · exact hs
      · exact not_mem_of_mem_splitOn hr
    have hlong : s :: t.splitOn '/' ≠ [] ∧ s :: t.splitOn '/' ≠ [[]] := by simp [hne]
    rw [htext, ofText_toText hlong hslash]
    rfl

theorem closeUp_eq (s : Text) : ∃ mark, closeUp s = s ++ mark := by
  unfold closeUp
  split
  · exact ⟨['/'], rfl⟩
  · exact ⟨[], (List.append_nil s).symm⟩

/-- Whatever the segments hold, the text of a reference starts with a dot segment. -/
theorem exists_relative_text (base target : Path) : ∃ dots tail, (dots = here ∨ dots = up) ∧
    relative base target = dots ++ tail ∧ ∀ c ∈ tail.head?, c = '/' := by
  have hclosed (dots rest : Text) : ∃ tail, closeUp (dots ++ '/' :: rest) = dots ++ tail ∧
      ∀ c ∈ tail.head?, c = '/' := by
    obtain ⟨mark, hmark⟩ := closeUp_eq (dots ++ '/' :: rest)
    exact ⟨'/' :: (rest ++ mark), by rw [hmark]; simp, by simp⟩
  unfold relative
  generalize diverge base.dropLast target.dropLast = parts
  obtain ⟨above, below⟩ := parts
  dsimp only
  generalize below.flatMap (· ++ ['/']) ++ target.getLastD [] = rest
  split
  · obtain ⟨tail, he, htail⟩ := hclosed here rest
    exact ⟨here, tail, Or.inl rfl, he, htail⟩
  · cases above with
    | nil =>
      rw [if_pos rfl]
      split
      · exact ⟨here, [], Or.inl rfl, rfl, by simp⟩
      · obtain ⟨tail, he, htail⟩ := hclosed here rest
        exact ⟨here, tail, Or.inl rfl, he, htail⟩
    | cons s above =>
      obtain ⟨tail, he, htail⟩ := hclosed up (above.flatMap (fun _ => "../".toList) ++ rest)
      exact ⟨up, tail, Or.inr rfl, he, htail⟩

end Path

namespace Page

/-- Every relative link is a reference between two paths, with query and fragment behind it. -/
theorem exists_relativeLink_value (page : Page) (target : Url) : ∃ base path,
    (page.relativeLink target).value = Path.relative base path ++ target.suffix := by
  cases hflag : target.contextRelative with
  | false => exact ⟨_, _, relativeLink_value hflag page⟩
  | true => exact ⟨_, _, relativeLink_value_of_contextRelative hflag page⟩

/-- A relative link to any target is read as a relative path that starts with a dot segment, never
as a scheme, an authority or a path from the root of the server. -/
theorem parse_relativeLink_relative (page : Page) (target : Url) :
    ∃ v, Url.parse (page.relativeLink target).value = .ok v ∧
      v.scheme = none ∧ v.host = none ∧ v.port = none ∧
      (v.segments.head? = some Path.here ∨ v.segments.head? = some Path.up) := by
  obtain ⟨base, path, hlink⟩ := exists_relativeLink_value page target
  obtain ⟨dots, tail, hdots, htext, htail⟩ := Path.exists_relative_text base path
  have hends : Url.EndsAuthority (tail ++ target.suffix) := Url.endsAuthority_suffix htail target
  have hread : Url.parse (page.relativeLink target).value =
      .ok (Url.ofTail none none none (dots ++ Text.cleanEnd (tail ++ target.suffix))) := by
    rw [hlink, htext, List.append_assoc, Url.parse_dots_append hdots hends]
  -- the path in front of the query is the dot segment with nothing or a `/` behind it
  have hfirst : (Path.ofText (Url.tailPath (dots ++ Text.cleanEnd (tail ++ target.suffix)))).head? =
      some dots := by
    have hfree : (∀ c ∈ dots, c ≠ '?' ∧ c ≠ '#') ∧ '/' ∉ dots ∧ dots ≠ [] := by
      rcases hdots with rfl | rfl <;> simp [Path.here, Path.up]
    rw [Url.tailPath_append hfree.1]
    exact Path.head?_ofText hfree.2.1 hfree.2.2 hends.cleanEnd.head_path
  refine ⟨_, hread, rfl, rfl, rfl, ?_⟩
  rcases hdots with rfl | rfl
  · exact Or.inl hfirst
  · exact Or.inr hfirst

/-- A target without a host stays on the host of the page, whatever else is in it. It can change the
scheme and the port, and no port is written that the scheme means anyway. -/
theorem parse_resolve_hostless {a : Text} {base target : Url} (mount : Mount)
    (hbase : Url.parse a = .ok base) (hfull : base.host.isSome = true)
    (hcolon : base.BracketsColon) (hhost : target.host = none)
    (hscheme : ∀ s ∈ target.scheme, Scheme.isValid s = true) :
    ∃ v, Url.parse ((⟨base, mount⟩ : Page).resolve target).value = .ok v ∧
      v.host = base.host ∧ v.scheme = (target.scheme <|> base.scheme) ∧
      v.port =
        if (target.port <|> base.port) =
            (Scheme.kindOf (target.scheme <|> base.scheme)).defaultPort then none
        else (target.port <|> base.port) := by
  obtain ⟨host, hown⟩ := Option.isSome_iff_exists.1 hfull
  have hread := @parse_resolve_some ⟨base, mount⟩ target host
    (forall_mem_orElse hscheme (Url.isValid_scheme_of_parse hbase)) (by rw [hhost, hown]; rfl)
    (Url.isValid_host_of_parse hbase host hown) (hcolon host hown)
  refine ⟨_, hread, hown.symm, rfl, ?_⟩
  rw [hhost]
  rfl

/-- Segments with slashes, an address, separators and line ends in them, and the default port of
another scheme. -/
theorem parse_resolve_hostless_slashes :
    ∃ v, Url.parse ((⟨{ scheme := some "http".toList, host := some ['h'], port := some 8080
                        segments := [[], ['a']] }, .ofTexts "/ctx".toList []⟩ : Page).resolve
        { scheme := some "HTTPS".toList, port := some 443
          segments := ["//u@evil:1/".toList, "http://x?#\n".toList]
          fragment := some "\t ".toList }).value = .ok v ∧
      v.host = some ['h'] ∧ v.scheme = some "HTTPS".toList ∧ v.port = none :=
  @parse_resolve_hostless "http://h:8080/a".toList _ _ _ (by rfl) rfl (by simp [Url.BracketsColon])
    rfl (by decide)

end Page

end Hyperlink
