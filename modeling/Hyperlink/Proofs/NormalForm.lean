import Hyperlink.Proofs.FullTarget
import Hyperlink.Proofs.Trail

/-!
Which full addresses resolving leaves as they are.

An address is written in two ways: as it is, and resolved against a page. For an address with scheme
and host the two give one text exactly when it is normal, whatever the page
(`resolve_eq_print_iff`). A dot segment or a default port that resolving takes out is never made up
for behind it: what follows the host starts with a `/` or ends the path, so a port that is left out
shows, and paths with different segments have different texts.
-/

namespace Hyperlink

namespace Path

/-- Taking out the dot segments leaves a path from the root as it is written only when there are
none. -/
theorem locatedText_normalize_eq_iff {p : Path} (hne : p ≠ []) (hslash : ∀ s ∈ p, '/' ∉ s) :
    locatedText (normalize ([] :: p)) = locatedText ([] :: p) ↔ DotFree p := by
  rw [normalize_rooted, locatedText_rooted (walk_ne_nil hne []), locatedText_rooted hne,
    slashed_inj (walk_ne_nil hne []) hne (slash_not_mem_walk hslash) hslash]
  constructor
  · intro h
    exact h ▸ dotFree_walk p dotFree_nil
  · intro h
    exact walk_of_dotFree h []

end Path

namespace Page

variable {input : Text} {target : Url}

/-- A default port stands in the printed address where the resolved one goes on with a separator. -/
theorem defaultPort_ne_of_resolve (hfull : target.isFull = true) {page : Page}
    (h : (page.resolve target).value = target.print) :
    ∀ p ∈ target.port, target.kind.defaultPort ≠ some p := by
  intro port hport hdefault
  obtain ⟨hscheme, hhost⟩ := Bool.and_eq_true_iff.1 hfull
  obtain ⟨scheme, hscheme⟩ := Option.isSome_iff_exists.1 hscheme
  obtain ⟨host, hhost⟩ := Option.isSome_iff_exists.1 hhost
  have hleft : target.kind.explicitPort target.port = none := if_pos (hport.trans hdefault.symm)
  have hends := Url.endsAuthority_suffix (page.resolvedPath target).head?_locatedText target
  rw [resolve_full hscheme hhost, hleft, Url.print_eq, hscheme, hhost, Option.mem_def.1 hport,
    Url.printOrigin_port (some scheme) host (some port), List.append_assoc, List.append_assoc,
    List.append_cancel_left_eq] at h
  rw [h] at hends
  exact absurd (hends ':' rfl) (by decide)

section Read

variable (htarget : Url.parse input = .ok target)
include htarget

/-- Behind a host, the path of an address is written as it is only without dot segments. -/
theorem locatedText_resolvedPath_eq_iff (hhost : target.host.isSome = true) (page : Page) :
    (page.resolvedPath target).locatedText = target.segments.locatedText ↔
      Path.DotFree target.segments := by
  have hpath : page.resolvedPath target = target.segments.normalize := by
    rw [resolvedPath, if_pos (by simp [hhost])]
  rw [hpath]
  rcases Url.segments_of_host htarget hhost with hnil | hr
  · rw [hnil]
    exact ⟨fun _ => Path.dotFree_nil, fun _ => rfl⟩
  · obtain ⟨p, hne, hp⟩ := Url.exists_of_isRooted htarget hr
    have hslash : ∀ s ∈ p, '/' ∉ s := fun s hs hc =>
      (Url.ne_of_mem_segments htarget (hp ▸ List.mem_cons_of_mem [] hs) hc).1 rfl
    rw [hp, Path.locatedText_normalize_eq_iff hne hslash, Path.dotFree_rooted]

/-- An address with scheme and host is resolved to its own text exactly when none of its segments is
a dot segment and its port is not the one that its scheme means. -/
theorem resolve_eq_print_iff (hfull : target.isFull = true) (page : Page) :
    (page.resolve target).value = target.print ↔
      Path.DotFree target.segments ∧ ∀ p ∈ target.port, target.kind.defaultPort ≠ some p := by
  obtain ⟨hschemeSome, hhostSome⟩ := Bool.and_eq_true_iff.1 hfull
  have hpath := Url.segments_of_host htarget hhostSome
  constructor
  · intro h
    have hport := defaultPort_ne_of_resolve hfull h
    obtain ⟨scheme, hscheme⟩ := Option.isSome_iff_exists.1 hschemeSome
    obtain ⟨host, hhost⟩ := Option.isSome_iff_exists.1 hhostSome
    -- both start with the same origin and end in the same suffix
    rw [resolve_full hscheme hhost, Scheme.Kind.explicitPort_of_ne hport, Url.print_eq,
      Url.printPath_eq_locatedText hpath, hscheme, hhost, List.append_assoc,
      List.append_cancel_left_eq, List.append_cancel_right_eq,
      locatedText_resolvedPath_eq_iff htarget hhostSome] at h
    exact ⟨h, hport⟩
  · rintro ⟨hdot, hport⟩
    exact Url.Normal.resolve_eq_print ⟨hfull, hpath, hdot, hport⟩ page

end Read

/-- Empty segments, segments with dots in them and the default port of another scheme are left as
they are. -/
theorem resolve_eq_print_dots :
    ((⟨{ scheme := some "http".toList, host := some ['g'], port := some 80
         segments := [[], ['a'], ['b']] }, .ofTexts "/ctx".toList []⟩ : Page).resolve
      { scheme := some "HTTPS".toList, host := some ['h'], port := some 80
        segments := [[], [], "..x".toList, [], "...".toList, []]
        query := [⟨['q'], []⟩] }).value = "HTTPS://h:80//..x//.../?q".toList :=
  (@resolve_eq_print_iff "HTTPS://h:080//..x//.../?q=".toList _ (by rfl) (by rfl) _).2
    ⟨by decide, by rintro _ ⟨⟩; decide⟩

end Page

end Hyperlink
