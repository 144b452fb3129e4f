import Hyperlink.Proofs.ContextRelative

/-!
Query and fragment.

They say what is wanted at a place, not where it is. Every rendering of a target is that of the
target without them, with the query text and the fragment behind it, and those of the page are not
looked at (`renderings_eq_bare_append`). Only the log shows them: a page outside the mount point is
reported by its whole address.
-/

namespace Hyperlink

namespace Url

/-- The address with this query and fragment in place of its own. -/
def withSuffix (u : Url) (query : Query) (fragment : Option Text) : Url :=
  { u with query, fragment }

/-- The address without query and fragment. -/
def bare (u : Url) : Url := u.withSuffix [] none

@[simp] theorem suffix_bare (u : Url) : u.bare.suffix = [] := rfl

theorem print_eq_bare_append (u : Url) : u.print = u.bare.print ++ u.suffix := by
  have hpath : u.bare.printPath = u.printPath := rfl
  rw [print_eq, print_eq, suffix_bare, List.append_nil, hpath]
  rfl

end Url

/-- What is below the mount point does not depend on query and fragment. -/
theorem Mount.strip_withSuffix (m : Mount) (u : Url) (query : Query) (fragment : Option Text) :
    (m.strip (u.withSuffix query fragment)).value = (m.strip u).value := by
  have hanchored : (u.withSuffix query fragment).isAnchored = u.isAnchored := rfl
  rcases Bool.eq_false_or_eq_true u.isAnchored with h | h
  · rw [strip_of_anchored (hanchored.trans h), strip_of_anchored h]
    rfl
  · rw [strip_of_not_anchored (hanchored.trans h), strip_of_not_anchored h]
    rfl

namespace Page

variable (toAscii : Text → Option Text) (page : Page) (target : Url)

/-! ### Query and fragment of the target -/

theorem appendSuffix_eq_bare_append (text : Text) :
    appendSuffix text target = appendSuffix text target.bare ++ target.suffix := by
  rw [appendSuffix_eq, appendSuffix_eq, Url.suffix_bare, List.append_nil]

theorem relativeLink_eq_bare_append :
    (page.relativeLink target).value = (page.relativeLink target.bare).value ++ target.suffix := by
  cases hflag : target.contextRelative with
  | true =>
    have hbare : target.bare.contextRelative = true := hflag
    rw [relativeLink_value_of_contextRelative hflag, relativeLink_value_of_contextRelative hbare,
      Url.suffix_bare, List.append_nil]
    rfl
  | false =>
    have hbare : target.bare.contextRelative = false := hflag
    have hstrip : (page.mount.strip target.bare).value = (page.mount.strip target).value :=
      page.mount.strip_withSuffix target [] none
    rw [relativeLink_value hflag, relativeLink_value hbare, hstrip, Url.suffix_bare,
      List.append_nil]

theorem resolve_eq_bare_append :
    (page.resolve target).value = (page.resolve target.bare).value ++ target.suffix := by
  have hpath : page.resolvedPath target.bare = page.resolvedPath target := rfl
  rw [resolve, resolve, hpath]
  exact appendSuffix_eq_bare_append target _

theorem absoluteLink_eq_bare_append :
    (page.absoluteLink target).value = (page.absoluteLink target.bare).value ++ target.suffix := by
  have hhost : target.bare.host = target.host := rfl
  rw [absoluteLink, absoluteLink, hhost]
  split
  · exact page.resolve_eq_bare_append target
  · exact appendSuffix_eq_bare_append target _

/-- Each way to write a link keeps the suffix, and the choice between them does not look at it. -/
theorem linkBy_eq_bare_append :
    (page.linkBy toAscii target).value =
      (page.linkBy toAscii target.bare).value ++ target.suffix := by
  have hschemeless : target.bare.isSchemeless = target.isSchemeless := rfl
  have hleaves : page.leaves toAscii target.bare = page.leaves toAscii target := rfl
  have hserver : target.bare.isServerPath = target.isServerPath := rfl
  rw [linkBy, linkBy, hschemeless, hleaves, hserver]
  split
  · exact target.print_eq_bare_append
  · split
    · exact page.absoluteLink_eq_bare_append target
    · split
      · exact target.print_eq_bare_append
      · exact page.relativeLink_eq_bare_append target

/-! ### Query and fragment of the page -/

/-- The page with this query and fragment in its address. -/
def withSuffix (query : Query) (fragment : Option Text) : Page :=
  { page with base := page.base.withSuffix query fragment }

section Base

variable (query : Query) (fragment : Option Text)

theorem relativeLink_withSuffix :
    ((page.withSuffix query fragment).relativeLink target).value =
      (page.relativeLink target).value := by
  cases hflag : target.contextRelative with
  | true =>
    rw [relativeLink_value_of_contextRelative hflag, relativeLink_value_of_contextRelative hflag]
    rfl
  | false =>
    have hstrip : (page.mount.strip (page.base.withSuffix query fragment)).value =
        (page.mount.strip page.base).value := page.mount.strip_withSuffix page.base query fragment
    rw [relativeLink_value hflag, relativeLink_value hflag, ← hstrip]
    rfl

theorem resolve_withSuffix :
    (page.withSuffix query fragment).resolve target = page.resolve target := rfl

theorem linkBy_withSuffix :
    ((page.withSuffix query fragment).linkBy toAscii target).value =
      (page.linkBy toAscii target).value := by
  have hleaves : (page.withSuffix query fragment).leaves toAscii target =
      page.leaves toAscii target := rfl
  have habsolute : (page.withSuffix query fragment).absoluteLink target =
      page.absoluteLink target := rfl
  rw [linkBy, linkBy, hleaves, habsolute]
  split
  · rfl
  · split
    · rfl
    · split
      · rfl
      · exact page.relativeLink_withSuffix target query fragment

end Base

/-- Query and fragment of a target are written behind each of its renderings as they are, the query
as its text behind a `?`, and have no part in what stands before them. Those of the page have no
part in any rendering. -/
theorem renderings_eq_bare_append :
    Url.printQuery target.query =
        Text.behind '?' (if target.query = [] then none else some target.query.print) ∧
      (∀ text, appendSuffix text target = text ++ target.suffix) ∧
      target.print = target.bare.print ++ target.suffix ∧
      (page.linkBy toAscii target).value =
        (page.linkBy toAscii target.bare).value ++ target.suffix ∧
      (page.relativeLink target).value =
        (page.relativeLink target.bare).value ++ target.suffix ∧
      (page.resolve target).value = (page.resolve target.bare).value ++ target.suffix ∧
      ∀ query fragment,
        ((page.withSuffix query fragment).linkBy toAscii target).value =
            (page.linkBy toAscii target).value ∧
          ((page.withSuffix query fragment).relativeLink target).value =
            (page.relativeLink target).value ∧
          ((page.withSuffix query fragment).resolve target).value =
            (page.resolve target).value := by
  refine ⟨Url.printQuery_eq target.query, fun text => appendSuffix_eq text target,
    target.print_eq_bare_append, page.linkBy_eq_bare_append toAscii target,
    page.relativeLink_eq_bare_append target, page.resolve_eq_bare_append target, ?_⟩
  intro query fragment
  exact ⟨page.linkBy_withSuffix toAscii target query fragment,
    page.relativeLink_withSuffix target query fragment,
    congrArg Logged.value (page.resolve_withSuffix target query fragment)⟩

end Page

end Hyperlink
