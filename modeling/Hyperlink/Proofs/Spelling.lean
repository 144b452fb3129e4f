import Hyperlink.Proofs.Mounted

/-!
Two spellings of one address.

An address below the mount point can be given by its segments alone, or from the root of the server
with the mount segments in front (`Url.below`). A page in either spelling looks the same to all that
links read off it (`seenAlike_below`), so every link from it is the same, and the same events are
logged; to a target in either spelling there is one relative link (`links_eq_of_spelled`).
-/

namespace Hyperlink

/-- The address given from the root of the server, with these segments in front. -/
def Url.below (own : Path) (u : Url) : Url := { u with segments := [] :: (own ++ u.segments) }

section Below

variable {u : Url} (hflag : u.contextRelative = false) {own : Path}
include hflag

theorem Url.isAnchored_below : (u.below own).isAnchored = true := by
  simp [isAnchored, below, hflag, Path.isRooted]

/-- Seen from the filter root, an address is the same with the mount segments in front, however it
spells them. -/
theorem Mount.strip_below {m : Mount} (hanchored : u.isAnchored = false)
    (hspells : List.Forall₂ Spells m.path own) : m.strip (u.below own) = m.strip u := by
  have hentered : enter? m.path (u.below own).segments.tail = some u.segments :=
    enter?_append hspells u.segments
  rw [strip, if_pos (Url.isAnchored_below hflag), hentered, strip, if_neg (by simp [hanchored])]

/-- Seen from the context root, an address given below the filter root stands below the filter
path. -/
theorem Mount.fromContext_below {m : Mount} (hanchored : u.isAnchored = false) :
    m.fromContext (u.below m.path) = m.fromContext u := by
  have hflag' : (u.below m.path).contextRelative = false := hflag
  have hentered : enter? m.context (u.below m.path).segments.tail =
      some (m.filter ++ u.segments) := by
    show enter? m.context (m.context ++ m.filter ++ u.segments) = _
    rw [List.append_assoc]
    exact enter?_append (forall₂_spells_self m.context) _
  rw [fromContext, if_neg (by simp [hflag']), if_pos (Url.isAnchored_below hflag), hentered,
    fromContext, if_neg (by simp [hflag]), if_neg (by simp [hanchored])]
  rfl

end Below

namespace Page

/-! ### What links read off a page -/

/-- Two pages that no link tells apart: on one server, below one mount point, and with the same path
from each of the places that paths are seen from. -/
structure SeenAlike (p q : Page) : Prop where
  mount : p.mount = q.mount
  scheme : p.base.scheme = q.base.scheme
  host : p.base.host = q.base.host
  port : p.base.port = q.base.port
  fromFilter : p.mount.strip p.base = q.mount.strip q.base
  fromContext : p.mount.fromContext p.base = q.mount.fromContext q.base
  fromServer : p.basePath = q.basePath

namespace SeenAlike

variable {p q : Page} (h : p.SeenAlike q)
include h

theorem mountedPath (target : Url) : p.mountedPath target = q.mountedPath target := by
  rw [Page.mountedPath, Page.mountedPath, h.mount]

theorem resolve (target : Url) : p.resolve target = q.resolve target := by
  have hpath : p.resolvedPath target = q.resolvedPath target := by
    rw [resolvedPath, resolvedPath, h.mountedPath, h.fromServer]
  rw [Page.resolve, Page.resolve, h.scheme, h.host, h.port, hpath]

theorem relativeLink (target : Url) : p.relativeLink target = q.relativeLink target := by
  rw [Page.relativeLink, Page.relativeLink, h.fromFilter, h.fromContext, h.mount]

theorem contextLink (path : Option Text) : p.contextLink path = q.contextLink path := by
  simp only [Page.contextLink, h.relativeLink]

theorem absoluteLink (target : Url) : p.absoluteLink target = q.absoluteLink target := by
  rw [Page.absoluteLink, Page.absoluteLink, h.resolve, h.mountedPath, h.scheme, h.host, h.port]

theorem leaves (toAscii : Text → Option Text) (target : Url) :
    p.leaves toAscii target = q.leaves toAscii target := by
  have hport : p.base.effectivePort = q.base.effectivePort := by
    rw [Url.effectivePort, Url.effectivePort, Url.kind, Url.kind, h.port, h.scheme]
  rw [Page.leaves, Page.leaves, h.scheme, h.host, hport]

theorem linkBy (toAscii : Text → Option Text) (target : Url) :
    p.linkBy toAscii target = q.linkBy toAscii target := by
  rw [Page.linkBy, Page.linkBy, h.leaves, h.absoluteLink, h.relativeLink]

end SeenAlike

/-! ### One address, two spellings -/

/-- A page given below the filter root looks like the same page given from the root of the
server. -/
theorem seenAlike_below {base : Url} (mount : Mount) (hflag : base.contextRelative = false)
    (hanchored : base.isAnchored = false) :
    SeenAlike ⟨base, mount⟩ ⟨base.below mount.path, mount⟩ where
  mount := rfl
  scheme := rfl
  host := rfl
  port := rfl
  fromFilter := (Mount.strip_below hflag hanchored (Mount.forall₂_spells_self _)).symm
  fromContext := (Mount.fromContext_below hflag hanchored).symm
  fromServer := by
    have hr : base.segments.isRooted = false := by simpa [Url.isAnchored, hflag] using hanchored
    rw [basePath, if_neg (by simp [hanchored]), basePath, if_pos (Url.isAnchored_below hflag),
      Path.unrooted_of_not_rooted hr, hflag]
    rfl

/-- Whether a page is given below the filter root or from the root of the server makes no difference
to any link from it. Nor does it make one to the relative link to a target, whatever path parameters
follow the mount names in it. -/
theorem links_eq_of_spelled (toAscii : Text → Option Text) (mount : Mount) :
    (∀ base : Url, base.contextRelative = false → base.isAnchored = false →
      ∀ (target : Url) (path : Option Text),
        (⟨base, mount⟩ : Page).linkBy toAscii target =
            (⟨base.below mount.path, mount⟩ : Page).linkBy toAscii target ∧
          (⟨base, mount⟩ : Page).relativeLink target =
            (⟨base.below mount.path, mount⟩ : Page).relativeLink target ∧
          (⟨base, mount⟩ : Page).resolve target =
            (⟨base.below mount.path, mount⟩ : Page).resolve target ∧
          (⟨base, mount⟩ : Page).contextLink path =
            (⟨base.below mount.path, mount⟩ : Page).contextLink path) ∧
      ∀ (base target : Url) (own : Path), target.contextRelative = false →
        target.isAnchored = false → List.Forall₂ Mount.Spells mount.path own →
        (⟨base, mount⟩ : Page).relativeLink target =
          (⟨base, mount⟩ : Page).relativeLink (target.below own) := by
  constructor
  · intro base hflag hanchored target path
    have h := seenAlike_below mount hflag hanchored
    exact ⟨h.linkBy toAscii target, h.relativeLink target, h.resolve target, h.contextLink path⟩
  · intro base target own hflag hanchored hspells
    have hflag' : (target.below own).contextRelative = false := hflag
    rw [relativeLink, relativeLink, hflag, hflag', Mount.strip_below hflag hanchored hspells]
    rfl

/-- An application at `/ctx` behind a filter path `/app`. -/
def filterMount : Mount := .ofTexts "/ctx".toList "/app".toList

/-- Its page `/ctx`, past the filter path. -/
def contextRoot : Page where
  base := { segments := [[], "ctx".toList] }
  mount := filterMount

/-- A page two directories deep, and a target with a path parameter on the context path. -/
theorem links_eq_of_spelled_parameter :
    (⟨{ segments := [['a'], ['b']] }, filterMount⟩ : Page).contextLink (some "/x".toList) =
      (⟨{ segments := [[], "ctx".toList, "app".toList, ['a'], ['b']] }, filterMount⟩ :
        Page).contextLink (some "/x".toList) ∧
      contextRoot.relativeLink { segments := [['c'], []] } =
        contextRoot.relativeLink
          { segments := [[], "ctx;v=1".toList, "app".toList, ['c'], []] } := by
  obtain ⟨hpage, htarget⟩ := links_eq_of_spelled some filterMount
  have hmount : filterMount.path = ["ctx".toList, "app".toList] := by decide
  have hspells : List.Forall₂ Mount.Spells filterMount.path ["ctx;v=1".toList, "app".toList] := by
    rw [hmount]
    exact .cons (Or.inr ⟨"v=1".toList, rfl⟩) (.cons (Or.inl rfl) .nil)
  obtain ⟨-, -, -, hcontext⟩ :=
    hpage { segments := [['a'], ['b']] } rfl rfl {} (some "/x".toList)
  rw [hmount] at hcontext
  have hlink := htarget contextRoot.base { segments := [['c'], []] } _ rfl rfl hspells
  exact ⟨hcontext, hlink⟩

end Page

end Hyperlink
