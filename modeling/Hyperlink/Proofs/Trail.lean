import Hyperlink.Proofs.LinkOrigin
import Hyperlink.Proofs.ServerPath

/-!
Following links, one after another.

Each link is resolved against the page reached by the one before, and its address is read as the
next page. One step leads from any full page to an address that is normal (`Open.follow`), and a
normal address is resolved to its own text, wherever it is seen from (`Normal.resolve_eq_print`). So
no run of steps fails, and following an address again changes nothing (`trail_normal`).
-/

namespace Hyperlink

/-! ### Normal addresses -/

/-- The port of an address is written as it is when the scheme does not mean it. -/
theorem Scheme.Kind.explicitPort_of_ne {k : Kind} {port : Option Port}
    (h : ∀ p ∈ port, k.defaultPort ≠ some p) : k.explicitPort port = port := by
  cases port with
  | none => simp [explicitPort]
  | some p => exact if_neg (Ne.symm (h p rfl))

namespace Url

/-- A full address as resolving leaves it: its path is empty or starts at the root and has no dot
segments, and the port is not the one that the scheme means anyway. -/
structure Normal (u : Url) : Prop where
  full : u.isFull = true
  path : u.segments = [] ∨ u.segments.isRooted = true
  dotFree : Path.DotFree u.segments
  port : ∀ p ∈ u.port, u.kind.defaultPort ≠ some p

/-- Behind a host, an empty path and one from the root are written in one way. -/
theorem printPath_eq_locatedText {u : Url} (h : u.segments = [] ∨ u.segments.isRooted = true) :
    u.printPath = u.segments.locatedText := by
  rcases h with hnil | hr
  · simp [printPath_eq_ite, hnil, Path.toText, Path.locatedText]
  · obtain ⟨p, hp⟩ := Path.exists_of_isRooted hr
    cases p with
    | nil => simp [printPath_eq_ite, hp, Path.locatedText, Path.toRootedText]
    | cons s p =>
      rw [printPath_eq_ite, hp, if_neg (by simp), if_neg (by simp [Path.isRooted])]
      rfl

/-- Resolving writes a normal address as it is, from whatever page. -/
theorem Normal.resolve_eq_print {u : Url} (h : u.Normal) (page : Page) :
    (page.resolve u).value = u.print := by
  obtain ⟨hscheme, hhost⟩ := Bool.and_eq_true_iff.1 h.full
  obtain ⟨scheme, hscheme⟩ := Option.isSome_iff_exists.1 hscheme
  obtain ⟨host, hhost⟩ := Option.isSome_iff_exists.1 hhost
  have hport : (Scheme.kindOf (some scheme)).explicitPort u.port = u.port := by
    have hkind : u.kind = Scheme.kindOf (some scheme) := by rw [kind, hscheme]
    exact Scheme.Kind.explicitPort_of_ne (hkind ▸ h.port)
  have hpath : page.resolvedPath u = u.segments := by
    rw [Page.resolvedPath, if_pos (by simp [hhost]), Path.normalize_of_dotFree h.dotFree]
  have hresolve := @Page.resolve_some page u host (by rw [hhost]; rfl)
  rw [hresolve, hpath, hscheme, hhost, Option.isSome_some, if_pos rfl, print_eq,
    printPath_eq_locatedText h.path, hscheme, hhost, List.append_assoc]
  exact congrArg (fun port => printOrigin (some scheme) (some host) port ++ _) hport

/-- A target that can be followed: it is read back from its own text, a colon of its host stands in
brackets, and it names a host or a path. -/
structure Followable (target : Url) : Prop where
  back : parse target.print = .ok target
  colon : target.BracketsColon
  named : target.host.isSome = true ∨ target.segments ≠ []

end Url

namespace Page

/-- A page that links can be followed from: its address has been read and is full, a colon of its
host stands in brackets, and no mount name holds what would end the path. -/
structure Open (page : Page) : Prop where
  read : ∃ input, Url.parse input = .ok page.base
  full : page.base.isFull = true
  colon : page.base.BracketsColon
  mount : ∀ s ∈ page.mount.path, ∀ c ∈ s, c ≠ '?' ∧ c ≠ '#' ∧ Text.isTabOrLineEnd c = false

/-- A page on which following a link has ended, with the address that led there. -/
structure Settled (address : Text) (page : Page) : Prop where
  read : Url.parse address = .ok page.base
  print : page.base.print = address
  normal : page.base.Normal
  again : page.follow page.base = .ok (address, page)

variable {page : Page} {target : Url}

/-! ### The path of one step -/

/-- A target that names a host or a path is resolved to an empty path or to one from the root, and
its last segment stays the last one. -/
theorem resolvedPath_last {input : Text} (htarget : Url.parse input = .ok target)
    (hnamed : target.host.isSome = true ∨ target.segments ≠ []) (page : Page) :
    page.resolvedPath target = [] ∨ ∃ p, p ≠ [] ∧ page.resolvedPath target = [] :: p ∧
      ∀ s ∈ p.getLast?, s = [] ∨ s ∈ target.segments.getLast? := by
  have hwalk (p : Path) (hp : p ≠ []) (hlast : ∀ s ∈ p.getLast?, s ∈ target.segments.getLast?) :
      ∃ q, q ≠ [] ∧ Path.normalize ([] :: p) = [] :: q ∧
        ∀ s ∈ q.getLast?, s = [] ∨ s ∈ target.segments.getLast? :=
    ⟨_, Path.walk_ne_nil hp [], Path.normalize_rooted p,
      fun s hs => (Path.getLast?_walk hp hs).imp_right (hlast s)⟩
  rcases resolvedPath_cases htarget page with
    ⟨p, hp, he, hpath⟩ | ⟨-, -, hpath⟩ | ⟨hhost, hr, hpath⟩
  · rw [hpath]
    rw [he] at hwalk ⊢
    refine Or.inr (hwalk p hp fun s hs => ?_)
    rwa [List.getLast?_cons_of_ne_nil hp]
  · exact Or.inl hpath
  · have hne : target.segments ≠ [] := hnamed.resolve_left (by simp [hhost])
    obtain ⟨q, hq⟩ := Path.exists_of_isRooted page.isRooted_basePath
    rw [hpath, hq, Path.directory_rooted]
    refine Or.inr (hwalk (q.dropLast ++ target.segments) (by simp [hne]) fun s hs => ?_)
    rwa [List.getLast?_append_of_ne_nil _ hne] at hs

theorem dotFree_resolvedPath (hflag : target.contextRelative = false) (page : Page) :
    Path.DotFree (page.resolvedPath target) := by
  rw [resolvedPath_eq hflag]
  split
  · exact Path.dotFree_normalize _
  · unfold Path.merge
    split <;> exact Path.dotFree_normalize _

theorem Open.ne_of_mem_resolvedPath (hpage : page.Open) {input : Text}
    (htarget : Url.parse input = .ok target) {s : Text} (hs : s ∈ page.resolvedPath target)
    {c : Char} (hc : c ∈ s) : c ≠ '/' ∧ c ≠ '?' ∧ c ≠ '#' ∧ Text.isTabOrLineEnd c = false := by
  obtain ⟨_, hbase⟩ := hpage.read
  rcases mem_resolvedPath hs with hs | hs | hs | rfl
  · exact Url.ne_of_mem_segments htarget hs hc
  · exact Url.ne_of_mem_segments hbase hs hc
  · refine ⟨?_, hpage.mount s hs c hc⟩
    rintro rfl
    exact (page.mount.isNames_path s hs).2 hc
  · simp at hc

/-- Behind the host of a followed link, the path, the query and the fragment of the target are read
back as they are written. -/
theorem Open.ofTail_resolvedPath (hpage : page.Open) (htarget : target.Followable)
    (scheme host : Option Text) (port : Option Port) :
    Url.ofTail scheme host port
        (Text.cleanEnd ((page.resolvedPath target).locatedText ++ target.suffix)) =
      { scheme, host, port, segments := page.resolvedPath target, query := target.query
        fragment := target.fragment } := by
  have hchars : ∀ s ∈ page.resolvedPath target, ∀ c ∈ s, c ≠ '/' ∧ c ≠ '?' ∧ c ≠ '#' ∧
      Text.isTabOrLineEnd c = false := fun s hs c hc =>
    hpage.ne_of_mem_resolvedPath htarget.back hs hc
  have hlast := resolvedPath_last htarget.back htarget.named page
  generalize page.resolvedPath target = path at hchars hlast
  rcases hlast with rfl | ⟨p, hp, rfl, hlast⟩
  · rw [show Path.locatedText [] = [] from rfl,
      Url.cleanEnd_append_suffix htarget.back (by simp) (by simp),
      Url.ofTail_suffix htarget.back (by simp)]
    rfl
  · rw [Path.locatedText_rooted hp, Url.ofTail_slashed_suffix htarget.back hp
      (fun s hs => hchars s (List.mem_cons_of_mem [] hs)) hlast]

/-! ### One step -/

/-- The address that a link leads to, part by part. -/
def arrival (page : Page) (target : Url) : Url where
  scheme := target.scheme <|> page.base.scheme
  host := target.host <|> page.base.host
  port := (Scheme.kindOf (target.scheme <|> page.base.scheme)).explicitPort
    (if target.host.isSome then target.port else target.port <|> page.base.port)
  segments := page.resolvedPath target
  query := target.query
  fragment := target.fragment

theorem Open.isFull_arrival (hpage : page.Open) (target : Url) :
    (page.arrival target).isFull = true := by
  obtain ⟨hscheme, hhost⟩ := Bool.and_eq_true_iff.1 hpage.full
  show ((target.scheme <|> page.base.scheme).isSome &&
    (target.host <|> page.base.host).isSome) = true
  cases target.scheme <;> cases target.host <;> simp [hscheme, hhost]

theorem path_arrival (htarget : target.Followable) (page : Page) :
    (page.arrival target).segments = [] ∨ (page.arrival target).segments.isRooted = true := by
  rcases resolvedPath_last htarget.back htarget.named page with hnil | ⟨p, -, hp, -⟩
  · exact Or.inl hnil
  · exact Or.inr (by rw [arrival, hp]; rfl)

/-- A followed link is resolved to the text of the address it leads to. -/
theorem Open.print_arrival (hpage : page.Open) (htarget : target.Followable) :
    (page.arrival target).print = (page.resolve target).value := by
  obtain ⟨host, hhost⟩ := Option.isSome_iff_exists.1
    (Bool.and_eq_true_iff.1 (hpage.isFull_arrival target)).2
  rw [resolve_some hhost, Url.print_eq, Url.printPath_eq_locatedText (path_arrival htarget page),
    List.append_assoc, hhost]
  rfl

/-- The text of a followed link is read back. -/
theorem Open.parse_arrival (hpage : page.Open) (htarget : target.Followable) :
    Url.parse (page.arrival target).print = .ok (page.arrival target) := by
  obtain ⟨_, hbase⟩ := hpage.read
  obtain ⟨host, hhost⟩ := Option.isSome_iff_exists.1
    (Bool.and_eq_true_iff.1 (hpage.isFull_arrival target)).2
  have hscheme := forall_mem_orElse (Url.isValid_scheme_of_parse htarget.back)
    (Url.isValid_scheme_of_parse hbase)
  have hvalid := forall_mem_orElse (Url.isValid_host_of_parse htarget.back)
    (Url.isValid_host_of_parse hbase) host hhost
  have hcolon := forall_mem_orElse htarget.colon hpage.colon host hhost
  rw [hpage.print_arrival htarget, parse_resolve_some hscheme hhost hvalid hcolon,
    hpage.ofTail_resolvedPath htarget, ← hhost]
  rfl

theorem Open.normal_arrival (hpage : page.Open) (htarget : target.Followable) :
    (page.arrival target).Normal where
  full := hpage.isFull_arrival target
  path := path_arrival htarget page
  dotFree := dotFree_resolvedPath (Url.contextRelative_of_parse htarget.back) page
  port p hp := ((Scheme.Kind.explicitPort_eq_some_iff _ _ p).1 hp).2

theorem follow_of_parse {v : Url} (h : Url.parse (page.resolve target).value = .ok v) :
    page.follow target = .ok ((page.resolve target).value, { page with base := v }) := by
  rw [follow, h]
  rfl

/-- A normal address is the end of its own way: read from its text, it leads to itself. -/
theorem settled_of_normal {v : Url} (hv : v.Normal) (hback : Url.parse v.print = .ok v)
    (mount : Mount) : Settled v.print ⟨v, mount⟩ where
  read := hback
  print := rfl
  normal := hv
  again := by
    have hresolve := hv.resolve_eq_print ⟨v, mount⟩
    rw [follow_of_parse (by rw [hresolve]; exact hback), hresolve]

/-- Following a link ends on a settled page, from which further links can be followed. -/
theorem Open.follow (hpage : page.Open) (htarget : target.Followable) :
    ∃ address next, page.follow target = .ok (address, next) ∧ next.Open ∧
      Settled address next := by
  have hback := hpage.parse_arrival htarget
  have hnormal := hpage.normal_arrival htarget
  have hread := hback
  rw [hpage.print_arrival htarget] at hread
  refine ⟨_, _, follow_of_parse hread, ?_, ?_⟩
  · exact ⟨⟨_, hread⟩, hnormal.full, forall_mem_orElse htarget.colon hpage.colon, hpage.mount⟩
  · rw [← hpage.print_arrival htarget]
    exact settled_of_normal hnormal hback page.mount

/-! ### Any number of steps -/

/-- The addresses and pages on the way, when links are followed one after another. The first address
that cannot be read ends it. -/
def trail : Page → List Url → Except ParseError (List (Text × Page))
  | _, [] => .ok []
  | page, target :: targets => do
    let (address, next) ← page.follow target
    return (address, next) :: (← next.trail targets)

/-- From an open page no step fails, and each of them ends on a settled page. -/
theorem Open.trail : ∀ {page : Page} (targets : List Url), page.Open →
    (∀ target ∈ targets, target.Followable) →
    ∃ visits, page.trail targets = .ok visits ∧ visits.length = targets.length ∧
      ∀ visit ∈ visits, Settled visit.1 visit.2
  | page, [], _, _ => ⟨[], rfl, rfl, by simp⟩
  | page, target :: targets, hpage, htargets => by
    obtain ⟨address, next, hfollow, hnext, hsettled⟩ :=
      hpage.follow (htargets target List.mem_cons_self)
    obtain ⟨visits, htrail, hlength, hvisits⟩ :=
      Open.trail targets hnext fun t ht => htargets t (List.mem_cons_of_mem target ht)
    refine ⟨(address, next) :: visits, ?_, by simp [hlength], ?_⟩
    · rw [Page.trail, hfollow]
      show (do return (address, next) :: (← next.trail targets)) = _
      rw [htrail]
      rfl
    · intro visit hvisit
      rcases List.mem_cons.1 hvisit with rfl | hvisit
      · exact hsettled
      · exact hvisits visit hvisit

/-- From a full page on the root of its server, links can be followed without end: every address is
read, and the page it names is normal, is written as that address, and is where the address leads
again. -/
theorem trail_normal {input : Text} {base : Url} {targets : List Url}
    (hbase : Url.parse input = .ok base) (hfull : base.isFull = true) (hcolon : base.BracketsColon)
    (htargets : ∀ target ∈ targets, Url.parse target.print = .ok target ∧ target.BracketsColon ∧
      (target.host.isSome = true ∨ target.segments ≠ [])) :
    ∃ visits, ({ base } : Page).trail targets = .ok visits ∧ visits.length = targets.length ∧
      ∀ visit ∈ visits, Url.parse visit.1 = .ok visit.2.base ∧ visit.2.base.print = visit.1 ∧
        visit.2.base.Normal ∧ visit.2.follow visit.2.base = .ok visit := by
  have hopen : Open { base } := ⟨⟨input, hbase⟩, hfull, hcolon, by simp [Mount.root, Mount.path]⟩
  obtain ⟨visits, htrail, hlength, hvisits⟩ := hopen.trail targets fun target htarget => by
    obtain ⟨hback, hcolon, hnamed⟩ := htargets target htarget
    exact ⟨hback, hcolon, hnamed⟩
  refine ⟨visits, htrail, hlength, fun visit hvisit => ?_⟩
  have hsettled := hvisits visit hvisit
  exact ⟨hsettled.read, hsettled.print, hsettled.normal, hsettled.again⟩

/-- A climb and a dot segment, then another host without a path, then a path below it. -/
theorem trail_normal_hosts :
    ∃ visits, (Page.mk { scheme := some "http".toList, host := some ['h'], port := some 80
                         segments := [[], ['a'], Path.up, ['b']] } .root).trail
        [{ segments := [Path.up, ['x'], Path.here, ['y']] },
          { host := some "[::1]".toList, port := some 8080 },
          { segments := [['z']], query := [⟨['q'], []⟩] }] = .ok visits ∧
      visits.length = 3 ∧
      ∀ visit ∈ visits, Url.parse visit.1 = .ok visit.2.base ∧ visit.2.base.print = visit.1 ∧
        visit.2.base.Normal ∧ visit.2.follow visit.2.base = .ok visit := by
  refine @trail_normal "http://h:80/a/../b".toList _ _ (by rfl) rfl (by simp [Url.BracketsColon]) ?_
  intro target htarget
  simp only [List.mem_cons, List.not_mem_nil, or_false] at htarget
  rcases htarget with rfl | rfl | rfl
  · exact ⟨by rfl, by simp [Url.BracketsColon], Or.inr (by decide)⟩
  · exact ⟨by rfl, by simp [Url.BracketsColon, Host.bracketed?], Or.inl rfl⟩
  · exact ⟨by rfl, by simp [Url.BracketsColon], Or.inr (by decide)⟩

end Page

end Hyperlink
