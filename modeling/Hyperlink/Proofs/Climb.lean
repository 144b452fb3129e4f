import Hyperlink.Proofs.ContextRelative

/-!
How far a reference climbs.

A reference leaves the directory of its base by a `..` for each directory and goes down from there
(`Path.climbs`, `Path.descent`). From one path to another no reference has fewer `..` than the one
that is written (`relative_climbs_least`): a way that leaves fewer directories keeps one that is none
of the target. The climb to the context root is the same from every page on the filter root, so an
address behind it leads to the same place as the context-relative one (`resolve_climb`).
-/

namespace Hyperlink

namespace Path

/-- The number of `..` at the start of a reference. -/
def climbs (reference : Path) : Nat := (reference.takeWhile fun s => s = up).length

/-- What a reference names below the directory it has climbed to. A `.` in front does not count, and
alone it is that directory. -/
def descent (reference : Path) : Path :=
  match reference.drop reference.climbs with
  | [] => []
  | s :: rest => if s = here then orDirectory rest else s :: rest

/-! ### The segments of a reference -/

theorem climbs_replicate_append {p : Path} (h : DotFree p) (n : Nat) :
    climbs (List.replicate n up ++ p) = n := by
  have hstop : p.takeWhile (fun s => decide (s = up)) = [] := by
    cases p with
    | nil => rfl
    | cons s p => exact List.takeWhile_cons_of_neg (by simpa using (dotFree_cons.1 h).1.2)
  rw [climbs, List.takeWhile_append_of_pos (by simp), hstop]
  simp

theorem descent_replicate_append {p : Path} (h : DotFree p) (n : Nat) :
    descent (List.replicate n up ++ p) = p := by
  have hdrop : (List.replicate n up ++ p).drop n = p := List.drop_left' List.length_replicate
  rw [descent, climbs_replicate_append h, hdrop]
  cases p with
  | nil => rfl
  | cons s p => exact if_neg (dotFree_cons.1 h).1.1

theorem climbs_here_cons (p : Path) : climbs (here :: p) = 0 := rfl

theorem descent_here_cons (p : Path) : descent (here :: p) = p.orDirectory := rfl

theorem eq_dropLast_concat {p : Path} (h : p ≠ []) : p.dropLast ++ [p.getLastD []] = p := by
  rw [← orDirectory_eq, orDirectory, if_neg h]

/-- A reference climbs out of the directories of the base that the target is not in, and goes down
by those of the target that the base is not in. -/
theorem climbs_descent_reference (base : Path) {target : Path} (hne : target ≠ [])
    (hdot : DotFree target) :
    (reference base target).climbs = (diverge base.dropLast target.dropLast).1.length ∧
      (reference base target).descent =
        (diverge base.dropLast target.dropLast).2 ++ [target.getLastD []] := by
  obtain ⟨shared, -, hb⟩ := diverge_eq base.dropLast target.dropLast
  rw [← eq_dropLast_concat hne, hb, List.append_assoc, dotFree_append] at hdot
  unfold reference
  generalize diverge base.dropLast target.dropLast = parts at hdot ⊢
  obtain ⟨above, below⟩ := parts
  dsimp only at hdot ⊢
  generalize target.getLastD [] = last at hdot ⊢
  have hlast : closing last = [] := if_neg (hdot.2 last (by simp)).2
  split
  · next h =>
    obtain ⟨-, rfl, rfl, rfl⟩ := h
    exact ⟨rfl, rfl⟩
  · rw [hlast, List.append_assoc]
    by_cases habove : above = []
    · have hdown : (below ++ [last]).orDirectory = below ++ [last] := if_neg (by simp)
      rw [if_pos habove, habove, List.singleton_append, climbs_here_cons, descent_here_cons, hdown]
      exact ⟨rfl, rfl⟩
    · rw [if_neg habove, List.map_const']
      exact ⟨climbs_replicate_append hdot.2 _, descent_replicate_append hdot.2 _⟩

/-- Cut at its slashes, a reference falls into its segments. -/
theorem ofText_relative (base : Path) {target : Path} (hslash : ∀ s ∈ target, '/' ∉ s) :
    ofText (relative base target) = reference base target := by
  obtain ⟨dots, rest, hdots, he, hrest, -⟩ := exists_reference base target
  have hsegments : ∀ s ∈ rest, '/' ∉ s := by
    intro s hs
    rcases hrest s hs with rfl | rfl | hs
    · decide
    · simp
    · exact hslash s hs
  rw [relative_eq_toText (slash_not_mem_getLastD hslash), he, toText_cons,
    ofText_dots_slashed hdots hsegments]

/-! ### No reference climbs less -/

/-- No common start of two paths reaches further than to where they diverge. -/
theorem length_add_diverge_le : ∀ {p a b : Path}, p <+: a → p <+: b →
    p.length + (diverge a b).1.length ≤ a.length
  | [], a, b, _, _ => by
    obtain ⟨shared, ha, -⟩ := diverge_eq a b
    have hlength := congrArg List.length ha
    rw [List.length_append] at hlength
    rw [List.length_nil]
    omega
  | s :: p, [], _, ha, _ => by simp at ha
  | s :: p, _, [], _, hb => by simp at hb
  | s :: p, t :: a, u :: b, ha, hb => by
    obtain ⟨rfl, hpa⟩ := List.cons_prefix_cons.1 ha
    obtain ⟨rfl, hpb⟩ := List.cons_prefix_cons.1 hb
    have hrest := length_add_diverge_le hpa hpb
    rw [diverge, if_pos rfl, List.length_cons, List.length_cons]
    omega

/-- Whoever keeps only directories of the target has left those that the target is not in. -/
theorem length_diverge_le {a b : Path} {j : Nat} (h : a.rdrop j <+: b) :
    (diverge a b).1.length ≤ j := by
  have hkept : a.rdrop j <+: a := List.take_prefix _ a
  have hlength := length_add_diverge_le hkept h
  rw [List.rdrop, List.length_take] at hlength
  have hall := length_add_diverge_le (List.nil_prefix (l := a)) (List.nil_prefix (l := b))
  rw [List.length_nil] at hall
  omega

/-- Each `..` leaves one segment at most. -/
theorem drop_count_up_suffix (p entered : Path) :
    entered.drop (p.count up) <:+ p.foldl enter entered := by
  induction p generalizing entered with
  | nil => exact List.suffix_refl _
  | cons s p ih =>
    refine List.IsSuffix.trans ?_ (ih (enter entered s))
    rcases eq_or_ne s up with rfl | hu
    · have hleft : entered.drop ((up :: p).count up) = entered.tail.drop (p.count up) := by
        rw [List.count_cons_self, List.drop_tail]
      exact hleft ▸ List.suffix_refl _
    · rw [List.count_cons_of_ne hu]
      by_cases hh : s = here
      · exact hh ▸ List.suffix_refl _
      · have htail : entered.drop (p.count up) = ((s :: entered).drop (p.count up)).tail := by
          rw [List.tail_drop, List.drop_succ_cons]
        rw [enter_of_ne ⟨hh, hu⟩, htail]
        exact List.tail_suffix _

/-- A walk keeps all directories but one for each `..`. -/
theorem drop_count_up_prefix_walk {p : Path} (h : p ≠ []) (entered : Path) :
    (entered.drop (p.count up)).reverse <+: (walk entered p).dropLast := by
  obtain ⟨q, s, rfl⟩ := (List.eq_nil_or_concat p).resolve_left h
  rw [List.concat_eq_append, walk_append (List.cons_ne_nil s [])]
  by_cases hs : s ≠ here ∧ s ≠ up
  · have hcount : (q ++ [s]).count up = q.count up := by
      rw [List.count_append, List.count_singleton, if_neg (by simpa using hs.2), Nat.add_zero]
    rw [walk_singleton hs, List.dropLast_concat, hcount, List.reverse_prefix]
    exact drop_count_up_suffix q entered
  · have hlast : (walk (q.foldl enter entered) [s]).dropLast =
        ((q ++ [s]).foldl enter entered).reverse := by
      rcases eq_or_ne s here with rfl | hh
      · simp [walk_singleton_here]
      · obtain rfl : s = up := not_not.1 fun hu => hs ⟨hh, hu⟩
        simp [walk_singleton_up]
    rw [hlast, List.reverse_prefix]
    exact drop_count_up_suffix (q ++ [s]) entered

/-- The reference that is written, read from the directory of the base, is the target, and no
reference with fewer `..` is: neither one that climbs first and then goes down, nor any other that is
walked from there. -/
theorem relative_climbs_least {base target : Path} (hbase : DotFree base) (hne : target ≠ [])
    (htarget : DotFree target) (hslash : ∀ s ∈ target, '/' ∉ s) :
    base.dropLast.rdrop (ofText (relative base target)).climbs ++
        (ofText (relative base target)).descent = target ∧
      (∀ j < (ofText (relative base target)).climbs, ∀ rest ≠ [],
        base.dropLast.rdrop j ++ rest ≠ target) ∧
      walk base.dropLast.reverse (ofText (relative base target)) = target ∧
      ∀ other ≠ [], walk base.dropLast.reverse other = target →
        (ofText (relative base target)).climbs ≤ other.count up := by
  obtain ⟨hclimbs, hdescent⟩ := climbs_descent_reference base hne htarget
  rw [ofText_relative base hslash, hclimbs, hdescent]
  refine ⟨?_, ?_, ?_, ?_⟩
  · obtain ⟨shared, ha, hb⟩ := diverge_eq base.dropLast target.dropLast
    generalize diverge base.dropLast target.dropLast = parts at ha hb ⊢
    rw [ha, List.rdrop_append_length, ← List.append_assoc, ← hb, eq_dropLast_concat hne]
  · intro j hj rest hrest he
    have hkept : base.dropLast.rdrop j <+: target.dropLast := by
      rw [← he, List.dropLast_append_of_ne_nil hrest]
      exact List.prefix_append _ _
    exact Nat.not_lt.2 (length_diverge_le hkept) hj
  · have hwalk := walk_reference (hbase.subset (List.dropLast_subset base)) target []
    rw [List.append_nil] at hwalk
    rw [hwalk, walk_of_dotFree, orDirectory, if_neg hne]
    · rfl
    · rwa [orDirectory, if_neg hne]
  · intro other hother he
    have hkept := drop_count_up_prefix_walk hother base.dropLast.reverse
    rw [he, ← List.rdrop_eq_reverse_drop_reverse] at hkept
    exact length_diverge_le hkept

/-- From a directory three deep, two climbs lead to an empty segment beside the second one. With one
climb fewer there is no way. -/
theorem relative_climbs_least_empty :
    relative [['a'], ['b'], ['c'], ['d']] [['a'], [], ['x']] = "../..//x".toList ∧
      ∀ other ≠ [], walk [['c'], ['b'], ['a']] other = [['a'], [], ['x']] → 2 ≤ other.count up := by
  refine ⟨by decide, ?_⟩
  obtain ⟨-, -, -, hleast⟩ := @relative_climbs_least [['a'], ['b'], ['c'], ['d']]
    [['a'], [], ['x']] (by decide) (by decide) (by decide) (by decide)
  exact hleast

/-! ### A climb in front of a path -/

/-- A climb out of directories below others, with a path behind it, leads to the path below these
others. -/
theorem normalize_climb {own left rest : Path} (hown : DotFree own) (hleft : DotFree left)
    (hrest : DotFree rest) (hne : rest ≠ []) :
    normalize ([] :: (own ++ left) ++ (List.replicate left.length up ++ rest)) =
      [] :: (own ++ rest) := by
  have hclimb : (List.replicate left.length up).foldl enter ((own ++ left).foldl enter []) =
      own.reverse := by
    rw [foldl_enter_dotFree (dotFree_append.2 ⟨hown, hleft⟩), List.append_nil,
      List.reverse_append, foldl_enter_climb]
  rw [List.cons_append, normalize_rooted, walk_append (by simp [hne]), walk_append hne, hclimb,
    walk_of_dotFree hrest, List.reverse_reverse]

end Path

theorem Mount.climb_append_toText (m : Mount) {p : Path} (hp : p ≠ []) :
    m.climb ++ p.toText = Path.toText (List.replicate m.filter.length Path.up ++ p) := by
  rw [← Path.flatMap_slash_toText hp, climb, ← List.map_const', List.flatMap_map]
  rfl

/-- An address without a host is read back behind the climb to the context root, as its own segments
behind those of the climb. -/
theorem Url.parse_climb_print {target : Url} (h : parse target.print = .ok target)
    (hhost : target.host = none) (hne : target.segments ≠ []) (m : Mount) :
    parse (m.climb ++ target.print) =
      .ok { target with
              segments := List.replicate m.filter.length Path.up ++ target.segments } := by
  obtain ⟨hscheme, hport⟩ := eq_none_of_parse h hhost
  have hflag := contextRelative_of_parse h
  have htext : target.print = target.segments.toText ++ target.suffix := by
    rw [print_eq, printPath_of_parse h, hhost]
    rfl
  cases hlength : m.filter.length with
  | zero =>
    have hclimb : m.climb = [] := by rw [Mount.climb, List.length_eq_zero_iff.1 hlength]; rfl
    rw [hclimb]
    exact h
  | succ n =>
    have hread := @Path.parse_dots_slashed target h Path.up
      (List.replicate n Path.up ++ target.segments) (Or.inr rfl) ?_ ?_
    · rw [htext, ← List.append_assoc, m.climb_append_toText hne, hlength, List.replicate_succ,
        List.cons_append, Path.toText_cons, hread, hscheme, hhost, hport, hflag]
    · intro s hs
      rcases List.mem_append.1 hs with hs | hs
      · exact Or.inl (List.eq_of_mem_replicate hs)
      · exact Or.inr (Or.inr hs)
    · intro s hs
      rw [List.getLast?_append_of_ne_nil _ hne] at hs
      exact Or.inr hs

namespace Page

variable {page : Page} {target : Url}

/-- The directory of a page with one segment is the filter root. -/
theorem directory_basePath_of_singleton {s : Text} (hflag : page.base.contextRelative = false)
    (hbase : page.base.segments = [s]) (hs : s ≠ []) :
    Path.directory page.basePath = [] :: page.mount.path := by
  have hr : page.base.segments.isRooted = false := by
    rw [hbase]
    cases s with
    | nil => exact absurd rfl hs
    | cons c s => rfl
  have hown : (page.mount.strip page.base).value = [s] := by
    rw [Mount.strip_of_not_anchored (by simp [Url.isAnchored, hr]), hbase]
  rw [basePath_of_through hflag (.named hr), hown, Path.directory_rooted, List.dropLast_concat]

/-- From a page on the filter root, a path behind the climb to the context root is one below the
context path. -/
theorem resolvedPath_climb {s : Text} {rest : Path} (hmount : Path.DotFree page.mount.path)
    (hflag : page.base.contextRelative = false) (hbase : page.base.segments = [s]) (hs : s ≠ [])
    (htarget : target.contextRelative = false) (hhost : target.host = none)
    (hsegments : target.segments = List.replicate page.mount.filter.length Path.up ++ rest)
    (hne : rest ≠ []) (hr : rest.isRooted = false) (hdot : Path.DotFree rest) :
    page.resolvedPath target = [] :: (page.mount.context ++ rest) := by
  obtain ⟨hcontext, hfilter⟩ := Path.dotFree_append.1 hmount
  have hnot : target.segments.isRooted = false := by
    rw [hsegments]
    cases page.mount.filter.length with
    | zero => exact hr
    | succ n => rfl
  rw [resolvedPath_eq htarget, if_neg (by simp [hhost, hnot]), Path.merge_of_not_rooted hnot,
    directory_basePath_of_singleton hflag hbase hs, hsegments]
  exact Path.normalize_climb hcontext hfilter hdot hne

/-- From a page on the filter root, the climb to the context root with an address behind it is read
back, and leads to the place of the context-relative address. -/
theorem resolve_climb {s : Text} (hmount : Path.DotFree page.mount.path)
    (hflag : page.base.contextRelative = false) (hbase : page.base.segments = [s]) (hs : s ≠ [])
    (htarget : Url.parse target.print = .ok target) (hhost : target.host = none)
    (hne : target.segments ≠ []) (hr : target.segments.isRooted = false)
    (hdot : Path.DotFree target.segments) :
    ∃ r, Url.parse (page.mount.climb ++ target.print) = .ok r ∧
      page.resolve r = page.resolve { target with contextRelative := true } := by
  refine ⟨_, Url.parse_climb_print htarget hhost hne page.mount, ?_⟩
  have hnamed : target.contextRelative = false := Url.contextRelative_of_parse htarget
  have hclimb := @resolvedPath_climb page { target with
    segments := List.replicate page.mount.filter.length Path.up ++ target.segments } s
    target.segments hmount hflag hbase hs hnamed hhost rfl hne hr hdot
  have hflagged := @resolvedPath_of_contextRelative { target with contextRelative := true } rfl
    hhost hdot page
  rw [Path.unrooted_of_not_rooted hr] at hflagged
  rw [resolve, resolve, hclimb, hflagged]
  rfl

/-- The page `p` of the server `http://h:81`, below the filter path `/a/b` of an application at
`/ctx`. -/
def deepPage : Page where
  base := { scheme := some "http".toList, host := some ['h'], port := Port.ofText? "81".toList
            segments := [['p']] }
  mount := .ofTexts "/ctx".toList "/a/b".toList

/-- A page on a server, two directories below the context root, and an address with an empty
segment, a query and a fragment. -/
theorem resolve_climb_filter :
    ∃ r, Url.parse "../../x//y?q#f".toList = .ok r ∧
      (deepPage.resolve r).value = "http://h:81/ctx/x//y?q#f".toList := by
  obtain ⟨r, hr, he⟩ := @resolve_climb deepPage
    { segments := [['x'], [], ['y']], query := [⟨['q'], []⟩], fragment := some ['f'] } ['p']
    (by decide) rfl rfl (by decide) (by rfl) rfl (by decide) rfl (by decide)
  exact ⟨r, hr, congrArg Logged.value he⟩

end Page

end Hyperlink
