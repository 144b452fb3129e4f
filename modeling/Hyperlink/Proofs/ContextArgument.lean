import Hyperlink.Proofs.Grammar
import Hyperlink.Proofs.Padding
import Hyperlink.Proofs.ServerPath
import Hyperlink.Proofs.Unchecked

/-!
Cleaning the path given for a link from the context root.

One leading `/` of that path does not count, and it is dropped before the path is cleaned. Cleaning
the path first makes no difference unless a `/` comes to the front by it (`clean_unslash_clean`). If
one does, the link is that of a text with one `/` more, and what stands behind the slash decides
whether that is the same link (`contextLink_slash_iff`): a second `/` makes a host of what is a path
without the first, a scheme is no scheme behind a `/`, and a blank is not cleaned away there.
-/

namespace Hyperlink

namespace Text

/-- The text without one leading `/`. -/
def unslash (s : Text) : Text := if s.head? = some '/' then s.tail else s

theorem unslash_cons (s : Text) : unslash ('/' :: s) = s := if_pos rfl

theorem unslash_of_head {s : Text} (h : s.head? ≠ some '/') : unslash s = s := if_neg h

/-- Unless cleaning brings a `/` to the front, a text may be cleaned before its leading `/` is
dropped. -/
theorem clean_unslash_clean {s : Text} (h : s.head? = some '/' ∨ s.clean.head? ≠ some '/') :
    s.clean.unslash.clean = s.unslash.clean := by
  by_cases hs : s.head? = some '/'
  · obtain ⟨text, rfl⟩ := List.head?_eq_some_iff.1 hs
    rw [clean_cons (by decide), unslash_cons, unslash_cons, clean_cleanEnd]
  · rw [unslash_of_head (h.resolve_left hs), unslash_of_head hs, clean_clean]

end Text

namespace Path

/-- Seen from anywhere, the root of the application is the directory at that place. -/
theorem relative_orDirectory (base target : Path) :
    relative base target.orDirectory = relative base target := by
  cases target <;> rfl

theorem unrooted_ofText_slash (text : Text) :
    (ofText ('/' :: text)).unrooted = (ofText text).orDirectory := by
  rw [ofText_cons_slash]
  by_cases htext : text = []
  · rw [htext]
    rfl
  · rw [ofText, if_neg htext, orDirectory, if_neg (List.splitOn_ne_nil _ _)]
    rfl

theorem unrooted_ofText {text : Text} (h : text.head? ≠ some '/') :
    (ofText text).unrooted = ofText text := by
  refine unrooted_of_not_rooted (Bool.eq_false_iff.2 fun hr => ?_)
  obtain ⟨p, hp⟩ := exists_of_isRooted hr
  have hne : p ≠ [] := by
    rintro rfl
    exact ofText_ne_root text hp
  have htext : text = slashed p := by rw [← toText_ofText text, hp, toText_rooted]
  exact h (by rw [htext, slashed_eq_cons hne]; rfl)

/-! ### Blanks in a reference -/

theorem countP_toText_unrooted (p : Path) :
    p.unrooted.toText.countP Text.isEdgeBlank = p.toText.countP Text.isEdgeBlank := by
  rcases Bool.eq_false_or_eq_true p.isRooted with hr | hr
  · obtain ⟨q, rfl⟩ := exists_of_isRooted hr
    show (toText q).countP Text.isEdgeBlank = _
    rw [toText_rooted]
    by_cases hq : q = []
    · rw [hq]
      rfl
    · rw [slashed_eq_cons hq, List.countP_cons_of_neg (by decide)]
  · rw [unrooted_of_not_rooted hr]

/-- A reference from the root has as many blanks as its target. -/
theorem countP_relative_nil (target : Path) :
    (relative [] target).countP Text.isEdgeBlank = target.toText.countP Text.isEdgeBlank := by
  have hclose (s : Text) : (closeUp s).countP Text.isEdgeBlank = s.countP Text.isEdgeBlank := by
    unfold closeUp
    split <;> simp [Text.isEdgeBlank]
  have htext : relative [] target = closeUp ("./".toList ++ target.orDirectory.toText) := by
    rw [orDirectory_eq, ← flatMap_slash]
    rfl
  have hdirectory : target.orDirectory.toText = target.toText := by
    cases target <;> rfl
  rw [htext, hclose, hdirectory, List.countP_append]
  simp [Text.isEdgeBlank]

end Path

namespace Url

/-- An address with a host starts with its scheme or with `//`. -/
theorem head?_print {input : Text} {u : Url} (h : parse input = .ok u)
    (hhost : u.host.isSome = true) : u.print.head? ≠ some '.' := by
  obtain ⟨host, hhost⟩ := Option.isSome_iff_exists.1 hhost
  have hvalid := isValid_scheme_of_parse h
  rw [print_eq, hhost]
  cases hscheme : u.scheme with
  | none => simp [printOrigin, printAuthority]
  | some s =>
    have hs := hvalid s hscheme
    obtain ⟨c, rest, rfl⟩ := List.exists_cons_of_ne_nil (Scheme.ne_nil_of_isValid hs)
    have hdot : c ≠ '.' := by
      rintro rfl
      rw [Scheme.isValid, Bool.and_eq_true_iff] at hs
      exact absurd hs.1 (by decide)
    simpa [printOrigin] using hdot

/-- Query and fragment do not depend on the path in front of them. -/
theorem suffix_ofTail_append {front : Text} (h : ∀ c ∈ front, c ≠ '?' ∧ c ≠ '#') (tail : Text) :
    (ofTail none none none (front ++ tail)).suffix = (ofTail none none none tail).suffix := by
  have hf : '#' ∉ front := fun hc => (h _ hc).2 rfl
  have hq : '?' ∉ front := fun hc => (h _ hc).1 rfl
  simp only [ofTail, Text.cut_append_of_not_mem _ hf, Text.cut_append_of_not_mem _ hq]
  rfl

/-- Between the second and the third of three leading slashes there is no host. -/
theorem parse_slashes (text : Text) : parse ('/' :: '/' :: '/' :: text) = .error .host := by
  have hfault : Authority.Fault [] .host :=
    @Authority.Fault.name [] none (by simp) (by simp) (by simp [Host.IsName])
  have hpath : tailPath (Text.clean ('/' :: '/' :: '/' :: text)) =
      '/' :: '/' :: [] ++ '/' :: tailPath (Text.cleanEnd text) := by
    have hclean : Text.clean (['/', '/', '/'] ++ text) = ['/', '/', '/'] ++ Text.cleanEnd text :=
      Text.clean_append (Text.isClean_of_forall (by simp [Text.isEdgeBlank])) (by simp) text
    exact (congrArg tailPath hclean).trans (tailPath_append (by simp) _)
  refine parse_of_fault (.authority ?_ hfault)
  rw [hpath]
  exact .schemeless (by simp) (by simp)

/-- A clean text that starts with one `/` is a path. -/
theorem parse_slash_path {text : Text} (hclean : Text.IsClean ('/' :: text))
    (h : text.head? ≠ some '/') :
    parse ('/' :: text) = .ok (ofTail none none none ('/' :: text)) := by
  have hself := Text.clean_eq_self hclean
  have hpath : tailPath (Text.clean ('/' :: text)) = '/' :: tailPath text := by
    rw [hself, tailPath_cons (by decide)]
  rw [parse_path ?_ ?_, hself]
  · rw [hpath]
    rfl
  · intro t ht
    rw [hpath] at ht
    exact h (head?_tailPath (by rw [(List.cons.inj ht).2]; rfl))

/-- The texts of which a link from the context root makes the same with one more `/` in front. -/
inductive SlashBlind : Text → Prop where
  /-- The host behind the slashes is faulty, and one `/` more leaves no host at all. -/
  | host {text : Text} (fault : parse ('/' :: '/' :: text) = .error .host) :
      SlashBlind ('/' :: '/' :: text)
  /-- A path, which a `/` in front neither hides a scheme of nor keeps a blank in. -/
  | path {text : Text} (head : ∀ c ∈ text.head?, c ≠ '/' ∧ Text.isEdgeBlank c = false)
      (not_scheme : Scheme.split? (tailPath text) = none) : SlashBlind text

end Url

namespace Page

/-! ### Links from the context root -/

section Link

variable {s : Text}

theorem contextLink_of_error {e : ParseError} (h : Url.parse s.unslash = .error e) (page : Page) :
    page.contextLink (some s) = pure (.error (.malformed e)) := by
  rw [Text.unslash] at h
  simp only [contextLink, h]

theorem contextLink_of_ok {u : Url} (h : Url.parse s.unslash = .ok u) (page : Page) :
    page.contextLink (some s) =
      if u.host.isSome then pure (.ok u.print)
      else .ok <$> page.relativeLink { u with contextRelative := true } := by
  rw [Text.unslash] at h
  simp only [contextLink, h]

/-- A link depends only on what cleaning leaves of the path without its leading `/`. -/
theorem contextLink_congr {t : Text} (h : s.unslash.clean = t.unslash.clean) (page : Page) :
    page.contextLink (some s) = page.contextLink (some t) := by
  have hparse : Url.parse s.unslash = Url.parse t.unslash := Url.parse_congr h
  cases ht : Url.parse t.unslash with
  | error e => rw [contextLink_of_error (hparse.trans ht), contextLink_of_error ht]
  | ok u => rw [contextLink_of_ok (hparse.trans ht), contextLink_of_ok ht]

theorem contextLink_of_path {tail : Text}
    (h : Url.parse s.unslash = .ok (.ofTail none none none tail)) (page : Page) :
    (page.contextLink (some s)).value =
      .ok (Path.relative (page.mount.fromContext page.base)
          (Path.ofText (Url.tailPath tail)).unrooted ++
        (Url.ofTail none none none tail).suffix) := by
  rw [contextLink_of_ok h, if_neg (by simp [Url.ofTail]), Logged.map_value,
    relativeLink_value_of_contextRelative rfl]
  rfl

/-- From the root of the server, the link to a path has as many blanks as the text of the path. -/
theorem countP_contextLink_root {tail : Text}
    (h : Url.parse s.unslash = .ok (.ofTail none none none tail)) :
    ∃ link, (contextLink { base := {} } (some s)).value = .ok link ∧
      link.countP Text.isEdgeBlank = (Url.tailPath tail).countP Text.isEdgeBlank +
        (Url.ofTail none none none tail).suffix.countP Text.isEdgeBlank := by
  refine ⟨_, contextLink_of_path h _, ?_⟩
  have hbase : Mount.root.fromContext {} = [] := rfl
  rw [List.countP_append, hbase, Path.countP_relative_nil, Path.countP_toText_unrooted,
    Path.toText_ofText]

/-- The link starts with a dot exactly when a path has been read. -/
theorem contextLink_dot_iff (page : Page) (s : Text) :
    (∃ tail, (page.contextLink (some s)).value = .ok ('.' :: tail)) ↔
      ∃ u, Url.parse s.unslash = .ok u ∧ u.host = none := by
  constructor
  · rintro ⟨tail, h⟩
    cases hparse : Url.parse s.unslash with
    | error e =>
      rw [contextLink_of_error hparse] at h
      simp at h
    | ok u =>
      refine ⟨u, rfl, Option.not_isSome_iff_eq_none.1 fun hhost => ?_⟩
      rw [contextLink_of_ok hparse, if_pos hhost, Logged.pure_value] at h
      exact Url.head?_print hparse hhost (by rw [Except.ok.inj h]; rfl)
  · rintro ⟨u, hparse, hhost⟩
    obtain ⟨base, path, hlink⟩ := exists_relativeLink_value page { u with contextRelative := true }
    obtain ⟨dots, tail, hdots, htext, -⟩ := Path.exists_relative_text base path
    rw [contextLink_of_ok hparse, if_neg (by simp [hhost]), Logged.map_value, hlink, htext]
    rcases hdots with rfl | rfl
    · exact ⟨_, rfl⟩
    · exact ⟨_, rfl⟩

end Link

/-! ### One slash more -/

section Slash

variable {text : Text}

/-- With three slashes in front there is no host, so without the first of them there must be a
faulty one. -/
theorem slashBlind_of_slashes {page : Page}
    (h : (page.contextLink (some ('/' :: '/' :: '/' :: '/' :: text))).value =
      (page.contextLink (some ('/' :: '/' :: '/' :: text))).value) :
    Url.SlashBlind ('/' :: '/' :: text) := by
  rw [contextLink_of_error (s := '/' :: '/' :: '/' :: '/' :: text) (Url.parse_slashes text)] at h
  cases hparse : Url.parse ('/' :: '/' :: text) with
  | error e =>
    rw [contextLink_of_error (s := '/' :: '/' :: '/' :: text) hparse] at h
    obtain rfl : ParseError.host = e := by simpa using h
    exact .host hparse
  | ok u =>
    rw [contextLink_of_ok (s := '/' :: '/' :: '/' :: text) hparse] at h
    split at h <;> simp at h

/-- Two slashes in front of an address start a host, one of them starts a path. -/
theorem contextLink_slash_ne (hclean : Text.IsClean ('/' :: text)) (h : text.head? ≠ some '/')
    (page : Page) : (page.contextLink (some ('/' :: '/' :: '/' :: text))).value ≠
      (page.contextLink (some ('/' :: '/' :: text))).value := by
  intro he
  obtain ⟨tail, htail⟩ := (contextLink_dot_iff page ('/' :: '/' :: text)).2
    ⟨_, Url.parse_slash_path hclean h, rfl⟩
  obtain ⟨u, hu, hhost⟩ := (contextLink_dot_iff page ('/' :: '/' :: '/' :: text)).1
    ⟨tail, he.trans htail⟩
  obtain ⟨-, -, hne⟩ := Url.front_of_parse hu hhost
  rw [Text.unslash_cons, Text.clean_cons (by decide), Text.cleanEnd_cons (by decide),
    Url.tailPath_cons (by decide), Url.tailPath_cons (by decide)] at hne
  exact hne _ rfl

/-- Blanks at the start of a path stay in the link behind a `/`, and are cleaned away without it. -/
theorem contextLink_blank_ne {mark rest : Text} (hmark : ∀ c ∈ mark, Text.isEdgeBlank c = true)
    (hne : mark ≠ [])
    (hslash : Url.parse ('/' :: (mark ++ rest)) =
      .ok (.ofTail none none none ('/' :: (mark ++ rest))))
    (hpath : Url.parse (mark ++ rest) = .ok (.ofTail none none none rest)) :
    (contextLink { base := {} } (some ('/' :: '/' :: (mark ++ rest)))).value ≠
      (contextLink { base := {} } (some ('/' :: (mark ++ rest)))).value := by
  obtain ⟨left, hleft, hmore⟩ := @countP_contextLink_root ('/' :: '/' :: (mark ++ rest)) _ hslash
  obtain ⟨right, hright, hless⟩ := @countP_contextLink_root ('/' :: (mark ++ rest)) _ hpath
  have hfront : ∀ c ∈ '/' :: mark, c ≠ '?' ∧ c ≠ '#' := by
    intro c hc
    rcases List.mem_cons.1 hc with rfl | hc
    · decide
    · have hblank := hmark c hc
      constructor <;> rintro rfl <;> revert hblank <;> decide
  have hpos : 0 < mark.countP Text.isEdgeBlank := by
    rw [List.countP_eq_length.2 hmark]
    exact List.length_pos_of_ne_nil hne
  rw [← List.cons_append, Url.tailPath_append hfront, Url.suffix_ofTail_append hfront,
    List.countP_append, List.countP_cons_of_neg (by decide)] at hmore
  intro he
  rw [hleft, hright] at he
  obtain rfl := Except.ok.inj he
  omega

theorem contextLink_slash_of_slashBlind (hclean : Text.IsClean ('/' :: text))
    (h : Url.SlashBlind text) (page : Page) :
    (page.contextLink (some ('/' :: '/' :: text))).value =
      (page.contextLink (some ('/' :: text))).value := by
  cases h with
  | @host text fault =>
    rw [contextLink_of_error (s := '/' :: '/' :: '/' :: '/' :: text) (Url.parse_slashes text),
      contextLink_of_error (s := '/' :: '/' :: '/' :: text) fault]
  | path head not_scheme =>
    have hhead : text.head? ≠ some '/' := fun hc => (head '/' hc).1 rfl
    have hself : text.clean = text :=
      Text.clean_eq_self (@Text.IsClean.of_append ['/'] text hclean fun c hc => (head c hc).2)
    have hpath : Url.parse text = .ok (.ofTail none none none text) := by
      rw [Url.parse_path ?_ ?_, hself]
      · rw [hself, not_scheme]
      · intro t ht
        rw [hself] at ht
        exact hhead (Url.head?_tailPath (by rw [ht]; rfl))
    have hunrooted : (Path.ofText (Url.tailPath text)).unrooted = Path.ofText (Url.tailPath text) :=
      Path.unrooted_ofText fun hc => hhead (Url.head?_tailPath hc)
    rw [contextLink_of_path (s := '/' :: '/' :: text) (Url.parse_slash_path hclean hhead),
      contextLink_of_path (s := '/' :: text) hpath, hunrooted, Url.tailPath_cons (by decide),
      Path.unrooted_ofText_slash, Path.relative_orDirectory, ← List.singleton_append,
      Url.suffix_ofTail_append (by simp)]

theorem slashBlind_of_contextLink (hclean : Text.IsClean ('/' :: text))
    (h : ∀ page : Page, (page.contextLink (some ('/' :: '/' :: text))).value =
      (page.contextLink (some ('/' :: text))).value) : Url.SlashBlind text := by
  by_cases hhead : text.head? = some '/'
  · obtain ⟨rest, rfl⟩ := List.head?_eq_some_iff.1 hhead
    by_cases hmore : rest.head? = some '/'
    · obtain ⟨rest, rfl⟩ := List.head?_eq_some_iff.1 hmore
      exact slashBlind_of_slashes (h { base := {} })
    · have hrest : Text.IsClean ('/' :: rest) :=
        @Text.IsClean.of_append ['/'] _ hclean (by simp [Text.isEdgeBlank])
      exact absurd (h { base := {} }) (contextLink_slash_ne hrest hmore _)
  · have hslash := Url.parse_slash_path hclean hhead
    -- behind the slash a path is read, so the other link is one to a path as well
    obtain ⟨tail, htail⟩ := (contextLink_dot_iff { base := {} } ('/' :: '/' :: text)).2
      ⟨_, hslash, rfl⟩
    obtain ⟨u, hu, hhost⟩ := (contextLink_dot_iff { base := {} } ('/' :: text)).1
      ⟨tail, (h _).symm.trans htail⟩
    rw [Text.unslash_cons] at hu
    obtain ⟨-, hsplit, -⟩ := Url.front_of_parse hu hhost
    obtain rfl := Url.eq_ofTail_of_parse hu hhost
    obtain ⟨mark, hmark, htext⟩ := @Text.IsClean.exists_eq_append_clean ['/'] text hclean
    by_cases hne : mark = []
    · rw [hne, List.nil_append] at htext
      rw [← htext] at hsplit
      refine .path (fun c hc => ⟨?_, ?_⟩) hsplit
      · rintro rfl
        exact hhead hc
      · exact (Text.isClean_clean text).head c (htext ▸ hc)
    · generalize text.clean = rest at hu htext
      subst htext
      exact absurd (h { base := {} }) (contextLink_blank_ne hmark hne hslash hu)

/-- A `/` in front of what is given makes no difference exactly for the texts that are blind to
it. -/
theorem contextLink_slash_iff (hclean : Text.IsClean ('/' :: text)) :
    (∀ page : Page, (page.contextLink (some ('/' :: '/' :: text))).value =
        (page.contextLink (some ('/' :: text))).value) ↔ Url.SlashBlind text :=
  ⟨slashBlind_of_contextLink hclean, contextLink_slash_of_slashBlind hclean⟩

end Slash

/-! ### Cleaning first -/

/-- The link to a path is that to the cleaned path, on every page, exactly when the path starts with
a `/`, or cleaning brings none to the front, or only one to which what stands behind it is blind. -/
theorem contextLink_clean_iff (s : Text) :
    (∀ page : Page, (page.contextLink (some s)).value = (page.contextLink (some s.clean)).value) ↔
      s.head? = some '/' ∨ ∀ text, s.clean = '/' :: text → Url.SlashBlind text := by
  by_cases hs : s.head? = some '/' ∨ s.clean.head? ≠ some '/'
  · have hlink (page : Page) : page.contextLink (some s) = page.contextLink (some s.clean) :=
      contextLink_congr (Text.clean_unslash_clean hs).symm page
    refine iff_of_true (fun page => by rw [hlink]) (hs.imp_right fun hhead text htext => ?_)
    exact absurd (by rw [htext]; rfl) hhead
  · obtain ⟨hhead, hcleanHead⟩ := not_or.1 hs
    obtain ⟨text, htext⟩ := List.head?_eq_some_iff.1 (not_not.1 hcleanHead)
    have hclean : Text.IsClean ('/' :: text) := htext ▸ Text.isClean_clean s
    -- as it is, the path is read like one with a second slash in front
    have hlink (page : Page) :
        page.contextLink (some s) = page.contextLink (some ('/' :: '/' :: text)) := by
      refine contextLink_congr ?_ page
      rw [Text.unslash_of_head hhead, Text.unslash_cons, Text.clean_eq_self hclean, htext]
    simp only [hlink, htext]
    rw [contextLink_slash_iff hclean]
    constructor
    · intro h
      refine Or.inr fun rest hrest => ?_
      obtain rfl := (List.cons.inj hrest).2
      exact h
    · intro h
      exact h.resolve_left hhead text rfl

/-- A blank in front of `//x` makes a host of what is a path without it. -/
theorem not_contextLink_clean :
    ¬ ∀ (page : Page) (s : Text),
      (page.contextLink (some s)).value = (page.contextLink (some s.clean)).value := by
  intro h
  have hhost : (contextLink { base := {} } (some " //x".toList)).value = .ok "//x".toList := by rfl
  have hpath : (contextLink { base := {} } (some (Text.clean " //x".toList))).value =
      .ok "./x".toList := by rfl
  have hlink := (hhost.symm.trans (h _ _)).trans hpath
  exact absurd (Except.ok.inj hlink) (by decide)

end Page

end Hyperlink
