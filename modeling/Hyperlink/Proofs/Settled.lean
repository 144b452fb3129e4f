import Hyperlink.Proofs.WellFormed

/-!
Addresses that are read back as they are written.

Writing what has been read only leaves characters out (`print_sublist`): blanks, leading zeros,
empty pairs of a query. So an address that is read back from its own text has a clean text, and
query and fragment are read back behind any path (`ofTail_suffix`).
-/

namespace Hyperlink

namespace Text

variable {sep : Text}

theorem intercalate_map_sublist {f : Text → Text} (h : ∀ s, (f s).Sublist s) : ∀ l : List Text,
    (sep.intercalate (l.map f)).Sublist (sep.intercalate l)
  | [] => List.Sublist.refl _
  | [s] => by simpa using h s
  | s :: t :: l => by
    rw [List.map_cons, List.map_cons, List.intercalate_cons_cons, List.intercalate_cons_cons,
      ← List.map_cons]
    exact ((h s).append (List.Sublist.refl _)).append (intercalate_map_sublist h (t :: l))

theorem intercalate_sublist {l l' : List Text} (h : l.Sublist l') :
    (sep.intercalate l).Sublist (sep.intercalate l') := by
  induction h with
  | slnil => exact List.Sublist.refl _
  | @cons l l' s _ ih =>
    cases l' with
    | nil => exact ih.trans (List.nil_sublist _)
    | cons t l' =>
      rw [List.intercalate_cons_cons]
      exact ih.trans (List.sublist_append_right _ _)
  | @cons_cons l l' s hsub ih =>
    cases l with
    | nil =>
      cases l' with
      | nil => exact List.Sublist.refl _
      | cons t l' =>
        rw [List.intercalate_cons_cons, List.append_assoc]
        simp
    | cons u l =>
      cases l' with
      | nil => simp at hsub
      | cons t l' =>
        rw [List.intercalate_cons_cons, List.intercalate_cons_cons]
        exact ((List.Sublist.refl s).append (List.Sublist.refl sep)).append ih

theorem suffix_intercalate_concat (a : Text) (l : List Text) :
    a <:+ sep.intercalate (l ++ [a]) := by
  induction l with
  | nil => simp
  | cons s l ih =>
    rw [List.cons_append, List.intercalate_cons_of_ne_nil (by simp)]
    exact ih.trans (List.suffix_append _ _)

theorem behind_sublist {c : Char} {a b : Option Text} (h : ∀ s ∈ a, ∃ t ∈ b, s.Sublist t) :
    (behind c a).Sublist (behind c b) := by
  cases a with
  | none => exact List.nil_sublist _
  | some s =>
    obtain ⟨t, ht, hsub⟩ := h s rfl
    rw [Option.mem_def.1 ht]
    exact hsub.cons_cons c

end Text

namespace Path

/-- The text of a path ends as its last segment does. -/
theorem getLast?_toText {s : Text} {c : Char} (hc : c ∈ s.getLast?) {p : Path}
    (hs : s ∈ p.getLast?) : (toText p).getLast? = some c := by
  obtain ⟨q, rfl⟩ := List.getLast?_eq_some_iff.1 hs
  obtain ⟨front, hfront⟩ := @Text.suffix_intercalate_concat ['/'] s q
  rw [toText, ← hfront, List.getLast?_append, Option.mem_def.1 hc]
  rfl

end Path

namespace Query

theorem print_ofPair_sublist (pair : Text) : (Parameter.ofPair pair).print.Sublist pair := by
  have hcut : pair = (Text.cut '=' pair).1 ++ Text.behind '=' (Text.cut '=' pair).2 :=
    Text.cut_append '=' pair
  generalize hparts : Text.cut '=' pair = parts at hcut
  obtain ⟨name, value⟩ := parts
  rw [Parameter.ofPair, hparts, hcut]
  cases value with
  | none => simp [Parameter.print]
  | some value =>
    unfold Parameter.print
    split
    · exact List.sublist_append_left _ _
    · exact List.Sublist.refl _

/-- Written again, a query loses its empty pairs and the `=` of its empty values. -/
theorem print_ofText_sublist (s : Text) : (print (ofText s)).Sublist s := by
  have h : (print (ofText s)).Sublist (['&'].intercalate (s.splitOn '&')) := by
    rw [print_eq_intercalate, ofText, List.map_map]
    exact (Text.intercalate_map_sublist print_ofPair_sublist _).trans
      (Text.intercalate_sublist List.filter_sublist)
  rwa [List.intercalate_splitOn] at h

end Query

namespace Url

theorem Spells.printOrigin_sublist {origin : Text} {scheme host : Option Text} {port : Option Port}
    (h : Spells origin scheme host port) : (printOrigin scheme host port).Sublist origin := by
  cases h with
  | none => exact List.Sublist.refl _
  | some _ _ hsub =>
    rw [printOrigin_port]
    exact (List.Sublist.refl _).append hsub

section Read

variable {input : Text} {u : Url}

theorem printPath_of_parse (h : parse input = .ok u) : u.printPath = u.segments.toText :=
  (wellFormed_of_parse h).printPath_eq

/-- Written again, an address is what was read with some characters left out. -/
theorem print_sublist (h : parse input = .ok u) : u.print.Sublist input.clean := by
  have hpath := printPath_of_parse h
  obtain ⟨origin, path, query, fragment, hclean, -, -, hspells, -, hu⟩ := eq_of_parse h
  have hsegments : u.segments.toText = path := by rw [hu, Path.toText_ofText]
  have hquery : u.query = (query.map Query.ofText).getD [] := by rw [hu]
  have hfragment : u.fragment = fragment.filter (· ≠ []) := by rw [hu]
  rw [print_eq, hpath, hsegments, suffix, hclean, List.append_assoc, List.append_assoc path]
  refine hspells.printOrigin_sublist.append ((List.Sublist.refl path).append ?_)
  refine (Text.behind_sublist ?_).append (Text.behind_sublist ?_)
  · intro s hs
    rw [hquery] at hs
    cases query with
    | none => simp at hs
    | some q =>
      obtain ⟨-, rfl⟩ : _ ∧ Query.print (Query.ofText q) = s := by simpa using hs
      exact ⟨q, rfl, Query.print_ofText_sublist q⟩
  · intro s hs
    rw [hfragment] at hs
    exact ⟨s, (Option.mem_filter_iff.1 hs).1, List.Sublist.refl s⟩

/-- The query is what the two cuts leave, whatever stands before it. -/
theorem query_of_parse (h : parse input = .ok u) :
    u.query = (ofTail none none none input.clean).query := by
  obtain ⟨_, _, _, _, -, -, rfl⟩ := exists_take_of_parse h
  rfl

end Read

/-! ### Read back as written -/

section Settled

variable {u : Url} (h : parse u.print = .ok u)
include h

theorem clean_print : u.print.clean = u.print :=
  (Text.clean_sublist _).antisymm (print_sublist h)

theorem isClean_print : Text.IsClean u.print := Text.clean_eq_self_iff.1 (clean_print h)

/-- The authority is read back from what is written for it. -/
theorem parse_authority_of_parse_print {host : Text} (hhost : u.host = some host) :
    Authority.parse (host ++ Port.tail u.port) = .ok ⟨host, u.port⟩ := by
  have hw := wellFormed_of_parse h
  obtain ⟨scheme, authority, rest, path, hscheme, hauthority, hu⟩ := exists_take_of_parse h
  have hfront : tailPath u.print.clean =
      printOrigin u.scheme (some host) u.port ++ u.printPath := by
    rw [clean_print h, print_eq,
      tailPath_append_suffix hw.query fun c hc => (hw.ne_of_mem_front hc).1, hhost]
  obtain ⟨rest', hscheme', hauthority'⟩ := @take_origin u.scheme host u.port
    (fun s hs => (hw.scheme s hs).2) (hw.host host hhost) u.printPath
    (hw.head_printPath (by simp [hhost]))
  -- what is taken off the front is what is written there
  obtain ⟨-, rfl⟩ : scheme = u.scheme ∧ rest = rest' := by
    rw [hfront, hscheme'] at hscheme
    exact (Prod.mk.inj (Except.ok.inj hscheme)).imp Eq.symm Eq.symm
  rw [hauthority'] at hauthority
  cases ha : Authority.parse (host ++ Port.tail u.port) with
  | error e => simp [ha, Except.map] at hauthority
  | ok a =>
    rw [ha] at hauthority
    obtain ⟨rfl, -⟩ := Prod.mk.inj (Except.ok.inj hauthority)
    have hown : u.host = some a.host ∧ u.port = a.port := by rw [hu]; exact ⟨rfl, rfl⟩
    rw [hown.2, ← Option.some.inj (hown.1.symm.trans hhost)]

theorem legible_of_parse_print : u.Legible where
  toWellFormed := wellFormed_of_parse h
  colon _ hhost hc := Authority.colon_of_parse (parse_authority_of_parse_print h hhost) hc
  parameters := by
    have hw := wellFormed_of_parse h
    have hquery := query_of_parse h
    rw [clean_print h, print_eq,
      hw.ofTail_append_suffix fun c hc => (hw.ne_of_mem_front hc).1] at hquery
    exact (Query.ofText_print_eq_self_iff hw.query).1 hquery.symm
  first := (isClean_print h).head
  last := (isClean_print h).last

/-- The query and the fragment are read back behind a path without separators. -/
theorem ofTail_suffix {path : Text} (hpath : ∀ c ∈ path, c ≠ '?' ∧ c ≠ '#')
    (scheme host : Option Text) (port : Option Port) :
    ofTail scheme host port (path ++ u.suffix) =
      { scheme, host, port, segments := Path.ofText path, query := u.query
        fragment := u.fragment } := by
  have hl := legible_of_parse_print h
  rw [hl.ofTail_append_suffix hpath, (Query.ofText_print_eq_self_iff hl.query).2 hl.parameters]

/-- Behind a path, cleaning leaves query and fragment alone, as it does in the written address. -/
theorem cleanEnd_append_suffix {path : Text}
    (hlast : u.suffix = [] → ∀ c ∈ path.getLast?, Text.isEdgeBlank c = false)
    (hinner : ∀ c ∈ path, Text.isTabOrLineEnd c = false) :
    Text.cleanEnd (path ++ u.suffix) = path ++ u.suffix := by
  have hclean := isClean_print h
  rw [print_eq] at hclean
  refine Text.cleanEnd_eq_self ?_ ?_
  · intro c hc
    cases hsuffix : u.suffix.getLast? with
    | some d =>
      obtain rfl : d = c := by simpa [List.getLast?_append, hsuffix] using hc
      exact hclean.last d (by simp [List.getLast?_append, hsuffix])
    | none =>
      have hnil := List.getLast?_eq_none_iff.1 hsuffix
      rw [hnil, List.append_nil] at hc
      exact hlast hnil c hc
  · intro c hc
    rcases List.mem_append.1 hc with hc | hc
    · exact hinner c hc
    · exact hclean.inner c (List.mem_append_right _ hc)

/-- The last segment of an address without query and fragment does not end in a blank. -/
theorem isEdgeBlank_getLast? (hsuffix : u.suffix = []) {s : Text} (hs : s ∈ u.segments.getLast?)
    {c : Char} (hc : c ∈ s.getLast?) : Text.isEdgeBlank c = false := by
  refine (isClean_print h).last c ?_
  rw [print_eq, hsuffix, List.append_nil, printPath_of_parse h, List.getLast?_append,
    Path.getLast?_toText hc hs]
  rfl

/-- Behind the segments of a path that ends as the address does, nothing is cleaned away. -/
theorem cleanEnd_slashed_suffix {p : Path}
    (hinner : ∀ s ∈ p, ∀ c ∈ s, Text.isTabOrLineEnd c = false)
    (hlast : ∀ s ∈ p.getLast?, s = [] ∨ s ∈ u.segments.getLast?) :
    Text.cleanEnd (Path.slashed p ++ u.suffix) = Path.slashed p ++ u.suffix := by
  refine cleanEnd_append_suffix h ?_ (Path.forall_mem_slashed (by decide) hinner)
  intro hsuffix c hc
  obtain ⟨s, hs, hc | rfl⟩ := Path.getLast?_slashed hc
  · rcases hlast s hs with rfl | hs
    · simp at hc
    · exact isEdgeBlank_getLast? h hsuffix hs hc
  · decide

/-- Segments behind an origin are read back, with the query and the fragment behind them. -/
theorem ofTail_slashed_suffix {p : Path} (hp : p ≠ [])
    (hchars : ∀ s ∈ p, ∀ c ∈ s, c ≠ '/' ∧ c ≠ '?' ∧ c ≠ '#' ∧ Text.isTabOrLineEnd c = false)
    (hlast : ∀ s ∈ p.getLast?, s = [] ∨ s ∈ u.segments.getLast?) (scheme host : Option Text)
    (port : Option Port) :
    ofTail scheme host port (Text.cleanEnd (Path.slashed p ++ u.suffix)) =
      { scheme, host, port, segments := [] :: p, query := u.query, fragment := u.fragment } := by
  have hslashed : ∀ c ∈ Path.slashed p, c ≠ '?' ∧ c ≠ '#' :=
    Path.forall_mem_slashed (by decide) fun s hs c hc =>
      have hne := hchars s hs c hc
      ⟨hne.2.1, hne.2.2.1⟩
  have hslash : ∀ s ∈ [] :: p, '/' ∉ s := by
    intro s hs hc
    rcases List.mem_cons.1 hs with rfl | hs
    · simp at hc
    · exact (hchars s hs _ hc).1 rfl
  have hsegments : Path.ofText (Path.slashed p) = [] :: p := by
    rw [← Path.toText_rooted, Path.ofText_toText ⟨List.cons_ne_nil [] p, by simpa using hp⟩ hslash]
  rw [cleanEnd_slashed_suffix h (fun s hs c hc => (hchars s hs c hc).2.2.2) hlast,
    ofTail_suffix h hslashed, hsegments]

end Settled

end Url

end Hyperlink
