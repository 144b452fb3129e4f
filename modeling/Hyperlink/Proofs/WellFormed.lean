import Hyperlink.Proofs.DotSegments
import Hyperlink.Proofs.Reading

/-!
Well-formed addresses.

In a well-formed address no part holds what would end it, and no part is taken for another one.
Reading makes no other addresses (`wellFormed_of_parse`). The parts of a well-formed address are
found again in its text (`Legible.take_front`, `WellFormed.ofTail_append_suffix`), and the whole address
is read back if it is legible (`Legible.parse_print`).
-/

namespace Hyperlink

/-! ### Parameters -/

namespace Parameter

/-- A parameter whose name and value hold nothing that would end them. -/
structure WellFormed (p : Parameter) : Prop where
  name : ∀ c ∈ p.name, c ≠ '&' ∧ c ≠ '=' ∧ c ≠ '#' ∧ Text.isTabOrLineEnd c = false
  value : ∀ c ∈ p.value, c ≠ '&' ∧ c ≠ '#' ∧ Text.isTabOrLineEnd c = false

variable {p : Parameter}

theorem print_eq (p : Parameter) :
    p.print = p.name ++ Text.behind '=' (if p.value = [] then none else some p.value) := by
  unfold print
  split
  · exact (List.append_nil p.name).symm
  · rfl

theorem print_eq_nil_iff : p.print = [] ↔ p.name = [] ∧ p.value = [] := by
  rw [print_eq, List.append_eq_nil_iff]
  split
  · next h => simp [h]
  · next h => simp [h]

theorem mem_print {c : Char} (h : c ∈ p.print) : c ∈ p.name ∨ c ∈ p.value ∨ c = '=' := by
  rw [print_eq, List.mem_append] at h
  rcases h with h | h
  · exact Or.inl h
  · split at h
    · simp at h
    · exact Or.inr (List.mem_cons.1 h).symm

/-- A pair is cut at its first `=`, which no name holds. -/
theorem WellFormed.ofPair_print (h : p.WellFormed) : ofPair p.print = p := by
  have heq : '=' ∉ p.name := fun hc => (h.name _ hc).2.1 rfl
  rw [ofPair, print_eq, Text.cut_append_behind heq]
  by_cases hvalue : p.value = []
  · rw [if_pos hvalue, Option.getD_none, ← hvalue]
  · rw [if_neg hvalue, Option.getD_some]

theorem WellFormed.ne_of_mem_print (h : p.WellFormed) {c : Char} (hc : c ∈ p.print) :
    c ≠ '&' ∧ c ≠ '#' ∧ Text.isTabOrLineEnd c = false := by
  rcases mem_print hc with hc | hc | rfl
  · obtain ⟨hamp, -, hhash, htab⟩ := h.name c hc
    exact ⟨hamp, hhash, htab⟩
  · exact h.value c hc
  · decide

theorem wellFormed_ofPair {pair : Text}
    (h : ∀ c ∈ pair, c ≠ '&' ∧ c ≠ '#' ∧ Text.isTabOrLineEnd c = false) :
    (ofPair pair).WellFormed := by
  have hcut : pair = _ ++ Text.behind '=' _ := Text.cut_append '=' pair
  have hname := Text.not_mem_cut '=' pair
  rw [ofPair]
  generalize Text.cut '=' pair = parts at hcut hname ⊢
  obtain ⟨name, value⟩ := parts
  subst hcut
  refine ⟨fun c hc => ?_, fun c hc => ?_⟩
  · obtain ⟨hamp, hhash, htab⟩ := h c (List.mem_append_left _ hc)
    exact ⟨hamp, fun he => hname (he ▸ hc), hhash, htab⟩
  · cases value with
    | none => simp at hc
    | some value => exact h c (List.mem_append_right _ (List.mem_cons_of_mem _ hc))

end Parameter

namespace Query

/-- Texts of parameters are told apart again, but for the empty ones. -/
theorem ofText_intercalate {pairs : List Text} (h : ∀ pair ∈ pairs, '&' ∉ pair) :
    ofText (['&'].intercalate pairs) =
      (pairs.filter fun pair => !pair.isEmpty).map Parameter.ofPair := by
  by_cases hnil : pairs = []
  · rw [hnil]
    rfl
  · rw [ofText, List.splitOn_intercalate '&' h hnil]

/-- A query is read back from its text, but for the parameters that have no text. -/
theorem ofText_print {q : Query} (h : ∀ p ∈ q, p.WellFormed) :
    ofText q.print = q.filter fun p => !p.print.isEmpty := by
  rw [print_eq_intercalate, ofText_intercalate, List.filter_map, List.map_map]
  · refine (List.map_congr_left fun p hp => ?_).trans (List.map_id _)
    exact (h p (List.mem_filter.1 hp).1).ofPair_print
  · intro pair hpair hc
    obtain ⟨p, hp, rfl⟩ := List.mem_map.1 hpair
    exact ((h p hp).ne_of_mem_print hc).1 rfl

theorem ofText_print_eq_self_iff {q : Query} (h : ∀ p ∈ q, p.WellFormed) :
    ofText q.print = q ↔ ∀ p ∈ q, p.name ≠ [] ∨ p.value ≠ [] := by
  rw [ofText_print h, List.filter_eq_self]
  refine forall₂_congr fun p _ => ?_
  rw [Bool.not_eq_true', List.isEmpty_eq_false_iff, ne_eq, Parameter.print_eq_nil_iff, not_and_or]

theorem ne_of_mem_print {q : Query} (h : ∀ p ∈ q, p.WellFormed) {c : Char} (hc : c ∈ q.print) :
    c ≠ '#' ∧ Text.isTabOrLineEnd c = false := by
  rw [print_eq_intercalate] at hc
  obtain ⟨pair, hpair, hc⟩ | hc := Text.mem_of_mem_intercalate hc
  · obtain ⟨p, hp, rfl⟩ := List.mem_map.1 hpair
    exact ((h p hp).ne_of_mem_print hc).2
  · obtain rfl := List.mem_singleton.1 hc
    decide

theorem wellFormed_ofText {s : Text} (h : ∀ c ∈ s, c ≠ '#' ∧ Text.isTabOrLineEnd c = false) :
    ∀ p ∈ ofText s, p.WellFormed := by
  intro p hp
  obtain ⟨pair, hpair, rfl⟩ := List.mem_map.1 hp
  obtain ⟨hpair, -⟩ := List.mem_filter.1 hpair
  refine Parameter.wellFormed_ofPair fun c hc => ⟨?_, h c ?_⟩
  · rintro rfl
    exact Path.not_mem_of_mem_splitOn hpair hc
  · have hs : ['&'].intercalate (s.splitOn '&') = s := List.intercalate_splitOn '&'
    exact hs ▸ Text.mem_intercalate hc hpair

end Query

/-! ### Paths without a host -/

namespace Path

/-- A path that can be written without a host in front: it is not a lone root marker, which would
get a `/`, and its text shows neither an authority nor a scheme. -/
structure StandsAlone (p : Path) : Prop where
  not_root : p ≠ [[]]
  not_authority : ∀ rest, rest ≠ [] → p ≠ [] :: [] :: rest
  not_scheme : ∀ s rest, rest ≠ [] → p ≠ (s ++ [':']) :: [] :: rest

variable {p : Path}

/-- Two slashes in a row stand around an empty segment. -/
theorem slashed_append_eq_slashes_iff (hp : ∀ s ∈ p, '/' ∉ s) {tail : Text}
    (htail : ∀ t, tail ≠ '/' :: t) :
    (∃ t, slashed p ++ tail = '/' :: '/' :: t) ↔ ∃ rest, rest ≠ [] ∧ p = [] :: rest := by
  cases p with
  | nil => simp [htail]
  | cons s p =>
    cases s with
    | nil =>
      cases p with
      | nil => simp [htail]
      | cons u p => simp
    | cons c s =>
      have hc : c ≠ '/' := fun he => hp _ List.mem_cons_self (he ▸ List.mem_cons_self)
      simp [hc]

theorem slashed_eq_slashes_iff (hp : ∀ s ∈ p, '/' ∉ s) :
    (∃ t, slashed p = '/' :: '/' :: t) ↔ ∃ rest, rest ≠ [] ∧ p = [] :: rest := by
  simpa using @slashed_append_eq_slashes_iff p hp [] (by simp)

/-- The text of a path starts with `//` when the path starts with two empty segments. -/
theorem toText_eq_slashes_iff (hp : ∀ s ∈ p, '/' ∉ s) :
    (∃ t, toText p = '/' :: '/' :: t) ↔ ∃ rest, rest ≠ [] ∧ p = [] :: [] :: rest := by
  cases p with
  | nil => simp [toText]
  | cons s p =>
    cases s with
    | nil =>
      rw [toText_rooted, slashed_eq_slashes_iff fun s hs => hp s (List.mem_cons_of_mem _ hs)]
      simp
    | cons c s =>
      have hc : c ≠ '/' := fun he => hp _ List.mem_cons_self (he ▸ List.mem_cons_self)
      simp [toText_cons, hc]

/-- The text of a path shows a scheme when a colon ends the first segment and the second is empty. -/
theorem isSome_split?_toText_iff (hp : ∀ s ∈ p, '/' ∉ s) :
    (Scheme.split? (toText p)).isSome = true ↔
      ∃ s rest, rest ≠ [] ∧ p = (s ++ [':']) :: [] :: rest := by
  constructor
  · intro h
    obtain ⟨⟨scheme, tail⟩, hsplit⟩ := Option.isSome_iff_exists.1 h
    obtain ⟨htext, t, rfl⟩ := Scheme.eq_of_split? hsplit
    have hscheme : '/' ∉ scheme ++ [':'] := by
      simpa using Scheme.not_mem_of_split? hsplit
    cases p with
    | nil => simp [toText] at htext
    | cons s p =>
      have hs : '/' ∉ s := hp s List.mem_cons_self
      have hrest : ∀ s ∈ p, '/' ∉ s := fun s hs => hp s (List.mem_cons_of_mem _ hs)
      -- both sides are cut at their first `/`
      rw [toText_cons, List.append_cons scheme ':'] at htext
      have hcut := congrArg (Text.cut '/') htext
      rw [Text.cut_append_of_not_mem _ hs, Text.cut_append_of_not_mem _ hscheme,
        Text.cut_cons_self, List.append_nil] at hcut
      have hfirst : (Text.cut '/' (slashed p)).1 = [] := by
        cases p with
        | nil => rfl
        | cons u p => rw [slashed_cons, List.cons_append, Text.cut_cons_self]
      rw [hfirst, List.append_nil] at hcut
      obtain ⟨rfl, -⟩ := Prod.mk.inj hcut
      obtain ⟨rest, hne, rfl⟩ :=
        (slashed_eq_slashes_iff hrest).1 ⟨t, List.append_cancel_left htext⟩
      exact ⟨scheme, rest, hne, rfl⟩
  · rintro ⟨s, rest, hne, rfl⟩
    have hs : '/' ∉ s := by
      simpa using hp _ List.mem_cons_self
    rw [toText_cons, slashed_cons, slashed_eq_cons hne, List.append_assoc]
    exact Option.isSome_iff_exists.2 ⟨_, Scheme.split?_append hs _⟩

end Path

/-! ### Addresses -/

namespace Url

/-- An address of which no part holds what would end it or is taken for another part. -/
structure WellFormed (u : Url) : Prop where
  contextRelative : u.contextRelative = false
  scheme : ∀ s ∈ u.scheme, u.host.isSome = true ∧ Scheme.isValid s = true
  port : u.port.isSome = true → u.host.isSome = true
  host : ∀ s ∈ u.host, Host.isValid s = true
  segments : ∀ s ∈ u.segments, ∀ c ∈ s,
    c ≠ '/' ∧ c ≠ '?' ∧ c ≠ '#' ∧ Text.isTabOrLineEnd c = false
  hosted : u.host.isSome = true → u.segments = [] ∨ ∃ p, p ≠ [] ∧ u.segments = [] :: p
  hostless : u.host = none → u.segments.StandsAlone
  query : ∀ p ∈ u.query, p.WellFormed
  fragment : ∀ s ∈ u.fragment, s ≠ [] ∧ ∀ c ∈ s, Text.isTabOrLineEnd c = false

section Read

variable {input : Text} {u : Url}

/-- Without a host all that stands before the query is the path. -/
theorem front_of_parse (h : parse input = .ok u) (hhost : u.host = none) :
    u.segments.toText = tailPath input.clean ∧ Scheme.split? (tailPath input.clean) = none ∧
      ∀ t, tailPath input.clean ≠ '/' :: '/' :: t := by
  obtain ⟨scheme, authority, rest, path, hscheme, hauthority, hu⟩ := exists_take_of_parse h
  have htext : u.segments.toText = path := by rw [hu, Path.toText_ofText]
  obtain rfl : authority = none := by simpa [hu] using hhost
  -- no authority has been taken off, hence no scheme
  obtain ⟨rfl, hne⟩ : path = rest ∧ ∀ t, rest ≠ '/' :: '/' :: t := by
    rcases eq_of_takeAuthority hauthority with ⟨-, hrest, hne⟩ | ⟨_, _, ha, -⟩
    · exact ⟨hrest, hne⟩
    · simp at ha
  obtain ⟨rfl, rfl⟩ : scheme = none ∧ path = tailPath input.clean := by
    rcases eq_of_takeScheme hscheme with hnone | ⟨_, t, -, -, ht, -⟩
    · exact hnone
    · exact absurd ht (hne t)
  exact ⟨htext, split?_of_takeScheme hscheme, hne⟩

/-- What is read without a host is a path, with query and fragment. -/
theorem eq_ofTail_of_parse (h : parse input = .ok u) (hhost : u.host = none) :
    u = ofTail none none none input.clean := by
  obtain ⟨-, hsplit, hne⟩ := front_of_parse h hhost
  rw [parse_path hsplit hne] at h
  exact (Except.ok.inj h).symm

theorem standsAlone_of_parse (h : parse input = .ok u) (hhost : u.host = none) :
    u.segments.StandsAlone := by
  have hslash : ∀ s ∈ u.segments, '/' ∉ s := fun s hs hc => (ne_of_mem_segments h hs hc).1 rfl
  obtain ⟨htext, hsplit, hne⟩ := front_of_parse h hhost
  refine ⟨segments_ne_root_of_parse h, fun p hp he => ?_, fun s p hp he => ?_⟩
  · obtain ⟨t, ht⟩ := (Path.toText_eq_slashes_iff hslash).2 ⟨p, hp, he⟩
    exact hne t (htext ▸ ht)
  · have hsome := (Path.isSome_split?_toText_iff hslash).2 ⟨s, p, hp, he⟩
    rw [htext, hsplit] at hsome
    simp at hsome

theorem wellFormed_of_parse (h : parse input = .ok u) : u.WellFormed where
  contextRelative := contextRelative_of_parse h
  scheme s hs := by
    refine ⟨?_, isValid_scheme_of_parse h s hs⟩
    by_contra hhost
    rw [(eq_none_of_parse h (by simpa using hhost)).1] at hs
    simp at hs
  port hport := by
    by_contra hhost
    rw [(eq_none_of_parse h (by simpa using hhost)).2] at hport
    simp at hport
  host := isValid_host_of_parse h
  segments _ hs _ hc := ne_of_mem_segments h hs hc
  hosted hhost := (segments_of_host h hhost).imp_right (exists_of_isRooted h)
  hostless := standsAlone_of_parse h
  query := by
    obtain ⟨origin, path, query, fragment, hclean, -, hf, -, -, hu⟩ := eq_of_parse h
    have htab := (Text.isClean_clean input).inner
    rw [hu]
    cases query with
    | none => simp
    | some q =>
      refine Query.wellFormed_ofText fun c hc => ⟨?_, htab c (by simp [hclean, hc])⟩
      rintro rfl
      exact hf (by simp [hc])
  fragment := by
    obtain ⟨origin, path, query, fragment, hclean, -, -, -, -, hu⟩ := eq_of_parse h
    have htab := (Text.isClean_clean input).inner
    rw [hu]
    intro s hs
    obtain ⟨hs, hne⟩ := Option.mem_filter_iff.1 hs
    rw [Option.mem_def] at hs
    subst hs
    exact ⟨by simpa using hne, fun c hc => htab c (by simp [hclean, hc])⟩

end Read

/-! ### The text of a well-formed address -/

section Front

variable {u : Url} (hquery : ∀ p ∈ u.query, p.WellFormed) {front : Text}
  (hfront : ∀ c ∈ front, c ≠ '?' ∧ c ≠ '#')
include hquery hfront

/-- The cuts behind a text without separators come where query and fragment are written. -/
theorem not_mem_front_query : '?' ∉ front ∧
    '#' ∉ front ++ Text.behind '?' (if u.query = [] then none else some u.query.print) := by
  refine ⟨fun hc => (hfront _ hc).1 rfl, ?_⟩
  rw [List.mem_append]
  rintro (hc | hc)
  · exact (hfront _ hc).2 rfl
  · split at hc
    · simp at hc
    · exact (Query.ne_of_mem_print hquery (by simpa using hc)).1 rfl

theorem tailPath_append_suffix : tailPath (front ++ u.suffix) = front := by
  obtain ⟨hq, hf⟩ := not_mem_front_query hquery hfront
  rw [suffix, ← List.append_assoc, tailPath_behind hq hf]

end Front

namespace WellFormed

variable {u : Url} (h : u.WellFormed)
include h

theorem segments_ne_root : u.segments ≠ [[]] := by
  cases hhost : u.host with
  | none => exact (h.hostless hhost).not_root
  | some host =>
    rcases h.hosted (by simp [hhost]) with hnil | ⟨p, hne, hp⟩
    · simp [hnil]
    · simp [hp, hne]

theorem printPath_eq : u.printPath = u.segments.toText := by
  rw [printPath_eq_ite, if_neg h.segments_ne_root]
  split
  · next hc =>
    simp only [Bool.and_eq_true, Bool.not_eq_true'] at hc
    rcases h.hosted hc.1.1 with hnil | ⟨p, -, hp⟩
    · simp [hnil] at hc
    · simp [hp, Path.isRooted] at hc
  · rfl

/-- Behind a host the path is empty or starts with a `/`. -/
theorem head_printPath (hhost : u.host.isSome = true) : ∀ c ∈ u.printPath.head?, c = '/' := by
  rw [h.printPath_eq]
  rcases h.hosted hhost with hnil | ⟨p, -, hp⟩
  · simp [hnil, Path.toText]
  · rw [hp, Path.toText_rooted]
    exact Path.head?_slashed p

theorem ne_of_mem_path {c : Char} (hc : c ∈ u.segments.toText) :
    c ≠ '?' ∧ c ≠ '#' ∧ Text.isTabOrLineEnd c = false := by
  obtain ⟨s, hs, hmem⟩ | rfl := Path.mem_of_mem_toText hc
  · exact (h.segments s hs c hmem).2
  · decide

/-- Neither the query nor the fragment starts before the end of the path. -/
theorem ne_of_mem_front {c : Char} (hc : c ∈ printOrigin u.scheme u.host u.port ++ u.printPath) :
    (c ≠ '?' ∧ c ≠ '#') ∧ Text.isTabOrLineEnd c = false := by
  rcases List.mem_append.1 hc with hc | hc
  · cases hhost : u.host with
    | none => simp [printOrigin, hhost] at hc
    | some host =>
      rw [hhost] at hc
      obtain ⟨hblank, hne⟩ := ne_of_mem_printOrigin (fun s hs => (h.scheme s hs).2)
        (h.host host hhost) c hc
      exact ⟨hne, Text.isTabOrLineEnd_eq_false hblank⟩
  · obtain ⟨hq, hf, htab⟩ := h.ne_of_mem_path (h.printPath_eq ▸ hc)
    exact ⟨⟨hq, hf⟩, htab⟩

theorem isTabOrLineEnd_of_mem_suffix {c : Char} (hc : c ∈ u.suffix) :
    Text.isTabOrLineEnd c = false := by
  rw [suffix, List.mem_append] at hc
  rcases hc with hc | hc
  · split at hc
    · simp at hc
    · rcases List.mem_cons.1 hc with rfl | hc
      · decide
      · exact (Query.ne_of_mem_print h.query hc).2
  · cases hfragment : u.fragment with
    | none => simp [hfragment] at hc
    | some s =>
      rw [hfragment] at hc
      rcases List.mem_cons.1 hc with rfl | hc
      · decide
      · exact (h.fragment s hfragment).2 c hc

theorem isTabOrLineEnd_of_mem_print {c : Char} (hc : c ∈ u.print) :
    Text.isTabOrLineEnd c = false := by
  rw [print_eq, List.mem_append] at hc
  rcases hc with hc | hc
  · exact (h.ne_of_mem_front hc).2
  · exact h.isTabOrLineEnd_of_mem_suffix hc

/-- The segments are found again in their text. -/
theorem ofText_segments : Path.ofText u.segments.toText = u.segments := by
  by_cases hnil : u.segments = []
  · rw [hnil]
    rfl
  · exact Path.ofText_toText ⟨hnil, h.segments_ne_root⟩ fun s hs hc =>
      (h.segments s hs _ hc).1 rfl

/-- Without a host the path is neither cut at a scheme nor at an authority. -/
theorem take_path (hhost : u.host = none) :
    takeScheme u.segments.toText = .ok (none, u.segments.toText) ∧
      takeAuthority u.segments.toText = .ok (none, u.segments.toText) := by
  have hslash : ∀ s ∈ u.segments, '/' ∉ s := fun s hs hc => (h.segments s hs _ hc).1 rfl
  have halone := h.hostless hhost
  constructor
  · have hsplit : Scheme.split? u.segments.toText = none := by
      rw [← Option.not_isSome_iff_eq_none, Path.isSome_split?_toText_iff hslash]
      rintro ⟨s, rest, hne, he⟩
      exact halone.not_scheme s rest hne he
    rw [takeScheme, hsplit]
  · refine takeAuthority_of_not fun t ht => ?_
    obtain ⟨rest, hne, he⟩ := (Path.toText_eq_slashes_iff hslash).1 ⟨t, ht⟩
    exact halone.not_authority rest hne he

/-- Without a host there is neither scheme nor port. -/
theorem eq_none (hhost : u.host = none) : u.scheme = none ∧ u.port = none := by
  constructor
  · refine Option.eq_none_iff_forall_not_mem.2 fun s hs => ?_
    simpa [hhost] using (h.scheme s hs).1
  · simpa [hhost] using h.port

/-- A text is read as the address if scheme, host and port are taken off its front, then the path, and
the tail from there on is read as the address has it. -/
theorem parse_of_tail {input front tail rest : Text} (hclean : input.clean = front ++ tail)
    (hfront : ∀ c ∈ front, c ≠ '?' ∧ c ≠ '#') (hpath : tailPath tail = u.segments.toText)
    (hscheme : takeScheme (front ++ u.segments.toText) = .ok (u.scheme, rest))
    (hauthority : takeAuthority rest =
      .ok (u.host.map fun host => ⟨host, u.port⟩, u.segments.toText))
    (htail : ofTail u.scheme u.host u.port tail = u) : parse input = .ok u := by
  rw [← hpath] at hscheme hauthority
  rw [parse_of_take hclean hfront hscheme hauthority]
  cases hhost : u.host with
  | none =>
    rw [hhost, (h.eq_none hhost).2] at htail
    exact congrArg _ htail
  | some host =>
    rw [hhost] at htail
    exact congrArg _ htail

/-- Query and fragment behind a path without separators: a parameter without a text is lost. -/
theorem ofTail_append_suffix {front : Text} (hfront : ∀ c ∈ front, c ≠ '?' ∧ c ≠ '#')
    (scheme host : Option Text) (port : Option Port) :
    ofTail scheme host port (front ++ u.suffix) =
      { scheme, host, port, segments := Path.ofText front
        query := Query.ofText u.query.print
        fragment := u.fragment } := by
  obtain ⟨hq, hf⟩ := not_mem_front_query h.query hfront
  have hquery : ((if u.query = [] then none else some u.query.print).map Query.ofText).getD [] =
      Query.ofText u.query.print := by
    split
    · next hnil => rw [hnil]; rfl
    · rfl
  have hfragment : u.fragment.filter (· ≠ []) = u.fragment := by
    cases hsome : u.fragment with
    | none => rfl
    | some s => simp [(h.fragment s hsome).1]
  rw [suffix, ← List.append_assoc, ofTail_append hq hf, hquery, hfragment]

end WellFormed

/-- A well-formed address that nothing is lost of when it is written and read. -/
structure Legible (u : Url) : Prop extends WellFormed u where
  /-- A colon of the host is not taken for that of the port. -/
  colon : ∀ host ∈ u.host, ':' ∈ host →
    (Host.bracketed? host).isSome = true ∨ u.port.isSome = true
  /-- Each parameter has a text. -/
  parameters : ∀ p ∈ u.query, p.name ≠ [] ∨ p.value ≠ []
  first : ∀ c ∈ u.print.head?, Text.isEdgeBlank c = false
  last : ∀ c ∈ u.print.getLast?, Text.isEdgeBlank c = false

namespace Legible

variable {u : Url} (h : u.Legible)
include h

theorem isClean_print : Text.IsClean u.print :=
  ⟨h.first, h.last, fun _ hc => h.isTabOrLineEnd_of_mem_print hc⟩

/-- Scheme and authority are taken off the front as they are written there. -/
theorem take_front : ∃ rest,
    takeScheme (printOrigin u.scheme u.host u.port ++ u.segments.toText) = .ok (u.scheme, rest) ∧
      takeAuthority rest = .ok (u.host.map fun host => ⟨host, u.port⟩, u.segments.toText) := by
  cases hhost : u.host with
  | none =>
    rw [(h.eq_none hhost).1]
    exact ⟨_, h.take_path hhost⟩
  | some host =>
    refine takeAuthority_origin (fun s hs => (h.scheme s hs).2) (h.host host hhost)
      (h.colon host hhost) ?_
    exact h.printPath_eq ▸ h.head_printPath (by simp [hhost])

theorem parse_print : parse u.print = .ok u := by
  obtain ⟨rest, hscheme, hauthority⟩ := h.take_front
  have hpath : ∀ c ∈ u.segments.toText, c ≠ '?' ∧ c ≠ '#' := fun c hc =>
    ⟨(h.ne_of_mem_path hc).1, (h.ne_of_mem_path hc).2.1⟩
  have hclean : u.print.clean =
      printOrigin u.scheme u.host u.port ++ (u.segments.toText ++ u.suffix) := by
    rw [Text.clean_eq_self h.isClean_print, print_eq, List.append_assoc, h.printPath_eq]
  refine h.parse_of_tail hclean (fun c hc => (h.ne_of_mem_front (List.mem_append_left _ hc)).1)
    (tailPath_append_suffix h.query hpath) hscheme hauthority ?_
  rw [h.ofTail_append_suffix hpath, h.ofText_segments,
    (Query.ofText_print_eq_self_iff h.query).2 h.parameters, ← h.contextRelative]

end Legible

end Url

end Hyperlink
