import Hyperlink.Proofs.Origin
import Hyperlink.Proofs.Separators

/-!
What reading an address finds.

Behind scheme and authority an address is cut by its separators alone (`ofTail`). A written origin
is read back whatever follows it (`parse_origin_append`), and what has been read is spelled in front
of its tail (`eq_of_parse`).
-/

namespace Hyperlink

namespace Text

theorem head?_cut {c d : Char} {s : Text} (h : d ∈ (cut c s).1.head?) : d ∈ s.head? ∧ d ≠ c := by
  have hne : d ≠ c := by
    rintro rfl
    exact not_mem_cut d s (List.mem_of_mem_head? h)
  refine ⟨?_, hne⟩
  rw [cut_append c s, List.head?_append, Option.mem_def.1 h]
  rfl

variable {sep : Text} {c : Char}

theorem mem_intercalate {s : Text} (hc : c ∈ s) : ∀ {l : List Text}, s ∈ l → c ∈ sep.intercalate l
  | [t], h => by
    obtain rfl := List.mem_singleton.1 h
    simpa using hc
  | t :: u :: l, h => by
    rw [List.intercalate_cons_cons]
    rcases List.mem_cons.1 h with rfl | h
    · simp [hc]
    · simp [mem_intercalate hc h]

theorem mem_of_mem_intercalate : ∀ {l : List Text}, c ∈ sep.intercalate l →
    (∃ s ∈ l, c ∈ s) ∨ c ∈ sep
  | [s], h => Or.inl ⟨s, List.mem_cons_self, by simpa using h⟩
  | s :: t :: l, h => by
    rw [List.intercalate_cons_cons, List.mem_append, List.mem_append] at h
    rcases h with (h | h) | h
    · exact Or.inl ⟨s, List.mem_cons_self, h⟩
    · exact Or.inr h
    · refine (mem_of_mem_intercalate h).imp_left ?_
      rintro ⟨r, hr, hc⟩
      exact ⟨r, List.mem_cons_of_mem s hr, hc⟩

end Text

namespace Path

theorem mem_toText {c : Char} {s : Text} (hc : c ∈ s) {p : Path} (h : s ∈ p) : c ∈ toText p :=
  Text.mem_intercalate hc h

theorem mem_of_mem_toText {c : Char} {p : Path} (h : c ∈ toText p) : (∃ s ∈ p, c ∈ s) ∨ c = '/' :=
  (Text.mem_of_mem_intercalate h).imp_right List.mem_singleton.1

theorem mem_of_mem_ofText {text s : Text} {c : Char} (hs : s ∈ ofText text) (hc : c ∈ s) :
    c ∈ text ∧ c ≠ '/' := by
  refine ⟨toText_ofText text ▸ mem_toText hc hs, ?_⟩
  rintro rfl
  unfold ofText at hs
  split at hs
  · simp at hs
  · exact not_mem_of_mem_splitOn hs hc

theorem ofText_ne_root (text : Text) : ofText text ≠ [[]] := by
  intro h
  have : toText (ofText text) = [] := by rw [h]; rfl
  rw [toText_ofText] at this
  rw [this] at h
  simp [ofText] at h

theorem ofText_cons_slash (text : Text) : ofText ('/' :: text) = [] :: text.splitOn '/' := by
  rw [ofText, if_neg (List.cons_ne_nil _ _), List.splitOn_cons_eq_if_modifyHead]
  simp

/-- A path text from the root gives the root marker and at least one segment behind it. -/
theorem ofText_slash (text : Text) : ∃ p, p ≠ [] ∧ ofText ('/' :: text) = [] :: p :=
  ⟨text.splitOn '/', List.splitOn_ne_nil _ _, ofText_cons_slash text⟩

theorem ofText_toText {p : Path} (h : p ≠ [] ∧ p ≠ [[]]) (hp : ∀ s ∈ p, '/' ∉ s) :
    ofText (toText p) = p := by
  have hsplit : (toText p).splitOn '/' = p := List.splitOn_intercalate '/' hp h.1
  rw [ofText, hsplit]
  split
  · next he =>
    rw [he] at hsplit
    exact absurd hsplit.symm (by simpa using h.2)
  · rfl

end Path

namespace Url

/-- The address with this scheme, host and port whose path, query and fragment are read from a
text. -/
def ofTail (scheme host : Option Text) (port : Option Port) (tail : Text) : Url :=
  let (rest, fragment) := Text.cut '#' tail
  let (path, query) := Text.cut '?' rest
  { scheme, host, port
    segments := Path.ofText path
    query := (query.map Query.ofText).getD []
    fragment := fragment.filter (· ≠ []) }

/-- The path text at the front of a tail. -/
def tailPath (tail : Text) : Text := (Text.cut '?' (Text.cut '#' tail).1).1

theorem head?_tailPath {c : Char} {s : Text} (h : c ∈ (tailPath s).head?) : c ∈ s.head? :=
  (Text.head?_cut (Text.head?_cut h).1).1

/-- The path text reaches over what holds no separator. -/
theorem tailPath_append {front : Text} (h : ∀ c ∈ front, c ≠ '?' ∧ c ≠ '#') (tail : Text) :
    tailPath (front ++ tail) = front ++ tailPath tail := by
  have hf : '#' ∉ front := fun hc => (h _ hc).2 rfl
  have hq : '?' ∉ front := fun hc => (h _ hc).1 rfl
  rw [tailPath, Text.cut_append_of_not_mem _ hf, Text.cut_append_of_not_mem _ hq, tailPath]

/-- Once the scheme is taken off the front of the cleaned text, all hangs on the authority: with it the
rest is a tail. -/
theorem parse_of_takeScheme {input front tail rest : Text} {scheme : Option Text}
    {authority : Except ParseError (Option Authority)} (hclean : input.clean = front ++ tail)
    (hfront : ∀ c ∈ front, c ≠ '?' ∧ c ≠ '#')
    (hscheme : takeScheme (front ++ tailPath tail) = .ok (scheme, rest))
    (hauthority : takeAuthority rest = authority.map fun authority => (authority, tailPath tail)) :
    parse input = authority.map fun authority =>
      ofTail scheme (authority.map (·.host)) (authority.bind (·.port)) tail := by
  have hf : '#' ∉ front := fun h => (hfront _ h).2 rfl
  have hq : '?' ∉ front := fun h => (hfront _ h).1 rfl
  rw [tailPath] at hscheme
  simp only [parse, hclean, Text.cut_append_of_not_mem _ hf, Text.cut_append_of_not_mem _ hq,
    hscheme, bind, Except.bind, hauthority]
  cases authority <;> rfl

/-- Once scheme and authority are taken off the front of the cleaned text, the rest is a tail. -/
theorem parse_of_take {input front tail rest : Text} {scheme : Option Text}
    {authority : Option Authority} (hclean : input.clean = front ++ tail)
    (hfront : ∀ c ∈ front, c ≠ '?' ∧ c ≠ '#')
    (hscheme : takeScheme (front ++ tailPath tail) = .ok (scheme, rest))
    (hauthority : takeAuthority rest = .ok (authority, tailPath tail)) :
    parse input =
      .ok (ofTail scheme (authority.map (·.host)) (authority.bind (·.port)) tail) :=
  @parse_of_takeScheme _ _ _ _ _ (.ok authority) hclean hfront hscheme hauthority

/-- A text is a path, with query and fragment, when no `://` stands before its first `/` and no `//`
in front. -/
theorem parse_path {input : Text} (hsplit : Scheme.split? (tailPath input.clean) = none)
    (hne : ∀ t, tailPath input.clean ≠ '/' :: '/' :: t) :
    parse input = .ok (ofTail none none none input.clean) := by
  refine @parse_of_take _ [] _ _ none none rfl (by simp) ?_ (takeAuthority_of_not hne)
  rw [takeScheme, List.nil_append, hsplit]

/-! ### Reading what has been written -/

theorem ne_of_mem_printOrigin {scheme : Option Text} {host : Text} {port : Option Port}
    (hs : ∀ s ∈ scheme, Scheme.isValid s = true) (hv : Host.isValid host = true) :
    ∀ c ∈ printOrigin scheme (some host) port,
      Text.isEdgeBlank c = false ∧ c ≠ '?' ∧ c ≠ '#' := by
  have hauth : ∀ c ∈ printAuthority host port,
      Text.isEdgeBlank c = false ∧ c ≠ '?' ∧ c ≠ '#' := by
    intro c hc
    rw [printAuthority_eq, List.mem_append, List.mem_cons, List.mem_cons] at hc
    rcases hc with (rfl | rfl | hc) | hc
    · decide
    · decide
    · obtain ⟨hb, -, hq, hf, -⟩ := Host.ne_of_isValid hv c hc
      exact ⟨hb, hq, hf⟩
    · obtain ⟨hb, -, hq, hf, -⟩ := Port.ne_of_mem_tail hc
      exact ⟨hb, hq, hf⟩
  intro c hc
  cases scheme with
  | none => exact hauth c hc
  | some s =>
    rcases List.mem_append.1 hc with hc | hc
    · rcases List.mem_append.1 hc with hc | hc
      · have ht := Scheme.isTailChar_of_isValid (hs s rfl) c hc
        obtain ⟨-, -, hq, hf⟩ := Scheme.ne_of_isTailChar ht
        exact ⟨Scheme.isEdgeBlank_of_isTailChar ht, hq, hf⟩
      · obtain rfl := List.mem_singleton.1 hc
        decide
    · exact hauth c hc

/-- The separators that may stand behind an authority. -/
def EndsAuthority (tail : Text) : Prop := ∀ c ∈ tail.head?, c = '/' ∨ c = '?' ∨ c = '#'

theorem EndsAuthority.cleanEnd {tail : Text} (h : EndsAuthority tail) :
    EndsAuthority (Text.cleanEnd tail) := by
  cases tail with
  | nil => exact h
  | cons c tail =>
    have hc := h c rfl
    rw [Text.cleanEnd_cons (by rcases hc with rfl | rfl | rfl <;> decide)]
    simpa [EndsAuthority] using hc

/-- The path of a tail is empty or starts with a `/`. -/
theorem EndsAuthority.head_path {tail : Text} (h : EndsAuthority tail) :
    ∀ c ∈ (tailPath tail).head?, c = '/' := by
  intro c hc
  obtain ⟨hc, hq⟩ := Text.head?_cut hc
  obtain ⟨hc, hf⟩ := Text.head?_cut hc
  rcases h c hc with rfl | rfl | rfl
  · rfl
  · exact absurd rfl hq
  · exact absurd rfl hf

theorem printOrigin_ne_nil (scheme : Option Text) (host : Text) (port : Option Port) :
    printOrigin scheme (some host) port ≠ [] := by
  cases scheme <;> simp [printOrigin, printAuthority_eq]

theorem printOrigin_port (scheme : Option Text) (host : Text) (port : Option Port) :
    printOrigin scheme (some host) port =
      printOrigin scheme (some host) none ++ Port.tail port := by
  simp [printOrigin, printAuthority_eq, Port.tail]

/-- The scheme is taken off the front of an address, and the authority read from what follows, whatever
stands behind the host. -/
theorem take_host {scheme : Option Text} {host text : Text}
    (hs : ∀ s ∈ scheme, Scheme.isValid s = true) (hv : Host.isValid host = true)
    (ht : '/' ∉ text) {path : Text} (hp : ∀ c ∈ path.head?, c = '/') :
    ∃ rest,
      takeScheme (printOrigin scheme (some host) none ++ text ++ path) = .ok (scheme, rest) ∧
      takeAuthority rest =
        (Authority.parse (host ++ text)).map fun authority => (some authority, path) := by
  have hslash : ∀ c ∈ host ++ text, c ≠ '/' := by
    rintro c hc rfl
    rcases List.mem_append.1 hc with hc | hc
    · exact (Host.ne_of_isValid hv _ hc).2.1 rfl
    · exact ht hc
  refine ⟨_, ?_, takeAuthority_append hslash hp⟩
  cases scheme with
  | none =>
    have horigin : printOrigin none (some host) none ++ text ++ path =
        '/' :: '/' :: (host ++ text ++ path) := by
      simp [printOrigin, printAuthority_eq, Port.tail]
    rw [horigin]
    exact takeScheme_slashes _
  | some s =>
    have horigin : printOrigin (some s) (some host) none ++ text ++ path =
        s ++ ':' :: '/' :: '/' :: (host ++ text ++ path) := by
      simp [printOrigin, printAuthority_eq, Port.tail]
    rw [horigin]
    exact takeScheme_append (hs s rfl) _

theorem take_origin {scheme : Option Text} {host : Text} {port : Option Port}
    (hs : ∀ s ∈ scheme, Scheme.isValid s = true) (hv : Host.isValid host = true) {path : Text}
    (hp : ∀ c ∈ path.head?, c = '/') :
    ∃ rest, takeScheme (printOrigin scheme (some host) port ++ path) = .ok (scheme, rest) ∧
      takeAuthority rest =
        (Authority.parse (host ++ Port.tail port)).map fun authority => (some authority, path) := by
  rw [printOrigin_port]
  exact take_host hs hv (fun hc => (Port.ne_of_mem_tail hc).2.1 rfl) hp

/-- The front of an address, read as far as its authority. -/
theorem takeAuthority_origin {scheme : Option Text} {host : Text} {port : Option Port}
    (hs : ∀ s ∈ scheme, Scheme.isValid s = true) (hv : Host.isValid host = true)
    (hc : ':' ∈ host → (Host.bracketed? host).isSome = true ∨ port.isSome = true) {path : Text}
    (hp : ∀ c ∈ path.head?, c = '/') :
    ∃ rest, takeScheme (printOrigin scheme (some host) port ++ path) = .ok (scheme, rest) ∧
      takeAuthority rest = .ok (some ⟨host, port⟩, path) := by
  obtain ⟨rest, hscheme, hauthority⟩ := @take_origin scheme host port hs hv path hp
  refine ⟨rest, hscheme, ?_⟩
  rw [hauthority, Authority.parse_append hv hc]
  rfl

/-- A written origin is read as what its authority is read as, whatever stands behind it. -/
theorem parse_origin {scheme : Option Text} {host : Text} {port : Option Port}
    (hs : ∀ s ∈ scheme, Scheme.isValid s = true) (hv : Host.isValid host = true) {tail : Text}
    (ht : EndsAuthority tail) :
    parse (printOrigin scheme (some host) port ++ tail) =
      (Authority.parse (host ++ Port.tail port)).map fun authority =>
        ofTail scheme (some authority.host) authority.port (Text.cleanEnd tail) := by
  have hchars : ∀ c ∈ printOrigin scheme (some host) port,
      Text.isEdgeBlank c = false ∧ c ≠ '?' ∧ c ≠ '#' := ne_of_mem_printOrigin hs hv
  have hclean : Text.IsClean (printOrigin scheme (some host) port) :=
    Text.isClean_of_forall fun c h => (hchars c h).1
  obtain ⟨rest, hscheme, hauthority⟩ := @take_origin scheme host port hs hv _ ht.cleanEnd.head_path
  have hsome : takeAuthority rest = ((Authority.parse (host ++ Port.tail port)).map some).map
      fun authority => (authority, tailPath (Text.cleanEnd tail)) := by
    rw [hauthority]
    cases Authority.parse (host ++ Port.tail port) <;> rfl
  rw [parse_of_takeScheme (Text.clean_append hclean (printOrigin_ne_nil scheme host port) tail)
    (fun c h => (hchars c h).2) hscheme hsome]
  cases Authority.parse (host ++ Port.tail port) <;> rfl

/-- A written origin is read back, whatever stands behind it. -/
theorem parse_origin_append {scheme : Option Text} {host : Text} {port : Option Port}
    (hs : ∀ s ∈ scheme, Scheme.isValid s = true) (hv : Host.isValid host = true)
    (hc : ':' ∈ host → (Host.bracketed? host).isSome = true ∨ port.isSome = true) {tail : Text}
    (ht : EndsAuthority tail) :
    parse (printOrigin scheme (some host) port ++ tail) =
      .ok (ofTail scheme (some host) port (Text.cleanEnd tail)) := by
  rw [parse_origin hs hv ht, Authority.parse_append hv hc]
  rfl

/-- A text that starts with a dot segment is a path, whatever stands behind that segment. -/
theorem parse_dots_append {dots tail : Text} (hd : dots = Path.here ∨ dots = Path.up)
    (ht : EndsAuthority tail) :
    parse (dots ++ tail) = .ok (ofTail none none none (dots ++ Text.cleanEnd tail)) := by
  have hdot : ∀ c ∈ dots, c = '.' := by rcases hd with rfl | rfl <;> simp [Path.here, Path.up]
  have hblank : ∀ c ∈ dots, Text.isEdgeBlank c = false := fun c hc => by
    rw [hdot c hc]
    decide
  have hclean : (dots ++ tail).clean = dots ++ Text.cleanEnd tail := by
    refine Text.clean_append (Text.isClean_of_forall hblank) ?_ tail
    rcases hd with rfl | rfl <;> simp [Path.here, Path.up]
  have hpath : tailPath (dots ++ tail).clean = dots ++ tailPath (Text.cleanEnd tail) := by
    rw [hclean, tailPath_append fun c hc => by rw [hdot c hc]; decide]
  rw [parse_path ?_ ?_, hclean]
  · rw [hpath]
    exact Scheme.split?_eq_none ht.cleanEnd.head_path fun c hc => by
      rw [hdot c hc]
      decide
  · intro t h
    rw [hpath] at h
    rcases hd with rfl | rfl <;> simp [Path.here, Path.up] at h

/-! ### What has been read -/

/-- How scheme, host and port may stand in front of a path. -/
inductive Spells : Text → Option Text → Option Text → Option Port → Prop where
  | none : Spells [] none none none
  | some {scheme : Option Text} {host : Text} {port : Option Port} {text : Text}
      (isValid_scheme : ∀ s ∈ scheme, Scheme.isValid s = true)
      (isValid_host : Host.isValid host = true) (sublist : (Port.tail port).Sublist text) :
      Spells (printOrigin scheme (some host) none ++ text) scheme (some host) port

theorem eq_of_take {front rest path : Text} {scheme : Option Text} {authority : Option Authority}
    (hscheme : takeScheme front = .ok (scheme, rest))
    (hauthority : takeAuthority rest = .ok (authority, path)) :
    ∃ origin, front = origin ++ path ∧
      Spells origin scheme (authority.map (·.host)) (authority.bind (·.port)) ∧
      (authority.isSome = true → ∀ c ∈ path.head?, c = '/') := by
  rcases eq_of_takeAuthority hauthority with ⟨rfl, rfl, hne⟩ | ⟨a, text, rfl, rfl, ha, hp⟩
  · rcases eq_of_takeScheme hscheme with ⟨rfl, rfl⟩ | ⟨name, t, -, -, ht, -⟩
    · exact ⟨[], rfl, .none, by simp⟩
    · exact absurd ht (hne t)
  · obtain ⟨hv, port, rfl, hsub⟩ := Authority.eq_of_parse ha
    rcases eq_of_takeScheme hscheme with ⟨rfl, rfl⟩ | ⟨name, t, rfl, hname, -, rfl⟩
    · refine ⟨_, ?_, .some (by simp) hv hsub, fun _ => hp⟩
      simp [printOrigin, printAuthority_eq, Port.tail]
    · refine ⟨_, ?_, .some (by simpa using hname) hv hsub, fun _ => hp⟩
      simp [printOrigin, printAuthority_eq, Port.tail]

theorem tailPath_behind {path : Text} {query : Option Text} (hq : '?' ∉ path)
    (hf : '#' ∉ path ++ Text.behind '?' query) (fragment : Option Text) :
    tailPath (path ++ Text.behind '?' query ++ Text.behind '#' fragment) = path := by
  rw [tailPath, Text.cut_append_behind hf]
  simp only [Text.cut_append_behind hq]

/-- A tail put together from its path, query and fragment. -/
theorem ofTail_append {path : Text} {query fragment : Option Text} (hq : '?' ∉ path)
    (hf : '#' ∉ path ++ Text.behind '?' query) (scheme host : Option Text)
    (port : Option Port) :
    ofTail scheme host port
        (path ++ Text.behind '?' query ++ Text.behind '#' fragment) =
      { scheme, host, port
        segments := Path.ofText path
        query := (query.map Query.ofText).getD []
        fragment := fragment.filter (· ≠ []) } := by
  rw [ofTail, Text.cut_append_behind hf]
  simp only [Text.cut_append_behind hq]

/-- Query and fragment start with their separators. -/
theorem head?_suffix (u : Url) : ∀ c ∈ u.suffix.head?, c = '?' ∨ c = '#' := by
  intro c hc
  rw [suffix] at hc
  split at hc
  · cases hfragment : u.fragment with
    | none => simp [hfragment] at hc
    | some f => exact Or.inr (by simpa [hfragment] using hc.symm)
  · exact Or.inl (by simpa using hc.symm)

/-- A path that is empty or starts with a `/`, with query and fragment, ends an authority. -/
theorem endsAuthority_suffix {path : Text} (hp : ∀ c ∈ path.head?, c = '/') (u : Url) :
    EndsAuthority (path ++ u.suffix) := by
  intro c hc
  cases path with
  | cons d path => exact Or.inl (by simpa [hp d rfl] using hc.symm)
  | nil => exact Or.inr (head?_suffix u c hc)

/-- Reading cuts fragment and query off the cleaned text, then takes scheme and authority off its
front. -/
theorem exists_take_of_parse {input : Text} {u : Url} (h : parse input = .ok u) :
    ∃ scheme authority rest path, takeScheme (tailPath input.clean) = .ok (scheme, rest) ∧
      takeAuthority rest = .ok (authority, path) ∧
      u = { scheme, host := authority.map (·.host), port := authority.bind (·.port)
            segments := Path.ofText path
            query := ((Text.cut '?' (Text.cut '#' input.clean).1).2.map Query.ofText).getD []
            fragment := (Text.cut '#' input.clean).2.filter (· ≠ []) } := by
  obtain ⟨⟨scheme, rest⟩, hscheme, h⟩ := Except.bind_eq_ok_iff.1 h
  obtain ⟨⟨authority, path⟩, hauthority, h⟩ := Except.bind_eq_ok_iff.1 h
  exact ⟨scheme, authority, rest, path, hscheme, hauthority, (Except.ok.inj h).symm⟩

/-- What has been read is spelled by the front of the cleaned text and read from its tail. -/
theorem eq_of_parse {input : Text} {u : Url} (h : parse input = .ok u) :
    ∃ origin path query fragment,
      input.clean = origin ++ (path ++ Text.behind '?' query ++
        Text.behind '#' fragment) ∧
      '?' ∉ path ∧ '#' ∉ path ++ Text.behind '?' query ∧
      Spells origin u.scheme u.host u.port ∧ (u.host.isSome = true → ∀ c ∈ path.head?, c = '/') ∧
      u = { scheme := u.scheme, host := u.host, port := u.port, segments := Path.ofText path,
            query := (query.map Query.ofText).getD [], fragment := fragment.filter (· ≠ []) } := by
  obtain ⟨scheme, authority, rest, path, hscheme, hauthority, rfl⟩ := exists_take_of_parse h
  have hclean : input.clean = _ ++ Text.behind '#' _ := Text.cut_append '#' input.clean
  have hf := Text.not_mem_cut '#' input.clean
  rw [tailPath] at hscheme
  generalize Text.cut '#' input.clean = parts at hscheme hclean hf ⊢
  obtain ⟨front, fragment⟩ := parts
  have hfront : front = _ ++ Text.behind '?' _ := Text.cut_append '?' front
  have hq := Text.not_mem_cut '?' front
  simp only at hscheme hclean hf
  generalize Text.cut '?' front = parts at hscheme hfront hq ⊢
  obtain ⟨before, query⟩ := parts
  simp only at hscheme hfront hq
  obtain ⟨origin, rfl, hspells, hp⟩ := eq_of_take hscheme hauthority
  subst hfront
  refine ⟨origin, path, query, fragment, ?_, ?_, ?_, hspells, ?_, rfl⟩
  · rw [hclean, List.append_assoc, List.append_assoc, List.append_assoc]
  · exact fun hmem => hq (List.mem_append_right _ hmem)
  · rw [List.append_assoc] at hf
    exact fun hmem => hf (List.mem_append_right _ hmem)
  · exact fun hhost => hp (by simpa using hhost)

/-! ### Facts about what has been read -/

section Read

variable {input : Text} {u : Url}

theorem contextRelative_of_parse (h : parse input = .ok u) : u.contextRelative = false := by
  obtain ⟨_, _, _, _, -, -, -, -, -, hu⟩ := eq_of_parse h
  rw [hu]

theorem isValid_scheme_of_parse (h : parse input = .ok u) :
    ∀ s ∈ u.scheme, Scheme.isValid s = true := by
  obtain ⟨_, _, _, _, -, -, -, hspells, -, -⟩ := eq_of_parse h
  generalize u.scheme = scheme, u.host = host, u.port = port at hspells
  cases hspells with
  | none => simp
  | some hs _ _ => exact hs

theorem isValid_host_of_parse (h : parse input = .ok u) : ∀ s ∈ u.host, Host.isValid s = true := by
  obtain ⟨_, _, _, _, -, -, -, hspells, -, -⟩ := eq_of_parse h
  generalize u.scheme = scheme, u.host = host, u.port = port at hspells
  cases hspells with
  | none => simp
  | some _ hv _ => simpa using hv

/-- Without a host there is neither scheme nor port. -/
theorem eq_none_of_parse (h : parse input = .ok u) (hhost : u.host = none) :
    u.scheme = none ∧ u.port = none := by
  obtain ⟨_, _, _, _, -, -, -, hspells, -, -⟩ := eq_of_parse h
  rw [hhost] at hspells
  generalize u.scheme = scheme, u.port = port at hspells
  cases hspells with
  | none => exact ⟨rfl, rfl⟩

/-- No segment holds a separator, a tab or a line end. -/
theorem ne_of_mem_segments (h : parse input = .ok u) {s : Text} (hs : s ∈ u.segments) {c : Char}
    (hc : c ∈ s) : c ≠ '/' ∧ c ≠ '?' ∧ c ≠ '#' ∧ Text.isTabOrLineEnd c = false := by
  obtain ⟨origin, path, query, fragment, hclean, hq, hf, -, -, hu⟩ := eq_of_parse h
  rw [hu] at hs
  obtain ⟨hmem, hslash⟩ := Path.mem_of_mem_ofText hs hc
  refine ⟨hslash, ?_, ?_, ?_⟩
  · rintro rfl
    exact hq hmem
  · rintro rfl
    exact hf (List.mem_append_left _ hmem)
  · exact (Text.isClean_clean input).inner c (by simp [hclean, hmem])

theorem segments_ne_root_of_parse (h : parse input = .ok u) : u.segments ≠ [[]] := by
  obtain ⟨_, path, _, _, -, -, -, -, -, hu⟩ := eq_of_parse h
  rw [hu]
  exact Path.ofText_ne_root path

/-- Behind the root marker there is a segment. -/
theorem exists_of_isRooted (h : parse input = .ok u) (hr : u.segments.isRooted = true) :
    ∃ p, p ≠ [] ∧ u.segments = [] :: p := by
  obtain ⟨p, hp⟩ := Path.exists_of_isRooted hr
  refine ⟨p, ?_, hp⟩
  rintro rfl
  exact segments_ne_root_of_parse h hp

/-- Behind a host the path is empty or starts at the root. -/
theorem segments_of_host (h : parse input = .ok u) (hhost : u.host.isSome = true) :
    u.segments = [] ∨ u.segments.isRooted = true := by
  obtain ⟨_, path, _, _, -, -, -, -, hp, hu⟩ := eq_of_parse h
  rw [hu]
  cases path with
  | nil => exact Or.inl rfl
  | cons c path =>
    obtain rfl := hp hhost c rfl
    obtain ⟨p, -, he⟩ := Path.ofText_slash path
    refine Or.inr ?_
    show Path.isRooted (Path.ofText ('/' :: path)) = true
    rw [he]
    rfl

end Read

end Url

end Hyperlink
