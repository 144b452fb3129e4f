import Hyperlink.Proofs.Reading

/-!
The grammar of addresses, and the faults of a text that is not in it.

What counts is the text before query and fragment. It is a path, or an authority behind `//`, with or
without a scheme in front; an authority is a host, by name or as a literal in brackets, and perhaps a
port. Every text either is spelled by the grammar or has a fault (`spelled_or_fault`), and reading
tells the two apart, with the error that the fault stands for (`parse_iff_spelled_or_fault`).
-/

namespace Hyperlink

/-! ### Hosts and ports -/

namespace Host

/-- A host that is no literal. -/
def IsName (host : Text) : Prop := host ≠ [] ∧ ∀ c ∈ host, isForbidden c = false

/-- What the brackets of an IPv6 literal may hold. -/
def IsLiteral (inner : Text) : Prop := inner ≠ [] ∧ ∀ c ∈ inner, isLiteralChar c = true

theorem IsName.head_ne {host : Text} (h : IsName host) : host.head? ≠ some '[' := fun hhead =>
  absurd (h.2 _ (List.mem_of_mem_head? hhead)) (by decide)

theorem IsLiteral.not_mem {inner : Text} (h : IsLiteral inner) : ']' ∉ inner := fun hc =>
  absurd (h.2 _ hc) (by decide)

theorem isValid_iff_isName {host : Text} (h : host.head? ≠ some '[') :
    isValid host = true ↔ IsName host := by
  have hb : bracketed? host = none := by
    unfold bracketed?
    split
    · simp at h
    · rfl
  simp [isValid, hb, IsName]

theorem isValid_iff_isLiteral {inner : Text} :
    isValid ('[' :: inner ++ [']']) = true ↔ IsLiteral inner := by
  have hb : bracketed? ('[' :: inner ++ [']']) = some inner := bracketed?_eq_some.2 rfl
  rw [isValid, hb]
  simp [IsLiteral]

end Host

namespace Port

/-- Digits that write a port. No digits at all write none. -/
def IsNumeral (s : Text) : Prop := (∀ c ∈ s, c.isDigit = true) ∧ Nat.ofDigitChars 10 s 0 < 65536

end Port

namespace Authority

theorem exists_readPort {digits : Option Text} (h : ∀ s ∈ digits, Port.IsNumeral s) :
    ∃ port, readPort digits = .ok port := by
  unfold readPort
  split
  · exact ⟨none, rfl⟩
  · exact ⟨none, rfl⟩
  · next s hne =>
    obtain ⟨hdigits, hlt⟩ := h s rfl
    have hs : s ≠ [] ∧ s.all Char.isDigit = true := ⟨hne, List.all_eq_true.2 hdigits⟩
    exact ⟨some ⟨_, hlt⟩, by simp only [Port.ofText?, if_pos hs, dif_pos hlt]⟩

theorem readPort_of_not {digits : Option Text} (h : ¬ ∀ s ∈ digits, Port.IsNumeral s) :
    readPort digits = .error .port := by
  unfold readPort
  split
  · simp at h
  · exact absurd (by simp [Port.IsNumeral]) h
  · next s hne =>
    have hnone : Port.ofText? s = none := by
      unfold Port.ofText?
      split
      · next hs =>
        refine dif_neg fun hlt => h ?_
        rintro t ht
        obtain rfl : s = t := Option.some.inj ht
        exact ⟨List.all_eq_true.1 hs.2, hlt⟩
      · rfl
    rw [hnone]

/-! ### Authorities -/

/-- The authorities of the grammar. -/
inductive Spelled : Text → Prop where
  /-- The last colon ends the host, if there is one. -/
  | name {host : Text} {digits : Option Text} (isName : Host.IsName host)
      (last : ':' ∉ digits.getD host) (port : ∀ s ∈ digits, Port.IsNumeral s) :
      Spelled (host ++ Text.behind ':' digits)
  | literal {inner : Text} {digits : Option Text} (isLiteral : Host.IsLiteral inner)
      (port : ∀ s ∈ digits, Port.IsNumeral s) :
      Spelled ('[' :: inner ++ ']' :: Text.behind ':' digits)

/-- Why a text is no authority. -/
inductive Fault : Text → ParseError → Prop where
  /-- There is no place for credentials. -/
  | credentials {a : Text} (at_mem : '@' ∈ a) : Fault a .host
  /-- Something else than a port stands behind the first closing bracket. -/
  | behind {inner rest : Text} {c : Char} (first : ']' ∉ inner) (ne : c ≠ ':') :
      Fault ('[' :: inner ++ ']' :: c :: rest) .host
  /-- What stands before the last colon, or all of it without a colon, is no host. -/
  | name {host : Text} {digits : Option Text}
      (bracket : (host ++ Text.behind ':' digits).head? ≠ some '[')
      (last : ':' ∉ digits.getD host) (not_isName : ¬ Host.IsName host) :
      Fault (host ++ Text.behind ':' digits) .host
  /-- The bracket is not closed. -/
  | unclosed {rest : Text} (at_not_mem : '@' ∉ rest) (not_closed : ']' ∉ rest) :
      Fault ('[' :: rest) .ipv6
  /-- What stands in the brackets is no literal. -/
  | literal {inner : Text} {digits : Option Text}
      (at_not_mem : '@' ∉ '[' :: inner ++ ']' :: Text.behind ':' digits) (first : ']' ∉ inner)
      (not_isLiteral : ¬ Host.IsLiteral inner) :
      Fault ('[' :: inner ++ ']' :: Text.behind ':' digits) .ipv6
  /-- What stands behind the last colon is no port. -/
  | namePort {host : Text} {digits : Option Text}
      (at_not_mem : '@' ∉ host ++ Text.behind ':' digits) (isName : Host.IsName host)
      (last : ':' ∉ digits.getD host) (port : ¬ ∀ s ∈ digits, Port.IsNumeral s) :
      Fault (host ++ Text.behind ':' digits) .port
  /-- What stands behind the bracket and a colon is no port. -/
  | literalPort {inner : Text} {digits : Option Text}
      (at_not_mem : '@' ∉ '[' :: inner ++ ']' :: Text.behind ':' digits)
      (isLiteral : Host.IsLiteral inner) (port : ¬ ∀ s ∈ digits, Port.IsNumeral s) :
      Fault ('[' :: inner ++ ']' :: Text.behind ':' digits) .port

theorem parse_of_split_error {a : Text} {e : ParseError} (hat : '@' ∉ a)
    (h : split a = .error e) : parse a = .error e := by
  rw [parse, if_neg (by simpa using hat), h]
  rfl

theorem parse_of_at {a : Text} (hat : '@' ∈ a) : parse a = .error .host := by
  rw [parse, if_pos (by simpa using hat)]

/-- A text that starts with what is no bracket starts with no bracket. -/
theorem head_append {host : Text} {digits : Option Text} (h : host.head? ≠ some '[') :
    (host ++ Text.behind ':' digits).head? ≠ some '[' := by
  cases host with
  | nil => cases digits <;> simp
  | cons c host => simpa using h

theorem exists_parse_of_spelled {a : Text} (h : Spelled a) :
    ∃ authority, parse a = .ok authority := by
  cases h with
  | @name host digits isName last port =>
    obtain ⟨p, hp⟩ := exists_readPort port
    have hv := (Host.isValid_iff_isName isName.head_ne).2 isName
    refine ⟨_, parse_behind hv (fun s hs => (port s hs).1) ?_ hp⟩
    cases digits with
    | none => exact fun hc => absurd hc last
    | some s => exact fun _ => Or.inr rfl
  | @literal inner digits isLiteral port =>
    obtain ⟨p, hp⟩ := exists_readPort port
    have hb : Host.bracketed? ('[' :: inner ++ [']']) = some inner := Host.bracketed?_eq_some.2 rfl
    have hread := parse_behind (Host.isValid_iff_isLiteral.2 isLiteral)
      (fun s hs => (port s hs).1) (fun _ => Or.inl (by rw [hb]; rfl)) hp
    rw [List.append_assoc] at hread
    exact ⟨_, hread⟩

/-- Each fault is reported. -/
theorem parse_of_fault {a : Text} {e : ParseError} (h : Fault a e) : parse a = .error e := by
  cases h with
  | credentials hat => exact parse_of_at hat
  | @behind inner rest c first ne =>
    by_cases hat : '@' ∈ '[' :: inner ++ ']' :: c :: rest
    · exact parse_of_at hat
    · refine parse_of_split_error hat ?_
      rw [List.cons_append, split, Text.cut_append_of_not_mem _ first, Text.cut_cons_self,
        List.append_nil]
      split <;> simp_all
  | @name host digits bracket last not_isName =>
    by_cases hat : '@' ∈ host ++ Text.behind ':' digits
    · exact parse_of_at hat
    · have hhead : host.head? ≠ some '[' := fun he => bracket (by simp [List.head?_append, he])
      rw [parse_of_split hat (split_name bracket last),
        if_neg (mt (Host.isValid_iff_isName hhead).1 not_isName), if_neg hhead]
  | unclosed at_not_mem not_closed =>
    refine parse_of_split_error (by simpa using at_not_mem) ?_
    rw [split, Text.cut_of_not_mem _ _ not_closed]
  | literal at_not_mem first not_isLiteral =>
    rw [parse_of_split at_not_mem (split_literal first _),
      if_neg (mt Host.isValid_iff_isLiteral.1 not_isLiteral)]
    rfl
  | namePort at_not_mem isName last port =>
    have hhead := isName.head_ne
    rw [parse_of_split at_not_mem (split_name (head_append hhead) last),
      if_pos ((Host.isValid_iff_isName hhead).2 isName), readPort_of_not port]
    rfl
  | literalPort at_not_mem isLiteral port =>
    rw [parse_of_split at_not_mem (split_literal isLiteral.not_mem _),
      if_pos (Host.isValid_iff_isLiteral.2 isLiteral), readPort_of_not port]
    rfl

/-- A text is cut at its last colon, if it has one. -/
theorem exists_name (a : Text) : ∃ host digits, a = host ++ Text.behind ':' digits ∧
    ':' ∉ digits.getD host := by
  cases hcut : Text.cutLast? ':' a with
  | none => exact ⟨a, none, by simp, Text.cutLast?_eq_none_iff.1 hcut⟩
  | some parts =>
    obtain ⟨host, digits⟩ := parts
    exact ⟨host, some digits, Text.eq_of_cutLast? hcut, Text.not_mem_of_cutLast? hcut⟩

/-- Every text is an authority of the grammar or has a fault. -/
theorem spelled_or_fault (a : Text) : Spelled a ∨ ∃ e, Fault a e := by
  by_cases hat : '@' ∈ a
  · exact Or.inr ⟨.host, .credentials hat⟩
  · by_cases hbracket : a.head? = some '['
    · obtain ⟨text, rfl⟩ := List.head?_eq_some_iff.1 hbracket
      by_cases hclosed : ']' ∈ text
      · obtain ⟨inner, tail, rfl, first⟩ := List.eq_append_cons_of_mem hclosed
        obtain ⟨digits, rfl⟩ | ⟨c, rest, hc, rfl⟩ := Text.eq_behind_or ':' tail
        · by_cases isLiteral : Host.IsLiteral inner
          · by_cases port : ∀ s ∈ digits, Port.IsNumeral s
            · exact Or.inl (.literal isLiteral port)
            · exact Or.inr ⟨.port, .literalPort hat isLiteral port⟩
          · exact Or.inr ⟨.ipv6, .literal hat first isLiteral⟩
        · exact Or.inr ⟨.host, .behind first hc⟩
      · exact Or.inr ⟨.ipv6, .unclosed (fun hc => hat (List.mem_cons_of_mem _ hc)) hclosed⟩
    · obtain ⟨host, digits, rfl, last⟩ := exists_name a
      by_cases isName : Host.IsName host
      · by_cases port : ∀ s ∈ digits, Port.IsNumeral s
        · exact Or.inl (.name isName last port)
        · exact Or.inr ⟨.port, .namePort hat isName last port⟩
      · exact Or.inr ⟨.host, .name hbracket last isName⟩

end Authority

/-! ### Addresses -/

namespace Url

/-- The text that has to be an authority: from `//` to the next `/`, perhaps with a scheme and a colon
in front. -/
inductive Names : Text → Text → Prop where
  | schemeless {a path : Text} (slash : '/' ∉ a) (ends : ∀ c ∈ path.head?, c = '/') :
      Names ('/' :: '/' :: a ++ path) a
  | full {scheme a path : Text} (isValid : Scheme.isValid scheme = true) (slash : '/' ∉ a)
      (ends : ∀ c ∈ path.head?, c = '/') : Names (scheme ++ ':' :: ('/' :: '/' :: a ++ path)) a

/-- The addresses of the grammar, as far as their query or fragment. -/
inductive Spelled : Text → Prop where
  /-- No `://` stands before the first `/`, and no `//` in front. -/
  | path {s : Text} (not_scheme : ∀ name rest, '/' ∉ name → s ≠ name ++ ':' :: '/' :: '/' :: rest)
      (not_authority : ∀ rest, s ≠ '/' :: '/' :: rest) : Spelled s
  | authority {s a : Text} (names : Names s a) (spelled : Authority.Spelled a) : Spelled s

/-- Why a text is no address. -/
inductive Fault : Text → ParseError → Prop where
  /-- The text before the first `://`, without a `/` in it, is no scheme. -/
  | scheme {name rest : Text} (first : '/' ∉ name) (not_isValid : ¬ Scheme.isValid name = true) :
      Fault (name ++ ':' :: '/' :: '/' :: rest) .scheme
  | authority {s a : Text} {e : ParseError} (names : Names s a) (fault : Authority.Fault a e) :
      Fault s e

/-- Between `//` and the next `/` there is always a text. -/
theorem exists_names_slashes (rest : Text) : ∃ a, Names ('/' :: '/' :: rest) a ∧
    ∀ scheme, Scheme.isValid scheme = true → Names (scheme ++ ':' :: '/' :: '/' :: rest) a := by
  have hslash : '/' ∉ rest.takeWhile (· != '/') := fun hc => by
    simpa using List.mem_takeWhile_imp hc
  have hends : ∀ c ∈ (rest.dropWhile (· != '/')).head?, c = '/' := fun c hc => by
    have h := List.head?_dropWhile_not (· != '/') rest
    rw [Option.mem_def.1 hc] at h
    simpa using h
  have hrest : '/' :: '/' :: rest.takeWhile (· != '/') ++ rest.dropWhile (· != '/') =
      '/' :: '/' :: rest := by
    rw [List.cons_append, List.cons_append, List.takeWhile_append_dropWhile]
  refine ⟨rest.takeWhile (· != '/'), hrest ▸ .schemeless hslash hends, fun scheme hvalid => ?_⟩
  exact hrest ▸ .full hvalid hslash hends

/-- Every text is an address of the grammar or has a fault. -/
theorem spelled_or_fault (s : Text) : Spelled s ∨ ∃ e, Fault s e := by
  have hnames {a : Text} (h : Names s a) : Spelled s ∨ ∃ e, Fault s e :=
    (Authority.spelled_or_fault a).imp (.authority h) fun ⟨e, he⟩ => ⟨e, .authority h he⟩
  cases hsplit : Scheme.split? s with
  | some parts =>
    obtain ⟨name, tail⟩ := parts
    obtain ⟨rfl, rest, rfl⟩ := Scheme.eq_of_split? hsplit
    by_cases isValid : Scheme.isValid name = true
    · obtain ⟨a, -, ha⟩ := exists_names_slashes rest
      exact hnames (ha name isValid)
    · exact Or.inr ⟨.scheme, .scheme (Scheme.not_mem_of_split? hsplit) isValid⟩
  | none =>
    by_cases hslashes : ∃ rest, s = '/' :: '/' :: rest
    · obtain ⟨rest, rfl⟩ := hslashes
      obtain ⟨a, ha, -⟩ := exists_names_slashes rest
      exact hnames ha
    · refine Or.inl (.path ?_ fun rest he => hslashes ⟨rest, he⟩)
      rintro name rest first rfl
      rw [Scheme.split?_append first] at hsplit
      simp at hsplit

section Read

variable {input : Text}

theorem parse_of_takeScheme_error {e : ParseError}
    (h : takeScheme (tailPath input.clean) = .error e) : parse input = .error e := by
  rw [tailPath] at h
  simp only [parse, h, bind, Except.bind]

/-- Behind the scheme the authority decides. -/
theorem exists_parse_eq_map {rest : Text} {scheme : Option Text}
    (h : takeScheme (tailPath input.clean) = .ok (scheme, rest)) :
    ∃ f, parse input = (takeAuthority rest).map f := by
  rw [tailPath] at h
  simp only [parse, h, bind, Except.bind]
  generalize Text.cut '#' input.clean = parts
  refine ⟨fun taken =>
    { scheme
      host := taken.1.map (·.host)
      port := taken.1.bind (·.port)
      segments := Path.ofText taken.2
      query := ((Text.cut '?' parts.1).2.map Query.ofText).getD []
      fragment := parts.2.filter (· ≠ []) }, ?_⟩
  cases takeAuthority rest <;> rfl

theorem Names.exists_parse_eq_map {a : Text} (h : Names (tailPath input.clean) a) :
    ∃ f, parse input = (Authority.parse a).map f := by
  obtain ⟨scheme, rest, path, hscheme, hauthority⟩ : ∃ scheme rest path,
      takeScheme (tailPath input.clean) = .ok (scheme, rest) ∧
        takeAuthority rest = (Authority.parse a).map fun authority => (some authority, path) := by
    generalize tailPath input.clean = s at h
    cases h with
    | @schemeless _ path slash ends =>
      exact ⟨none, _, path, takeScheme_slashes _,
        takeAuthority_append (fun c hc he => slash (he ▸ hc)) ends⟩
    | @full scheme _ path isValid slash ends =>
      exact ⟨some scheme, _, path, takeScheme_append isValid _,
        takeAuthority_append (fun c hc he => slash (he ▸ hc)) ends⟩
  obtain ⟨f, hf⟩ := Url.exists_parse_eq_map hscheme
  refine ⟨fun authority => f (some authority, path), ?_⟩
  rw [hf, hauthority]
  cases Authority.parse a <;> rfl

theorem exists_parse_of_spelled (h : Spelled (tailPath input.clean)) :
    ∃ u, parse input = .ok u := by
  cases h with
  | path not_scheme not_authority =>
    have hsplit : Scheme.split? (tailPath input.clean) = none := by
      refine Option.eq_none_iff_forall_not_mem.2 fun parts hparts => ?_
      obtain ⟨he, rest, hrest⟩ := Scheme.eq_of_split? hparts
      exact not_scheme _ rest (Scheme.not_mem_of_split? hparts) (hrest ▸ he)
    exact ⟨_, parse_path hsplit not_authority⟩
  | authority names spelled =>
    obtain ⟨f, hf⟩ := names.exists_parse_eq_map
    obtain ⟨authority, ha⟩ := Authority.exists_parse_of_spelled spelled
    rw [hf, ha]
    exact ⟨_, rfl⟩

theorem parse_of_fault {e : ParseError} (h : Fault (tailPath input.clean) e) :
    parse input = .error e := by
  generalize hs : tailPath input.clean = s at h
  cases h with
  | scheme first not_isValid =>
    refine parse_of_takeScheme_error ?_
    rw [hs, takeScheme, Scheme.split?_append first]
    exact if_neg not_isValid
  | authority names fault =>
    subst hs
    obtain ⟨f, hf⟩ := names.exists_parse_eq_map
    rw [hf, Authority.parse_of_fault fault]
    rfl

/-- Reading accepts the addresses of the grammar, whatever their query and fragment, and reports
the fault of every other text. -/
theorem parse_iff_spelled_or_fault (input : Text) :
    ((∃ u, parse input = .ok u) ↔ Spelled (tailPath input.clean)) ∧
      ∀ e, parse input = .error e ↔ Fault (tailPath input.clean) e := by
  refine ⟨⟨?_, exists_parse_of_spelled⟩, fun e => ⟨?_, parse_of_fault⟩⟩
  · rintro ⟨u, hu⟩
    refine (spelled_or_fault _).resolve_right ?_
    rintro ⟨e, he⟩
    rw [parse_of_fault he] at hu
    simp at hu
  · intro hparse
    rcases spelled_or_fault (tailPath input.clean) with hspelled | ⟨e', he⟩
    · obtain ⟨u, hu⟩ := exists_parse_of_spelled hspelled
      rw [hu] at hparse
      simp at hparse
    · rw [parse_of_fault he] at hparse
      obtain rfl := Except.error.inj hparse
      exact he

end Read

end Url

end Hyperlink
