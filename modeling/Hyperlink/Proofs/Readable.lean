import Hyperlink.Proofs.WellFormed

/-!
Which addresses a text can be read as.

They are the well-formed ones that start and end in no blank where the text does, at a path without a
host and at a fragment (`exists_parse_eq_iff`). `Url.print` does not show this: it leaves out what
says nothing, and some addresses cannot be told from others then. `Url.spell` leaves out nothing, and
every readable address is read back from it (`Readable.parse_spell`).
-/

namespace Hyperlink

/-! ### Writing with nothing left out -/

/-- The parameter with its `=`, also before an empty value. -/
def Parameter.spell (p : Parameter) : Text := p.name ++ '=' :: p.value

/-- The query text of the parameters, none of them empty. -/
def Query.spell (q : Query) : Text := ['&'].intercalate (q.map Parameter.spell)

/-- The digits of a port, if there is one. -/
def Port.digits (port : Option Port) : Text := (port.map Port.print).getD []

namespace Url

/-- What stands before the path, with a colon behind the host also where there is no port. -/
def spellOrigin (u : Url) : Text :=
  match u.host with
  | some host => printOrigin u.scheme (some host) none ++ ':' :: Port.digits u.port
  | none => []

/-- The query text, if there are parameters. -/
def spellQuery (u : Url) : Option Text := if u.query = [] then none else some u.query.spell

/-- Path, query and fragment, with a `#` also where there is no fragment. -/
def spellTail (u : Url) : Text :=
  u.segments.toText ++ Text.behind '?' u.spellQuery ++ Text.behind '#' (u.fragment.getD [])

/-- The text of an address with no separator left out. -/
def spell (u : Url) : Text := u.spellOrigin ++ u.spellTail

end Url

/-! ### Its parts -/

namespace Parameter.WellFormed

variable {p : Parameter} (h : p.WellFormed)
include h

theorem ofPair_spell : ofPair p.spell = p := by
  have heq : '=' ∉ p.name := fun hc => (h.name _ hc).2.1 rfl
  have hcut : Text.cut '=' p.spell = (p.name, some p.value) :=
    Text.cut_append_behind heq (some p.value)
  rw [ofPair, hcut, Option.getD_some]

theorem ne_of_mem_spell {c : Char} (hc : c ∈ p.spell) :
    c ≠ '&' ∧ c ≠ '#' ∧ Text.isTabOrLineEnd c = false := by
  rcases List.mem_append.1 hc with hc | hc
  · obtain ⟨hamp, -, hhash, htab⟩ := h.name c hc
    exact ⟨hamp, hhash, htab⟩
  · rcases List.mem_cons.1 hc with rfl | hc
    · decide
    · exact h.value c hc

end Parameter.WellFormed

namespace Query

variable {q : Query} (h : ∀ p ∈ q, p.WellFormed)
include h

/-- Every query is read back: no parameter is without a text. -/
theorem ofText_spell : ofText q.spell = q := by
  rw [spell, ofText_intercalate, List.filter_eq_self.2, List.map_map]
  · exact (List.map_congr_left fun p hp => (h p hp).ofPair_spell).trans (List.map_id q)
  · intro pair hpair
    obtain ⟨p, -, rfl⟩ := List.mem_map.1 hpair
    simp [Parameter.spell]
  · intro pair hpair hc
    obtain ⟨p, hp, rfl⟩ := List.mem_map.1 hpair
    exact ((h p hp).ne_of_mem_spell hc).1 rfl

theorem ne_of_mem_spell {c : Char} (hc : c ∈ q.spell) :
    c ≠ '#' ∧ Text.isTabOrLineEnd c = false := by
  obtain ⟨pair, hpair, hc⟩ | hc := Text.mem_of_mem_intercalate hc
  · obtain ⟨p, hp, rfl⟩ := List.mem_map.1 hpair
    exact ((h p hp).ne_of_mem_spell hc).2
  · obtain rfl := List.mem_singleton.1 hc
    decide

end Query

namespace Port

theorem isDigit_of_mem_digits {port : Option Port} {c : Char} (h : c ∈ digits port) :
    c.isDigit = true := by
  cases port with
  | none => simp [digits] at h
  | some p => exact isDigit_of_mem_print h

theorem readPort_digits (port : Option Port) :
    Authority.readPort (some (digits port)) = .ok port := by
  cases port with
  | none => rfl
  | some p => exact Authority.readPort_print p

end Port

namespace Url

/-! ### Readable addresses -/

/-- A well-formed address that does not start or end in a blank where cleaning would take it. -/
structure Readable (u : Url) : Prop extends WellFormed u where
  first : u.host = none → ∀ s ∈ u.segments.head?, ∀ c ∈ s.head?, Text.isEdgeBlank c = false
  last : ∀ s ∈ u.fragment, ∀ c ∈ s.getLast?, Text.isEdgeBlank c = false

/-! ### Reading the whole text -/

namespace WellFormed

variable {u : Url} (h : u.WellFormed)
include h

theorem ne_of_mem_spellOrigin {c : Char} (hc : c ∈ u.spellOrigin) :
    Text.isEdgeBlank c = false ∧ c ≠ '?' ∧ c ≠ '#' := by
  rw [spellOrigin] at hc
  split at hc
  · next host hhost =>
    rcases List.mem_append.1 hc with hc | hc
    · exact ne_of_mem_printOrigin (fun s hs => (h.scheme s hs).2) (h.host host hhost) c hc
    · rcases List.mem_cons.1 hc with rfl | hc
      · decide
      · have ht := Scheme.isTailChar_of_isDigit (Port.isDigit_of_mem_digits hc)
        exact ⟨Scheme.isEdgeBlank_of_isTailChar ht, (Scheme.ne_of_isTailChar ht).2.2⟩
  · simp at hc

theorem ne_of_mem_spellQuery {c : Char} (hc : c ∈ Text.behind '?' u.spellQuery) :
    c ≠ '#' ∧ Text.isTabOrLineEnd c = false := by
  rw [spellQuery] at hc
  split at hc
  · simp at hc
  · rcases List.mem_cons.1 hc with rfl | hc
    · decide
    · exact Query.ne_of_mem_spell h.query hc

/-- The cuts come where query and fragment are written. -/
theorem not_mem_spellTail : '?' ∉ u.segments.toText ∧
    '#' ∉ u.segments.toText ++ Text.behind '?' u.spellQuery := by
  refine ⟨fun hc => (h.ne_of_mem_path hc).1 rfl, ?_⟩
  rw [List.mem_append]
  rintro (hc | hc)
  · exact (h.ne_of_mem_path hc).2.1 rfl
  · exact (h.ne_of_mem_spellQuery hc).1 rfl

theorem tailPath_spellTail : tailPath u.spellTail = u.segments.toText :=
  tailPath_behind h.not_mem_spellTail.1 h.not_mem_spellTail.2 _

theorem ofTail_spellTail : ofTail u.scheme u.host u.port u.spellTail = u := by
  have hquery : (u.spellQuery.map Query.ofText).getD [] = u.query := by
    unfold spellQuery
    split
    · next hnil => rw [hnil]; rfl
    · exact Query.ofText_spell h.query
  have hfragment : (some (u.fragment.getD [])).filter (· ≠ []) = u.fragment := by
    cases hsome : u.fragment with
    | none => rfl
    | some s => simp [(h.fragment s hsome).1]
  rw [spellTail, ofTail_append h.not_mem_spellTail.1 h.not_mem_spellTail.2, h.ofText_segments,
    hquery, hfragment, ← h.contextRelative]

theorem take_spellOrigin : ∃ rest,
    takeScheme (u.spellOrigin ++ u.segments.toText) = .ok (u.scheme, rest) ∧
      takeAuthority rest = .ok (u.host.map fun host => ⟨host, u.port⟩, u.segments.toText) := by
  cases hhost : u.host with
  | none =>
    rw [spellOrigin, hhost, (h.eq_none hhost).1]
    exact ⟨_, h.take_path hhost⟩
  | some host =>
    have hv := h.host host hhost
    have hdigits : ∀ s ∈ some (Port.digits u.port), ∀ c ∈ s, c.isDigit = true := by
      rintro s hs c hc
      obtain rfl := Option.some.inj hs
      exact Port.isDigit_of_mem_digits hc
    have hslash : '/' ∉ ':' :: Port.digits u.port := by
      rintro hc
      rcases List.mem_cons.1 hc with hc | hc
      · exact absurd hc (by decide)
      · exact absurd (Port.isDigit_of_mem_digits hc) (by decide)
    obtain ⟨rest, hscheme, hauthority⟩ := take_host (fun s hs => (h.scheme s hs).2) hv hslash
      (h.printPath_eq ▸ h.head_printPath (by simp [hhost]))
    have hparse : Authority.parse (host ++ ':' :: Port.digits u.port) = .ok ⟨host, u.port⟩ :=
      Authority.parse_behind hv hdigits (fun _ => Or.inr rfl) (Port.readPort_digits u.port)
    refine ⟨rest, ?_, ?_⟩
    · rw [spellOrigin, hhost]
      exact hscheme
    · rw [hauthority, hparse]
      rfl

end WellFormed

namespace Readable

variable {u : Url} (h : u.Readable)
include h

theorem head_path (hhost : u.host = none) :
    ∀ c ∈ u.segments.toText.head?, Text.isEdgeBlank c = false := by
  intro c hc
  cases hsegments : u.segments with
  | nil => simp [hsegments, Path.toText] at hc
  | cons s p =>
    rw [hsegments, Path.toText_cons] at hc
    cases s with
    | nil =>
      obtain rfl := Path.head?_slashed p c hc
      decide
    | cons d s =>
      obtain rfl : d = c := by simpa using hc
      exact h.first hhost (d :: s) (by rw [hsegments]; rfl) d rfl

/-- The text starts with what is no blank: with its origin, its path or a separator. -/
theorem head_spell : ∀ c ∈ u.spell.head?, Text.isEdgeBlank c = false := by
  intro c hc
  rw [spell, spellTail, List.head?_append, List.head?_append, List.head?_append] at hc
  simp only [Option.mem_def, Option.or_eq_some_iff] at hc
  rcases hc with hc | ⟨horigin, (hc | ⟨-, hc⟩) | ⟨-, hc⟩⟩
  · exact (h.ne_of_mem_spellOrigin (List.mem_of_mem_head? hc)).1
  · have hhost : u.host = none := by
      unfold spellOrigin at horigin
      split at horigin
      · simp at horigin
      · next hhost => exact hhost
    exact h.head_path hhost c hc
  · cases hquery : u.spellQuery with
    | none => simp [hquery] at hc
    | some q =>
      obtain rfl : '?' = c := by simpa [hquery] using hc
      decide
  · obtain rfl : '#' = c := by simpa using hc
    decide

theorem isClean_spell : Text.IsClean u.spell := by
  refine ⟨h.head_spell, fun c hc => ?_, fun c hc => ?_⟩
  · rw [spell, spellTail, ← List.append_assoc, ← List.append_assoc,
      List.getLast?_append_of_ne_nil _ (by simp)] at hc
    cases hfragment : u.fragment with
    | none =>
      obtain rfl : '#' = c := by simpa [hfragment] using hc
      decide
    | some s =>
      rw [hfragment, Option.getD_some, Text.behind_some,
        List.getLast?_cons_of_ne_nil (h.fragment s hfragment).1] at hc
      exact h.last s hfragment c hc
  · rcases List.mem_append.1 hc with hc | hc
    · exact Text.isTabOrLineEnd_eq_false (h.ne_of_mem_spellOrigin hc).1
    · rcases List.mem_append.1 hc with hc | hc
      · rcases List.mem_append.1 hc with hc | hc
        · exact (h.ne_of_mem_path hc).2.2
        · exact (h.ne_of_mem_spellQuery hc).2
      · rcases List.mem_cons.1 hc with rfl | hc
        · decide
        · cases hfragment : u.fragment with
          | none => simp [hfragment] at hc
          | some s => exact (h.fragment s hfragment).2 c (by simpa [hfragment] using hc)

/-- A readable address is read from its text with nothing left out. -/
theorem parse_spell : parse u.spell = .ok u := by
  obtain ⟨rest, hscheme, hauthority⟩ := h.take_spellOrigin
  exact h.parse_of_tail (Text.clean_eq_self h.isClean_spell)
    (fun c hc => (h.ne_of_mem_spellOrigin hc).2) h.tailPath_spellTail hscheme hauthority
    h.ofTail_spellTail

end Readable

/-! ### What can be read -/

section Read

variable {input : Text} {u : Url}

/-- What has been read is readable: its text has been cleaned. -/
theorem readable_of_parse (h : parse input = .ok u) : u.Readable := by
  refine ⟨wellFormed_of_parse h, fun hhost s hs c hc => ?_, fun s hs c hc => ?_⟩
  · -- without a host the first segment starts where the cleaned text does
    obtain ⟨htext, -, -⟩ := front_of_parse h hhost
    obtain ⟨p, hp⟩ := List.head?_eq_some_iff.1 hs
    have hfirst : c ∈ u.segments.toText.head? := by
      rw [hp, Path.toText_cons, List.head?_append, Option.mem_def.1 hc]
      rfl
    exact (Text.isClean_clean input).head c (head?_tailPath (htext ▸ hfirst))
  · -- the fragment ends where the cleaned text does
    obtain ⟨origin, path, query, fragment, hclean, -, -, -, -, hu⟩ := eq_of_parse h
    rw [hu] at hs
    obtain rfl : fragment = some s := (Option.mem_filter_iff.1 hs).1
    refine (Text.isClean_clean input).last c ?_
    have hne : s ≠ [] := by
      rintro rfl
      simp at hc
    rw [hclean, Text.behind_some, List.getLast?_append_of_ne_nil _ (by simp),
      List.getLast?_append_of_ne_nil _ (by simp), List.getLast?_cons_of_ne_nil hne]
    exact hc

end Read

/-- Some text is read as an address exactly when the address is readable. -/
theorem exists_parse_eq_iff (u : Url) : (∃ input, parse input = .ok u) ↔ u.Readable := by
  constructor
  · rintro ⟨input, h⟩
    exact readable_of_parse h
  · intro h
    exact ⟨u.spell, h.parse_spell⟩

end Url

end Hyperlink
