import Hyperlink.Proofs.Settled

/-!
Parameters in plain text.

Escaped, a name or a value holds nothing that a query, an address or the decoder takes for anything
but text, and decoding gives back the characters it was written for (`Parameter.decode_encode`). So
an address that is read back from its own text stays one when parameters in plain text are added, one
after another (`Legible.plainParameter`, `parse_print_withPlain`).
-/

namespace Hyperlink

namespace Percent

/-! ### Escaped and read again -/

theorem hexValue?_hexDigit : ∀ n < 16, hexValue? (hexDigit n) = some n := by decide

/-- An escaped octet is read back, whatever stands behind it. -/
theorem octets_escape (octet : UInt8) (rest : Text) :
    octets (escape octet ++ rest) = octet :: octets rest := by
  have hhigh : hexValue? (hexDigit (octet.toNat / 16)) = some (octet.toNat / 16) :=
    hexValue?_hexDigit _ (Nat.div_lt_of_lt_mul octet.toNat_lt)
  have hlow : hexValue? (hexDigit (octet.toNat % 16)) = some (octet.toNat % 16) :=
    hexValue?_hexDigit _ (Nat.mod_lt _ (by decide))
  show octets ('%' :: hexDigit (octet.toNat / 16) :: hexDigit (octet.toNat % 16) :: rest) = _
  rw [octets, hhigh, hlow]
  show UInt8.ofNat (16 * (octet.toNat / 16) + octet.toNat % 16) :: octets rest = _
  rw [Nat.div_add_mod, UInt8.ofNat_toNat]

theorem octets_flatMap_escape (bytes : List UInt8) (rest : Text) :
    octets (bytes.flatMap escape ++ rest) = bytes ++ octets rest := by
  induction bytes with
  | nil => rfl
  | cons octet bytes ih =>
    rw [List.flatMap_cons, List.append_assoc, octets_escape, ih, List.cons_append]

theorem octets_cons {c : Char} (h : c ≠ '%') (rest : Text) :
    octets (c :: rest) = String.utf8EncodeChar c ++ octets rest := by
  rw [octets]
  intro _ _ _ he
  exact absurd he h

theorem encode_cons (keeps : Char → Bool) (c : Char) (s : Text) : encode keeps (c :: s) =
    (if keeps c then [c] else (String.utf8EncodeChar c).flatMap escape) ++ encode keeps s :=
  List.flatMap_cons

/-- The octets of an encoded text are those of its UTF-8 form. -/
theorem octets_encode {keeps : Char → Bool} (h : keeps '%' = false) (s : Text) :
    octets (encode keeps s) = s.flatMap String.utf8EncodeChar := by
  induction s with
  | nil => rfl
  | cons c s ih =>
    rw [encode_cons, List.flatMap_cons, ← ih]
    split
    · next hkept =>
      have hc : c ≠ '%' := by
        rintro rfl
        simp [h] at hkept
      exact octets_cons hc _
    · exact octets_flatMap_escape _ _

/-- Decoding gives back what has been encoded. -/
theorem decode?_encode {keeps : Char → Bool} (h : keeps '%' = false) (s : Text) :
    decode? (encode keeps s) = some s := by
  rw [decode?, octets_encode h]
  show (List.utf8Encode s).utf8Decode?.map Array.toList = some s
  rw [List.utf8Decode?_utf8Encode]
  rfl

theorem mem_encode {keeps : Char → Bool} (hdigit : ∀ n < 16, keeps (hexDigit n) = true) {s : Text}
    {c : Char} (h : c ∈ encode keeps s) : keeps c = true ∨ c = '%' := by
  obtain ⟨d, -, hc⟩ := List.mem_flatMap.1 h
  split at hc
  · next hkept =>
    obtain rfl := List.mem_singleton.1 hc
    exact Or.inl hkept
  · obtain ⟨octet, -, hc⟩ := List.mem_flatMap.1 hc
    simp only [escape, List.mem_cons, List.not_mem_nil, or_false] at hc
    rcases hc with rfl | rfl | rfl
    · exact Or.inr rfl
    · exact Or.inl (hdigit _ (Nat.div_lt_of_lt_mul octet.toNat_lt))
    · exact Or.inl (hdigit _ (Nat.mod_lt _ (by decide)))

end Percent

namespace Parameter

theorem isPlain_hexDigit : ∀ n < 16, isPlain (Percent.hexDigit n) = true := by decide

/-- An encoded text holds nothing that splits a query, that cleaning takes away or that decoding
takes for a space. -/
theorem ne_of_mem_encode {s : Text} {c : Char} (h : c ∈ Percent.encode isPlain s) :
    c ≠ '&' ∧ c ≠ '=' ∧ c ≠ '#' ∧ c ≠ '+' ∧ Text.isEdgeBlank c = false := by
  rcases Percent.mem_encode isPlain_hexDigit h with hplain | rfl
  · have hblank : Text.isEdgeBlank c = false := by
      rw [← Bool.not_eq_true, Text.isEdgeBlank_iff]
      simp only [isPlain, Bool.and_eq_true, decide_eq_true_eq] at hplain
      exact Nat.not_le_of_lt hplain.1.1
    refine ⟨?_, ?_, ?_, ?_, hblank⟩ <;> rintro rfl <;> revert hplain <;> decide
  · decide

theorem decode_encode (s : Text) : decode (Percent.encode isPlain s) = .ok s := by
  have hspace : (Percent.encode isPlain s).map (fun c => if c = '+' then ' ' else c) =
      Percent.encode isPlain s := by
    refine (List.map_congr_left fun c hc => ?_).trans (List.map_id _)
    exact if_neg (ne_of_mem_encode hc).2.2.2.1
  rw [decode, hspace, Percent.decode?_encode (by decide)]

theorem encode_eq_nil {s : Text} (h : Percent.encode isPlain s = []) : s = [] := by
  have hs := decode_encode s
  rw [h] at hs
  exact (Except.ok.inj hs).symm

variable (name value : Text)

theorem wellFormed_ofPlain : (ofPlain name value).WellFormed where
  name _ hc := by
    obtain ⟨hamp, heq, hhash, -, hblank⟩ := ne_of_mem_encode hc
    exact ⟨hamp, heq, hhash, Text.isTabOrLineEnd_eq_false hblank⟩
  value _ hc := by
    obtain ⟨hamp, -, hhash, -, hblank⟩ := ne_of_mem_encode hc
    exact ⟨hamp, hhash, Text.isTabOrLineEnd_eq_false hblank⟩

theorem print_ofPlain_ne_nil (h : (name, value) ≠ ([], [])) : (ofPlain name value).print ≠ [] := by
  rw [ne_eq, print_eq_nil_iff]
  rintro ⟨hname, hvalue⟩
  exact h (Prod.ext (encode_eq_nil hname) (encode_eq_nil hvalue))

theorem isEdgeBlank_of_mem_print {c : Char} (h : c ∈ (ofPlain name value).print) :
    Text.isEdgeBlank c = false := by
  rcases mem_print h with h | h | rfl
  · exact (ne_of_mem_encode h).2.2.2.2
  · exact (ne_of_mem_encode h).2.2.2.2
  · decide

end Parameter

namespace Url

variable {u : Url} {name value : Text}

theorem getLast?_print_of_fragment {s : Text} (hs : u.fragment = some s) (hne : s ≠ []) :
    u.print.getLast? = s.getLast? := by
  rw [print_eq, suffix, hs, Text.behind_some, ← List.append_assoc,
    List.getLast?_append_of_ne_nil _ (List.cons_ne_nil '#' s), List.getLast?_cons_of_ne_nil hne]

/-- Without a fragment an address ends as its last parameter does. -/
theorem getLast?_print_of_query {q : Query} {p : Parameter} (hfragment : u.fragment = none)
    (hquery : u.query = q ++ [p]) (hne : p.print ≠ []) : u.print.getLast? = p.print.getLast? := by
  obtain ⟨front, hfront⟩ := @Text.suffix_intercalate_concat ['&'] p.print (q.map Parameter.print)
  have hprint : u.query.print = front ++ p.print := by
    rw [hquery, Query.print_eq_intercalate, List.map_append]
    exact hfront.symm
  rw [print_eq, suffix, if_neg (by simp [hquery]), hprint, hfragment, Text.behind_none,
    List.append_nil, Text.behind_some, List.getLast?_append_of_ne_nil _ (List.cons_ne_nil '?' _),
    List.getLast?_cons_of_ne_nil (by simp [hne]), List.getLast?_append_of_ne_nil _ hne]

/-- A parameter can be added to every address that is read back, if it has a text and ends in no
blank. -/
theorem Legible.append_parameter (h : u.Legible) {p : Parameter} (hp : p.WellFormed)
    (hne : p.print ≠ []) (hlast : ∀ c ∈ p.print.getLast?, Text.isEdgeBlank c = false) :
    Legible { u with query := u.query ++ [p] } where
  contextRelative := h.contextRelative
  scheme := h.scheme
  port := h.port
  host := h.host
  segments := h.segments
  hosted := h.hosted
  hostless := h.hostless
  query other hother := by
    rcases List.mem_append.1 hother with hother | hother
    · exact h.query other hother
    · obtain rfl := List.mem_singleton.1 hother
      exact hp
  fragment := h.fragment
  colon := h.colon
  parameters other hother := by
    rcases List.mem_append.1 hother with hother | hother
    · exact h.parameters other hother
    · obtain rfl := List.mem_singleton.1 hother
      rwa [ne_eq, Parameter.print_eq_nil_iff, not_and_or] at hne
  first c hc := by
    -- what stands before the query is the same
    rw [print_eq, List.head?_append, Option.mem_def, Option.or_eq_some_iff] at hc
    rcases hc with hc | ⟨-, hc⟩
    · refine h.first c ?_
      rw [print_eq, List.head?_append]
      exact Option.or_eq_some_iff.2 (Or.inl hc)
    · rcases head?_suffix _ c hc with rfl | rfl <;> decide
  last c hc := by
    cases hfragment : u.fragment with
    | none =>
      have hend := @getLast?_print_of_query { u with query := u.query ++ [p] } u.query p hfragment
        rfl hne
      rw [hend] at hc
      exact hlast c hc
    | some s =>
      have hs := (h.fragment s hfragment).1
      have hend := @getLast?_print_of_fragment { u with query := u.query ++ [p] } s hfragment hs
      rw [hend] at hc
      exact h.last c (getLast?_print_of_fragment hfragment hs ▸ hc)

theorem Legible.plainParameter (h : u.Legible) (hne : (name, value) ≠ ([], [])) :
    (u.edit (.plainParameter name value)).Legible :=
  h.append_parameter (Parameter.wellFormed_ofPlain name value)
    (Parameter.print_ofPlain_ne_nil name value hne) fun _ hc =>
      Parameter.isEdgeBlank_of_mem_print name value (List.mem_of_getLast? hc)

/-- The address with a parameter added for each pair of a name and a value in plain text. -/
def withPlain (u : Url) (pairs : List (Text × Text)) : Url :=
  pairs.foldl (fun u pair => u.edit (.plainParameter pair.1 pair.2)) u

theorem query_withPlain (pairs : List (Text × Text)) : ∀ u : Url,
    (u.withPlain pairs).query =
      u.query ++ pairs.map fun pair => Parameter.ofPlain pair.1 pair.2 := by
  induction pairs with
  | nil =>
    intro u
    exact (List.append_nil u.query).symm
  | cons pair pairs ih =>
    intro u
    rw [withPlain, List.foldl_cons, ← withPlain, ih, List.map_cons]
    exact List.append_assoc u.query [Parameter.ofPlain pair.1 pair.2] _

theorem Legible.withPlain (pairs : List (Text × Text)) (hne : ∀ pair ∈ pairs, pair ≠ ([], [])) :
    ∀ {u : Url}, u.Legible → (u.withPlain pairs).Legible := by
  induction pairs with
  | nil => exact fun h => h
  | cons pair pairs ih =>
    intro u h
    exact ih (fun other hother => hne other (List.mem_cons_of_mem pair hother))
      (h.plainParameter (hne pair List.mem_cons_self))

/-- An address that is read back is read back with parameters in plain text added to it, and each of
them gives its name and its value back. -/
theorem parse_print_withPlain {u : Url} (h : parse u.print = .ok u) {pairs : List (Text × Text)}
    (hne : ∀ pair ∈ pairs, pair ≠ ([], [])) :
    parse (u.withPlain pairs).print = .ok (u.withPlain pairs) ∧
      ∃ added, (u.withPlain pairs).query = u.query ++ added ∧
        added.map (fun p => (p.plainName, p.plainValue)) =
          pairs.map fun pair => (.ok pair.1, .ok pair.2) := by
  refine ⟨((legible_of_parse_print h).withPlain pairs hne).parse_print, _,
    query_withPlain pairs u, ?_⟩
  rw [List.map_map]
  refine List.map_congr_left fun pair _ => ?_
  exact Prod.ext (Parameter.decode_encode pair.1) (Parameter.decode_encode pair.2)

/-- The address `http://h/a?q#f`. -/
def tagged : Url :=
  { scheme := some "http".toList, host := some ['h'], segments := [[], ['a']]
    query := [⟨['q'], []⟩], fragment := some ['f'] }

/-- Names and values that cannot stand in a query as they are. -/
def unescaped : List (Text × Text) := [("ä 𝄞".toList, []), ("%41&".toList, "=+#".toList)]

/-- Letters past ASCII, an empty value, separators and a text that looks escaped, before a
fragment. -/
theorem parse_print_withPlain_escaped :
    parse "http://h/a?q&%C3%A4%20%F0%9D%84%9E&%2541%26=%3D%2B%23#f".toList =
        .ok (tagged.withPlain unescaped) ∧
      ∃ added, (tagged.withPlain unescaped).query = ⟨['q'], []⟩ :: added ∧
        added.map (fun p => (p.plainName, p.plainValue)) =
          [(.ok "ä 𝄞".toList, .ok []), (.ok "%41&".toList, .ok "=+#".toList)] := by
  have hprint : (tagged.withPlain unescaped).print =
      "http://h/a?q&%C3%A4%20%F0%9D%84%9E&%2541%26=%3D%2B%23#f".toList := by
    decide
  rw [← hprint]
  exact parse_print_withPlain (by rfl) (by decide)

end Url

end Hyperlink
