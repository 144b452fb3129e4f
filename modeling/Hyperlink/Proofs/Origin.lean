import Mathlib.Data.List.Basic
import Hyperlink.Proofs.Clean
import Hyperlink.Url.Parse
import Hyperlink.Url.Print

/-!
Scheme and authority, written and read.

What `printOrigin` writes for a valid scheme and host is read back, whatever stands behind it
(`takeScheme_append`, `takeAuthority_append`). The other way round, what has been read is valid and
is found in the text (`eq_of_takeScheme`, `eq_of_takeAuthority`).
-/

namespace Hyperlink

/-! ### Schemes -/

namespace Scheme

theorem isTailChar_of_isValid {s : Text} (h : isValid s = true) : ∀ c ∈ s, isTailChar c = true := by
  cases s with
  | nil => simp
  | cons c s =>
    simp only [isValid, Bool.and_eq_true, List.all_eq_true] at h
    intro d hd
    rcases List.mem_cons.1 hd with rfl | hd
    · simp [isTailChar, Char.isAlphanum, h.1]
    · exact h.2 d hd

theorem isTailChar_of_isDigit {c : Char} (h : c.isDigit = true) : isTailChar c = true := by
  simp [isTailChar, Char.isAlphanum, h]

theorem ne_nil_of_isValid {s : Text} (h : isValid s = true) : s ≠ [] := by
  rintro rfl
  exact absurd h (by decide)

theorem isEdgeBlank_of_isTailChar {c : Char} (h : isTailChar c = true) :
    Text.isEdgeBlank c = false := by
  by_contra hc
  have hle : c.toNat ≤ 32 := Text.isEdgeBlank_iff.1 (by simpa using hc)
  have all : ∀ n ≤ 32, isTailChar (Char.ofNat n) = false := by decide
  have := all c.toNat hle
  rw [Char.ofNat_toNat, h] at this
  exact absurd this (by decide)

theorem ne_of_isTailChar {c : Char} (h : isTailChar c = true) :
    c ≠ ':' ∧ c ≠ '/' ∧ c ≠ '?' ∧ c ≠ '#' := by
  refine ⟨?_, ?_, ?_, ?_⟩ <;> rintro rfl <;> revert h <;> decide

theorem split?_cons {c : Char} (hc : c ≠ ':' ∧ c ≠ '/') (s : Text) :
    split? (c :: s) = (split? s).map fun (scheme, tail) => (c :: scheme, tail) := by
  rw [split?, if_neg hc.2]
  rintro rest rfl
  exact absurd rfl hc.1

/-- What stands before the first `/` of a text is taken for a scheme if a colon ends it and another
`/` follows, whatever characters it has. -/
theorem split?_append {scheme : Text} (h : '/' ∉ scheme) (rest : Text) :
    split? (scheme ++ ':' :: '/' :: '/' :: rest) = some (scheme, '/' :: '/' :: rest) := by
  induction scheme with
  | nil => rfl
  | cons c scheme ih =>
    obtain ⟨hc, hscheme⟩ := not_or.1 (mt List.mem_cons.2 h)
    rw [List.cons_append, split?, if_neg (Ne.symm hc), ih hscheme]
    · rfl
    · -- the colon comes too early for a scheme that goes on
      rintro t rfl he
      cases scheme with
      | nil => exact absurd (List.cons.inj he).1 (by decide)
      | cons d scheme => exact hscheme (by rw [(List.cons.inj he).1]; exact List.mem_cons_self)

/-- A text whose first `/` stands before any colon has no scheme. -/
theorem split?_eq_none {path s : Text} (hp : ∀ c ∈ path.head?, c = '/')
    (h : ∀ c ∈ s, c ≠ ':' ∧ c ≠ '/') : split? (s ++ path) = none := by
  induction s with
  | nil =>
    cases path with
    | nil => rfl
    | cons c path =>
      rw [hp c rfl]
      rfl
  | cons c s ih =>
    rw [List.cons_append, split?_cons (h c List.mem_cons_self),
      ih fun d hd => h d (List.mem_cons_of_mem c hd)]
    rfl

theorem eq_of_split? : ∀ {s scheme rest : Text}, split? s = some (scheme, rest) →
    s = scheme ++ ':' :: rest ∧ ∃ t, rest = '/' :: '/' :: t := by
  intro s
  fun_induction split? s with
  | case1 t =>
    rintro scheme rest h
    obtain ⟨rfl, rfl⟩ := Prod.mk.inj (Option.some.inj h)
    exact ⟨rfl, t, rfl⟩
  | case2 => simp
  | case3 => simp
  | case4 c s _ _ ih =>
    rintro scheme rest h
    obtain ⟨⟨scheme', rest'⟩, hs, he⟩ := Option.map_eq_some_iff.1 h
    obtain ⟨rfl, rfl⟩ := Prod.mk.inj he
    obtain ⟨rfl, ht⟩ := ih hs
    exact ⟨rfl, ht⟩

theorem not_mem_of_split? : ∀ {s scheme rest : Text}, split? s = some (scheme, rest) →
    '/' ∉ scheme := by
  intro s
  fun_induction split? s with
  | case1 t =>
    rintro scheme rest h
    obtain ⟨rfl, -⟩ := Prod.mk.inj (Option.some.inj h)
    simp
  | case2 => simp
  | case3 => simp
  | case4 c s _ hc ih =>
    rintro scheme rest h
    obtain ⟨⟨scheme', rest'⟩, hs, he⟩ := Option.map_eq_some_iff.1 h
    obtain ⟨rfl, rfl⟩ := Prod.mk.inj he
    exact mt List.mem_cons.1 (not_or.2 ⟨Ne.symm hc, ih hs⟩)

end Scheme

/-! ### Hosts -/

namespace Host

theorem bracketed?_eq_some {host inner : Text} :
    bracketed? host = some inner ↔ host = '[' :: inner ++ [']'] := by
  constructor
  · intro h
    unfold bracketed? at h
    split at h
    · next rest =>
      obtain ⟨hlast, he⟩ := Option.ite_none_right_eq_some.1 h
      obtain rfl := Option.some.inj he
      rw [List.cons_append, List.dropLast_append_getLast? _ hlast]
    · simp at h
  · rintro rfl
    simp [bracketed?]

theorem isForbidden_of_isLiteralChar {c : Char} (h : isLiteralChar c = true) :
    isForbidden c = false := by
  have hlt : c.toNat < 128 := by
    simp only [isLiteralChar, Char.isDigit, Char.le_def, UInt32.le_iff_toNat_le, Bool.or_eq_true,
      Bool.and_eq_true, decide_eq_true_eq, beq_iff_eq] at h
    rcases h with (((⟨-, h⟩ | ⟨-, h⟩) | ⟨-, h⟩) | rfl) | rfl
    · exact lt_of_le_of_lt h (by decide)
    · exact lt_of_le_of_lt h (by decide)
    · exact lt_of_le_of_lt h (by decide)
    · decide
    · decide
  have all : ∀ n < 128, isLiteralChar (Char.ofNat n) = true →
      isForbidden (Char.ofNat n) = false := by decide
  simpa [h] using all c.toNat hlt

theorem ne_of_isForbidden {c : Char} (h : isForbidden c = false) :
    Text.isEdgeBlank c = false ∧ c ≠ '/' ∧ c ≠ '?' ∧ c ≠ '#' ∧ c ≠ '@' := by
  refine ⟨?_, ?_, ?_, ?_, ?_⟩
  · simp only [isForbidden, Bool.or_eq_false_iff] at h
    exact h.1.1
  all_goals rintro rfl; revert h; decide

/-- No valid host holds a blank or what ends an authority. -/
theorem ne_of_isValid {host : Text} (h : isValid host = true) : ∀ c ∈ host,
    Text.isEdgeBlank c = false ∧ c ≠ '/' ∧ c ≠ '?' ∧ c ≠ '#' ∧ c ≠ '@' := by
  intro c hc
  unfold isValid at h
  split at h
  · next inner hb =>
    rw [bracketed?_eq_some] at hb
    simp only [Bool.and_eq_true, List.all_eq_true] at h
    subst hb
    simp only [List.cons_append, List.mem_cons, List.mem_append, List.not_mem_nil, or_false] at hc
    rcases hc with rfl | hc | rfl
    · decide
    · exact ne_of_isForbidden (isForbidden_of_isLiteralChar (h.2 c hc))
    · decide
  · simp only [Bool.and_eq_true, List.all_eq_true] at h
    exact ne_of_isForbidden (by simpa using h.2 c hc)

theorem ne_nil_of_isValid {host : Text} (h : isValid host = true) : host ≠ [] := by
  rintro rfl
  exact absurd h (by decide)

/-- A valid host starts with a bracket only if it is an IPv6 literal. -/
theorem head_of_isValid {host : Text} (h : isValid host = true) (hb : bracketed? host = none) :
    ∃ c rest, host = c :: rest ∧ c ≠ '[' := by
  obtain ⟨c, rest, rfl⟩ := List.exists_cons_of_ne_nil (ne_nil_of_isValid h)
  refine ⟨c, rest, rfl, ?_⟩
  rintro rfl
  simp only [isValid, hb, Bool.and_eq_true, List.all_eq_true] at h
  exact absurd (h.2 '[' List.mem_cons_self) (by decide)

end Host

/-! ### Ports -/

namespace Port

/-- What is written behind a host for its port. -/
def tail : Option Port → Text
  | some p => ':' :: p.print
  | none => []

theorem tail_eq (port : Option Port) : tail port = Text.behind ':' (port.map print) := by
  cases port <;> rfl

theorem exists_digitChar {c : Char} (h : c.isDigit = true) : ∃ n < 10, c = Nat.digitChar n := by
  simp only [Char.isDigit, UInt32.le_iff_toNat_le, Bool.and_eq_true, decide_eq_true_eq] at h
  have hle : c.toNat ≤ 57 := h.2
  have all : ∀ n ≤ 57, 48 ≤ n → Char.ofNat n = Nat.digitChar (n - 48) := by decide
  exact ⟨c.toNat - 48, by omega, by rw [← all c.toNat hle h.1, Char.ofNat_toNat]⟩

/-- Written again, a number only loses leading zeros. -/
theorem toDigits_ofDigitChars_sublist (s : Text) : s ≠ [] → (∀ c ∈ s, c.isDigit = true) →
    (Nat.toDigits 10 (Nat.ofDigitChars 10 s 0)).Sublist s := by
  induction s using List.reverseRecOn with
  | nil => exact fun h => absurd rfl h
  | append_singleton s c ih =>
    intro _ hall
    obtain ⟨d, hd, rfl⟩ := exists_digitChar (hall c (by simp))
    rw [Nat.ofDigitChars_append, Nat.ofDigitChars_cons_digitChar_of_lt_ten hd, Nat.ofDigitChars_nil]
    rcases Nat.eq_zero_or_pos (Nat.ofDigitChars 10 s 0) with h0 | hpos
    · rw [h0, Nat.mul_zero, Nat.zero_add, Nat.toDigits_of_lt_base hd]
      exact List.sublist_append_right s _
    · have hs : s ≠ [] := by rintro rfl; simp at hpos
      rw [← Nat.toDigits_append_toDigits (by decide) hpos hd, Nat.toDigits_of_lt_base hd]
      exact (ih hs fun c hc => hall c (List.mem_append_left _ hc)).append_right _

theorem print_sublist {s : Text} {p : Port} (h : ofText? s = some p) : (print p).Sublist s := by
  unfold ofText? at h
  obtain ⟨⟨hne, hall⟩, h⟩ := Option.ite_none_right_eq_some.1 h
  obtain ⟨hlt, h⟩ := Option.dite_none_right_eq_some.1 h
  obtain rfl := Option.some.inj h
  exact toDigits_ofDigitChars_sublist s hne (by simpa using hall)

theorem isDigit_of_mem_print {p : Port} {c : Char} (h : c ∈ print p) : c.isDigit = true :=
  Nat.isDigit_of_mem_toDigits (by decide) (by decide) h

theorem print_ne_nil (p : Port) : print p ≠ [] := Nat.toDigits_ne_nil

/-- A digit is a character of a scheme, hence neither a blank nor a separator. -/
theorem isTailChar_of_mem_print {p : Port} {c : Char} (h : c ∈ print p) :
    Scheme.isTailChar c = true :=
  Scheme.isTailChar_of_isDigit (isDigit_of_mem_print h)

theorem ne_of_mem_tail {port : Option Port} {c : Char} (h : c ∈ tail port) :
    Text.isEdgeBlank c = false ∧ c ≠ '/' ∧ c ≠ '?' ∧ c ≠ '#' ∧ c ≠ '@' := by
  cases port with
  | none => simp [tail] at h
  | some p =>
    rcases List.mem_cons.1 h with rfl | h
    · decide
    · have ht := isTailChar_of_mem_print h
      obtain ⟨-, h1, h2, h3⟩ := Scheme.ne_of_isTailChar ht
      refine ⟨Scheme.isEdgeBlank_of_isTailChar ht, h1, h2, h3, ?_⟩
      rintro rfl
      exact absurd ht (by decide)

end Port

/-! ### Authorities -/

namespace Authority

theorem readPort_print (p : Port) : readPort (some p.print) = .ok (some p) := by
  obtain ⟨c, s, h⟩ := List.exists_cons_of_ne_nil (Port.print_ne_nil p)
  rw [h, readPort, ← h, Port.ofText?_print]
  simp

/-- A bracket ends the host of a literal, and a colon behind it starts the port. -/
theorem split_literal {inner : Text} (h : ']' ∉ inner) (digits : Option Text) :
    split ('[' :: inner ++ ']' :: Text.behind ':' digits) =
      .ok ('[' :: inner ++ [']'], digits) := by
  rw [List.cons_append, split, Text.cut_append_of_not_mem _ h, Text.cut_cons_self, List.append_nil]
  cases digits <;> rfl

/-- The last colon ends a host without brackets. -/
theorem split_name {host : Text} {digits : Option Text}
    (hb : (host ++ Text.behind ':' digits).head? ≠ some '[') (h : ':' ∉ digits.getD host) :
    split (host ++ Text.behind ':' digits) = .ok (host, digits) := by
  have hbracket : ∀ t, host ++ Text.behind ':' digits = '[' :: t → False := by
    intro t ht
    exact hb (by rw [ht]; rfl)
  rw [split.eq_2 _ hbracket]
  cases digits with
  | none =>
    rw [Option.getD_none] at h
    rw [Text.behind_none, List.append_nil, Text.cutLast?_of_not_mem h]
  | some digits =>
    rw [Option.getD_some] at h
    rw [Text.behind_some, Text.cutLast?_append h]

/-- Host and port are told apart by the last colon, or by the bracket. -/
theorem split_append {host : Text} {digits : Option Text} (hv : Host.isValid host = true)
    (hdigits : ∀ s ∈ digits, ':' ∉ s)
    (hc : ':' ∈ host → (Host.bracketed? host).isSome = true ∨ digits.isSome = true) :
    split (host ++ Text.behind ':' digits) = .ok (host, digits) := by
  cases hb : Host.bracketed? host with
  | some inner =>
    have hinner : ']' ∉ inner := by
      simp only [Host.isValid, hb, Bool.and_eq_true, List.all_eq_true] at hv
      exact fun h => absurd (hv.2 ']' h) (by decide)
    rw [Host.bracketed?_eq_some.1 hb, List.append_assoc]
    exact split_literal hinner _
  | none =>
    obtain ⟨c, rest, hhost, hc0⟩ := Host.head_of_isValid hv hb
    refine split_name (by simpa [hhost] using hc0) ?_
    cases digits with
    | none => exact fun h => by simpa [hb] using hc h
    | some s => exact hdigits s rfl

theorem parse_of_split {a host : Text} {digits : Option Text} (hat : '@' ∉ a)
    (h : split a = .ok (host, digits)) :
    parse a =
      if Host.isValid host then (readPort digits).map fun port => ⟨host, port⟩
      else .error (if host.head? = some '[' then .ipv6 else .host) := by
  rw [parse, if_neg (by simpa using hat), h]
  simp only [bind, Except.bind]
  split
  · cases readPort digits <;> rfl
  · rfl

/-- A valid host is read back, with the port that the digits behind it write. -/
theorem parse_behind {host : Text} {digits : Option Text} {port : Option Port}
    (hv : Host.isValid host = true) (hdigits : ∀ s ∈ digits, ∀ c ∈ s, c.isDigit = true)
    (hc : ':' ∈ host → (Host.bracketed? host).isSome = true ∨ digits.isSome = true)
    (hport : readPort digits = .ok port) :
    parse (host ++ Text.behind ':' digits) = .ok ⟨host, port⟩ := by
  have hcolon : ∀ s ∈ digits, ':' ∉ s := fun s hs h => absurd (hdigits s hs _ h) (by decide)
  have hat : '@' ∉ host ++ Text.behind ':' digits := by
    rw [List.mem_append]
    rintro (h | h)
    · exact absurd rfl (Host.ne_of_isValid hv '@' h).2.2.2.2
    · cases digits with
      | none => simp at h
      | some s =>
        rcases List.mem_cons.1 h with h | h
        · exact absurd h (by decide)
        · exact absurd (hdigits s rfl _ h) (by decide)
  rw [parse_of_split hat (split_append hv hcolon hc), if_pos hv, hport]
  rfl

/-- A written authority is read back. -/
theorem parse_append {host : Text} {port : Option Port} (hv : Host.isValid host = true)
    (hc : ':' ∈ host → (Host.bracketed? host).isSome = true ∨ port.isSome = true) :
    parse (host ++ Port.tail port) = .ok ⟨host, port⟩ := by
  rw [Port.tail_eq]
  cases port with
  | none => exact parse_behind hv (by simp) hc rfl
  | some p =>
    refine parse_behind hv ?_ (by simp) (readPort_print p)
    rintro s hs c hc
    obtain rfl : p.print = s := Option.some.inj hs
    exact Port.isDigit_of_mem_print hc

theorem eq_of_split {s host : Text} {digits : Option Text} (h : split s = .ok (host, digits)) :
    s = host ++ Text.behind ':' digits := by
  unfold split at h
  split at h
  · next rest =>
    have hcut := Text.cut_append ']' rest
    split at h
    · simp at h
    · next inner he =>
      obtain ⟨rfl, rfl⟩ := Prod.mk.inj (Except.ok.inj h)
      rw [he] at hcut
      simpa using hcut
    · next inner port he =>
      obtain ⟨rfl, rfl⟩ := Prod.mk.inj (Except.ok.inj h)
      rw [he] at hcut
      simpa using hcut
    · simp at h
  · split at h
    · next he =>
      obtain ⟨rfl, rfl⟩ := Prod.mk.inj (Except.ok.inj h)
      exact Text.eq_of_cutLast? he
    · obtain ⟨rfl, rfl⟩ := Prod.mk.inj (Except.ok.inj h)
      simp

theorem tail_sublist_of_readPort {digits : Option Text} {port : Option Port}
    (h : readPort digits = .ok port) : (Port.tail port).Sublist (Text.behind ':' digits) := by
  unfold readPort at h
  split at h
  · obtain rfl := Except.ok.inj h
    exact List.nil_sublist _
  · obtain rfl := Except.ok.inj h
    exact List.nil_sublist _
  · split at h
    · next he =>
      obtain rfl := Except.ok.inj h
      exact (Port.print_sublist he).cons_cons ':'
    · simp at h

theorem exists_split_of_parse {s : Text} {a : Authority} (h : parse s = .ok a) :
    ∃ digits, split s = .ok (a.host, digits) ∧ Host.isValid a.host = true ∧
      readPort digits = .ok a.port := by
  unfold parse at h
  split at h
  · simp at h
  · obtain ⟨⟨host, digits⟩, hsplit, h⟩ := Except.bind_eq_ok_iff.1 h
    dsimp only at h
    split at h
    · next hv =>
      obtain ⟨port, hport, h⟩ := Except.bind_eq_ok_iff.1 h
      obtain rfl := Except.ok.inj h
      exact ⟨digits, hsplit, hv, hport⟩
    · exact nomatch h

/-- What has been read as an authority stands in the text as it would be written, but for leading
zeros of the port and the colon of an empty one. -/
theorem eq_of_parse {s : Text} {a : Authority} (h : parse s = .ok a) :
    Host.isValid a.host = true ∧ ∃ port, s = a.host ++ port ∧ (Port.tail a.port).Sublist port := by
  obtain ⟨digits, hsplit, hv, hport⟩ := exists_split_of_parse h
  exact ⟨hv, Text.behind ':' digits, eq_of_split hsplit, tail_sublist_of_readPort hport⟩

/-- A whole text is split off as a host only if it is in brackets or has no colon. -/
theorem not_mem_of_split {host : Text} (h : split host = .ok (host, none))
    (hb : Host.bracketed? host = none) : ':' ∉ host := by
  unfold split at h
  split at h
  · next rest =>
    split at h
    · simp at h
    · next inner he =>
      obtain ⟨hhost, -⟩ := Prod.mk.inj (Except.ok.inj h)
      rw [Host.bracketed?_eq_some.2 hhost.symm] at hb
      simp at hb
    · simp at h
    · simp at h
  · split at h
    · simp at h
    · next hnone => exact Text.cutLast?_eq_none_iff.1 hnone

/-- A text with a colon is read as a host only if it is in brackets. -/
theorem isSome_bracketed?_of_parse {host : Text} {port : Option Port}
    (h : parse host = .ok ⟨host, port⟩) (hc : ':' ∈ host) :
    (Host.bracketed? host).isSome = true := by
  by_contra hb
  obtain ⟨digits, hsplit, -, -⟩ := exists_split_of_parse h
  obtain rfl : digits = none := by
    have hhost : host = host ++ Text.behind ':' digits := eq_of_split hsplit
    cases digits with
    | none => rfl
    | some digits => simp at hhost
  exact not_mem_of_split hsplit (by simpa using hb) hc

/-- A written authority is read back only if no colon of the host is taken for that of the port. -/
theorem colon_of_parse {host : Text} {own port : Option Port}
    (h : parse (host ++ Port.tail own) = .ok ⟨host, port⟩) (hc : ':' ∈ host) :
    (Host.bracketed? host).isSome = true ∨ own.isSome = true := by
  cases own with
  | none =>
    rw [Port.tail, List.append_nil] at h
    exact Or.inl (isSome_bracketed?_of_parse h hc)
  | some p => exact Or.inr rfl

end Authority

/-! ### Taking scheme and authority off the front -/

namespace Url

theorem printAuthority_eq (host : Text) (port : Option Port) :
    printAuthority host port = '/' :: '/' :: host ++ Port.tail port := rfl

theorem takeScheme_append {scheme : Text} (h : Scheme.isValid scheme = true) (rest : Text) :
    takeScheme (scheme ++ ':' :: '/' :: '/' :: rest) = .ok (some scheme, '/' :: '/' :: rest) := by
  have hslash : '/' ∉ scheme := fun hc =>
    (Scheme.ne_of_isTailChar (Scheme.isTailChar_of_isValid h _ hc)).2.1 rfl
  rw [takeScheme, Scheme.split?_append hslash]
  exact if_pos h

/-- A text from `//` on has no scheme. -/
theorem takeScheme_slashes (rest : Text) :
    takeScheme ('/' :: '/' :: rest) = .ok (none, '/' :: '/' :: rest) := rfl

theorem eq_of_takeScheme {s rest : Text} {scheme : Option Text}
    (h : takeScheme s = .ok (scheme, rest)) :
    (scheme = none ∧ rest = s) ∨ ∃ name t, scheme = some name ∧ Scheme.isValid name = true ∧
      rest = '/' :: '/' :: t ∧ s = name ++ ':' :: rest := by
  unfold takeScheme at h
  split at h
  · next name tail he =>
    split at h
    · next hv =>
      obtain ⟨rfl, rfl⟩ := Prod.mk.inj (Except.ok.inj h)
      obtain ⟨hs, t, ht⟩ := Scheme.eq_of_split? he
      exact Or.inr ⟨name, t, rfl, hv, ht, hs⟩
    · simp at h
  · obtain ⟨rfl, rfl⟩ := Prod.mk.inj (Except.ok.inj h)
    exact Or.inl ⟨rfl, rfl⟩

theorem split?_of_takeScheme {s rest : Text} (h : takeScheme s = .ok (none, rest)) :
    Scheme.split? s = none := by
  unfold takeScheme at h
  split at h
  · split at h <;> simp at h
  · next hsplit => exact hsplit

theorem takeAuthority_append {a : Text} (ha : ∀ c ∈ a, c ≠ '/') {path : Text}
    (hp : ∀ c ∈ path.head?, c = '/') :
    takeAuthority ('/' :: '/' :: a ++ path) =
      (Authority.parse a).map fun authority => (some authority, path) := by
  have hall : ∀ c ∈ a, (c != '/') = true := fun c hc => by simpa using ha c hc
  have hpath : path.takeWhile (· != '/') = [] ∧ path.dropWhile (· != '/') = path := by
    cases path with
    | nil => simp
    | cons c path => simp [hp c rfl]
  rw [List.cons_append, List.cons_append, takeAuthority, List.takeWhile_append_of_pos hall,
    List.dropWhile_append_of_pos hall, hpath.1, hpath.2, List.append_nil]
  cases Authority.parse a <;> rfl

theorem takeAuthority_of_not {s : Text} (h : ∀ t, s ≠ '/' :: '/' :: t) :
    takeAuthority s = .ok (none, s) := by
  rw [takeAuthority]
  exact h

theorem eq_of_takeAuthority {s path : Text} {authority : Option Authority}
    (h : takeAuthority s = .ok (authority, path)) :
    (authority = none ∧ path = s ∧ ∀ t, s ≠ '/' :: '/' :: t) ∨
    ∃ a text, authority = some a ∧ s = '/' :: '/' :: text ++ path ∧ Authority.parse text = .ok a ∧
      ∀ c ∈ path.head?, c = '/' := by
  unfold takeAuthority at h
  split at h
  · next rest =>
    obtain ⟨a, ha, h⟩ := Except.bind_eq_ok_iff.1 h
    obtain ⟨rfl, rfl⟩ := Prod.mk.inj (Except.ok.inj h)
    refine Or.inr ⟨a, _, rfl, ?_, ha, ?_⟩
    · rw [List.cons_append, List.cons_append, List.takeWhile_append_dropWhile]
    · intro c hc
      have := List.head?_dropWhile_not (· != '/') rest
      rw [Option.mem_def.1 hc] at this
      simpa using this
  · next hne =>
    obtain ⟨rfl, rfl⟩ := Prod.mk.inj (Except.ok.inj h)
    exact Or.inl ⟨rfl, rfl, hne⟩

end Url

end Hyperlink
