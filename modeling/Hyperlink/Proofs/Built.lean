import Hyperlink.Proofs.LinkOrigin

/-!
Addresses put together in steps.

A step checks nothing, so a scheme or port may stand there without a host, and a path behind a host
may lack its root marker. The text of an address leaves out the one and adds the other; what is read
from it is `Url.seated`. Where no part holds a separator or a blank, that is the whole difference,
unless the path alone is taken for an authority or a scheme (`parse_print_assembled_iff`).
-/

namespace Hyperlink

namespace Text

/-- Control characters. -/
def isControl (c : Char) : Bool := c.toNat < 0x20 || (0x7F ≤ c.toNat && c.toNat < 0xA0)

/-- A character that neither ends a part of an address nor is cleaned away. -/
def isInert (c : Char) : Bool := !isControl c && !" /?#&=".toList.contains c

theorem ne_of_isInert {c : Char} (h : isInert c = true) :
    isEdgeBlank c = false ∧ c ≠ '/' ∧ c ≠ '?' ∧ c ≠ '#' ∧ c ≠ '&' ∧ c ≠ '=' := by
  have hblank : isEdgeBlank c = false := by
    rw [← Bool.not_eq_true, isEdgeBlank_iff]
    intro hle
    rcases Nat.lt_or_eq_of_le hle with hlt | heq
    · simp [isInert, isControl, hlt] at h
    · have hspace : c = ' ' := by rw [← Char.ofNat_toNat c, heq]
      rw [hspace] at h
      exact absurd h (by decide)
  refine ⟨hblank, ?_, ?_, ?_, ?_, ?_⟩ <;> rintro rfl <;> revert h <;> decide

end Text

namespace Path

/-- A path as it is read back from what is written for it, behind a host or not. -/
def seat (hosted : Bool) (p : Path) : Path :=
  if p = [[]] then [[], []]
  else if hosted && !p.isEmpty && !p.isRooted then [] :: p
  else p

theorem mem_seat {hosted : Bool} {p : Path} {s : Text} (h : s ∈ seat hosted p) : s ∈ p ∨ s = [] := by
  unfold seat at h
  split at h
  · exact Or.inr (by simpa using h)
  · split at h
    · exact (List.mem_cons.1 h).symm
    · exact Or.inl h

theorem isRooted_seat_false (p : Path) : (seat false p).isRooted = p.isRooted := by
  unfold seat
  split
  · next h => rw [h]; rfl
  · rfl

/-- Behind a host every path is written from the root. -/
theorem seat_true (p : Path) : seat true p = [] ∨ ∃ q, q ≠ [] ∧ seat true p = [] :: q := by
  unfold seat
  split
  · exact Or.inr ⟨[[]], List.cons_ne_nil _ _, rfl⟩
  · next hroot =>
    cases p with
    | nil => exact Or.inl rfl
    | cons s p =>
      refine Or.inr ?_
      cases s with
      | nil =>
        refine ⟨p, ?_, rfl⟩
        rintro rfl
        exact hroot rfl
      | cons c s => exact ⟨(c :: s) :: p, List.cons_ne_nil _ _, rfl⟩

/-- A path that stands alone is read back as it is, and a lone root marker as a `/`. -/
theorem standsAlone_seat {p : Path} (h : p = [[]] ∨ p.StandsAlone) :
    (seat false p).StandsAlone := by
  rcases h with rfl | h
  · exact ⟨by decide, by simp [seat], by simp [seat]⟩
  · rw [seat, if_neg h.not_root]
    exact h

end Path

theorem Query.mem_print {q : Query} {c : Char} (h : c ∈ q.print) :
    (∃ p ∈ q, c ∈ p.name ∨ c ∈ p.value ∨ c = '=') ∨ c = '&' := by
  rw [print_eq_intercalate] at h
  refine (Text.mem_of_mem_intercalate h).imp ?_ List.mem_singleton.1
  rintro ⟨pair, hpair, hc⟩
  obtain ⟨p, hp, rfl⟩ := List.mem_map.1 hpair
  exact ⟨p, hp, Parameter.mem_print hc⟩

namespace Url

/-! ### Steps -/

/-- The addresses that can be put together, from nothing, from segments or from a text that is
read. -/
inductive Built : Url → Prop where
  | empty : Built {}
  | segments (path : Path) : Built (ofSegments path)
  | read {input : Text} {u : Url} (read : parse input = .ok u) : Built u
  | step {u : Url} (built : Built u) (e : Edit) : Built (u.edit e)

theorem fragment_edit_ne {u : Url} (h : u.fragment ≠ some []) (e : Edit) :
    (u.edit e).fragment ≠ some [] := by
  cases e with
  | fragment s =>
    show (if s = [] then none else some s) ≠ some []
    split
    · simp
    · next hs => simpa using hs
  | _ => exact h

/-- No step leaves an empty fragment behind. -/
theorem Built.fragment_ne {u : Url} (h : u.Built) : u.fragment ≠ some [] := by
  induction h with
  | empty => simp
  | segments path => simp [ofSegments]
  | read hread => exact fun he => ((wellFormed_of_parse hread).fragment [] he).1 rfl
  | step _ e ih => exact fragment_edit_ne ih e

/-- An address put together from valid parts, none of which holds a separator or a blank. -/
structure Assembled (u : Url) : Prop where
  built : u.Built
  contextRelative : u.contextRelative = false
  scheme : ∀ s ∈ u.scheme, Scheme.isValid s = true
  host : ∀ s ∈ u.host, Host.isValid s = true
  colon : u.BracketsColon
  segments : ∀ s ∈ u.segments, ∀ c ∈ s, Text.isInert c = true
  names : ∀ p ∈ u.query, ∀ c ∈ p.name, Text.isInert c = true
  values : ∀ p ∈ u.query, ∀ c ∈ p.value, Text.isInert c = true
  fragment : ∀ s ∈ u.fragment, ∀ c ∈ s, Text.isInert c = true
  parameters : ∀ p ∈ u.query, p.name ≠ [] ∨ p.value ≠ []

/-- The address that is read back: scheme and port only behind a host, and the path from the root
there. -/
def seated (u : Url) : Url :=
  { u with
    scheme := u.host.bind fun _ => u.scheme
    port := u.host.bind fun _ => u.port
    segments := Path.seat u.host.isSome u.segments }

theorem printPath_eq_seat (u : Url) : u.printPath = (Path.seat u.host.isSome u.segments).toText := by
  rw [printPath_eq_ite, Path.seat]
  split
  · rfl
  · split
    · next h =>
      have hne : u.segments ≠ [] := by
        rintro he
        simp [he] at h
      rw [Path.toText_rooted, Path.slashed_eq_cons hne]
    · rfl

/-- The address that is read back is written in the same way. -/
theorem print_seated {u : Url} (hw : u.seated.WellFormed) : u.seated.print = u.print := by
  have horigin : printOrigin u.seated.scheme u.seated.host u.seated.port =
      printOrigin u.scheme u.host u.port := by
    unfold seated
    cases u.host <;> rfl
  rw [print_eq, hw.printPath_eq, horigin, print_eq, printPath_eq_seat]
  rfl

namespace Assembled

variable {u : Url} (h : u.Assembled)
include h

theorem ne_of_mem_segments {s : Text} (hs : s ∈ u.segments) {c : Char} (hc : c ∈ s) :
    Text.isEdgeBlank c = false ∧ c ≠ '/' ∧ c ≠ '?' ∧ c ≠ '#' := by
  obtain ⟨hblank, hslash, hquery, hhash, -, -⟩ := Text.ne_of_isInert (h.segments s hs c hc)
  exact ⟨hblank, hslash, hquery, hhash⟩

theorem wellFormed_parameter {p : Parameter} (hp : p ∈ u.query) : p.WellFormed where
  name c hc := by
    obtain ⟨hblank, -, -, hhash, hamp, heq⟩ := Text.ne_of_isInert (h.names p hp c hc)
    exact ⟨hamp, heq, hhash, Text.isTabOrLineEnd_eq_false hblank⟩
  value c hc := by
    obtain ⟨hblank, -, -, hhash, hamp, -⟩ := Text.ne_of_isInert (h.values p hp c hc)
    exact ⟨hamp, hhash, Text.isTabOrLineEnd_eq_false hblank⟩

theorem ne_of_mem_printPath {c : Char} (hc : c ∈ u.printPath) :
    Text.isEdgeBlank c = false ∧ c ≠ '?' ∧ c ≠ '#' := by
  rw [printPath_eq_seat] at hc
  obtain ⟨s, hs, hc⟩ | rfl := Path.mem_of_mem_toText hc
  · rcases Path.mem_seat hs with hs | rfl
    · obtain ⟨hblank, -, hquery, hhash⟩ := h.ne_of_mem_segments hs hc
      exact ⟨hblank, hquery, hhash⟩
    · simp at hc
  · decide

theorem isEdgeBlank_of_mem_suffix {c : Char} (hc : c ∈ u.suffix) : Text.isEdgeBlank c = false := by
  rw [suffix, List.mem_append] at hc
  rcases hc with hc | hc
  · split at hc
    · simp at hc
    · rcases List.mem_cons.1 hc with rfl | hc
      · decide
      · rcases Query.mem_print hc with ⟨p, hp, hc | hc | rfl⟩ | rfl
        · exact (Text.ne_of_isInert (h.names p hp c hc)).1
        · exact (Text.ne_of_isInert (h.values p hp c hc)).1
        · decide
        · decide
  · cases hfragment : u.fragment with
    | none => simp [hfragment] at hc
    | some s =>
      rw [hfragment] at hc
      rcases List.mem_cons.1 hc with rfl | hc
      · decide
      · exact (Text.ne_of_isInert (h.fragment s hfragment c hc)).1

/-- Nothing of the text is cleaned away. -/
theorem isClean_print : Text.IsClean u.print := by
  refine Text.isClean_of_forall fun c hc => ?_
  rw [print_eq, List.mem_append, List.mem_append] at hc
  rcases hc with (hc | hc) | hc
  · cases hhost : u.host with
    | none => simp [printOrigin, hhost] at hc
    | some host =>
      rw [hhost] at hc
      exact (ne_of_mem_printOrigin h.scheme (h.host host hhost) c hc).1
  · exact (h.ne_of_mem_printPath hc).1
  · exact h.isEdgeBlank_of_mem_suffix hc

theorem wellFormed_seated (halone : u.host = none → u.segments = [[]] ∨ u.segments.StandsAlone) :
    u.seated.WellFormed where
  contextRelative := h.contextRelative
  scheme s hs := by
    cases hhost : u.host with
    | none => simp [seated, hhost] at hs
    | some host =>
      rw [seated, hhost] at hs
      exact ⟨congrArg Option.isSome hhost, h.scheme s hs⟩
  port hport := by
    cases hhost : u.host with
    | none => simp [seated, hhost] at hport
    | some host => exact congrArg Option.isSome hhost
  host := h.host
  segments s hs c hc := by
    rcases Path.mem_seat hs with hs | rfl
    · obtain ⟨hblank, hslash, hquery, hhash⟩ := h.ne_of_mem_segments hs hc
      exact ⟨hslash, hquery, hhash, Text.isTabOrLineEnd_eq_false hblank⟩
    · simp at hc
  hosted hhost := by
    have hpath : u.seated.segments = Path.seat true u.segments := by
      rw [← show u.host.isSome = true from hhost]
      rfl
    rw [hpath]
    exact Path.seat_true u.segments
  hostless hhost := by
    have hpath : u.seated.segments = Path.seat false u.segments := by
      rw [← show u.host.isSome = false from congrArg Option.isSome hhost]
      rfl
    rw [hpath]
    exact Path.standsAlone_seat (halone hhost)
  query _ hp := h.wellFormed_parameter hp
  fragment s hs := by
    refine ⟨?_, fun c hc => ?_⟩
    · rintro rfl
      exact h.built.fragment_ne hs
    · exact Text.isTabOrLineEnd_eq_false (Text.ne_of_isInert (h.fragment s hs c hc)).1

theorem parse_print_seated
    (halone : u.host = none → u.segments = [[]] ∨ u.segments.StandsAlone) :
    parse u.print = .ok u.seated := by
  have hw := h.wellFormed_seated halone
  have hprint := print_seated hw
  have hclean := h.isClean_print
  rw [← hprint] at hclean ⊢
  exact Legible.parse_print ⟨hw, fun host hhost hc => Or.inl (h.colon host hhost hc), h.parameters,
    hclean.head, hclean.last⟩

/-- Without a host, what is read back as an address without a host has the path that was written. -/
theorem segments_of_parse_print {v : Url} (hv : parse u.print = .ok v) (hhost : u.host = none)
    (hvhost : v.host = none) (hroot : u.segments ≠ [[]]) : v.segments = u.segments := by
  have hpath : u.printPath = u.segments.toText := by
    rw [printPath_eq_ite, if_neg hroot, hhost]
    rfl
  have hfront : tailPath u.print.clean = u.segments.toText := by
    have hends := tailPath_append_suffix (fun _ => h.wellFormed_parameter) fun c hc =>
      (h.ne_of_mem_printPath hc).2
    rw [Text.clean_eq_self h.isClean_print, print_eq, hhost]
    exact hends.trans hpath
  obtain ⟨htext, -, -⟩ := front_of_parse hv hvhost
  rw [← (wellFormed_of_parse hv).ofText_segments, htext, hfront]
  by_cases hnil : u.segments = []
  · rw [hnil]
    rfl
  · exact Path.ofText_toText ⟨hnil, hroot⟩ fun s hs hc => (h.ne_of_mem_segments hs hc).2.1 rfl

end Assembled

/-- An address that has been put together from valid parts is read back with the same text, the same
host, and from the root of the server or not as before, unless it has no host and its path is taken
for an authority or a scheme. -/
theorem parse_print_assembled_iff {u : Url} (h : u.Assembled) :
    (∃ v, parse u.print = .ok v ∧ v.print = u.print ∧ v.host = u.host ∧
        v.isServerPath = u.isServerPath) ↔
      (u.host = none → u.segments = [[]] ∨ u.segments.StandsAlone) := by
  constructor
  · rintro ⟨v, hv, -, hhost, -⟩ hnone
    have hvhost : v.host = none := by rw [hhost, hnone]
    by_cases hroot : u.segments = [[]]
    · exact Or.inl hroot
    · rw [← h.segments_of_parse_print hv hnone hvhost hroot]
      exact Or.inr (standsAlone_of_parse hv hvhost)
  · intro halone
    refine ⟨u.seated, h.parse_print_seated halone, print_seated (h.wellFormed_seated halone), rfl,
      ?_⟩
    cases hhost : u.host with
    | none =>
      have hr : u.seated.segments.isRooted = u.segments.isRooted := by
        rw [← Path.isRooted_seat_false u.segments, seated, hhost]
        rfl
      rw [isServerPath, isServerPath, isAnchored, isAnchored, hr]
      rfl
    | some host => simp [isServerPath, seated, hhost]

/-- A scheme and a port without a host are left out; a colon and an empty segment are no obstacle. -/
theorem parse_print_assembled_colon :
    ∃ v, parse (print { scheme := some "http".toList, port := some 80
                        segments := ["a:b".toList, [], ['c']], query := [⟨[], ['v']⟩] }) = .ok v ∧
      v.print = "a:b//c?=v".toList ∧ v.host = none ∧ v.isServerPath = false := by
  refine (parse_print_assembled_iff ?_).2 fun _ => Or.inr ⟨by decide, ?_, ?_⟩
  · refine ⟨?_, rfl, by decide, by simp, by simp [BracketsColon], ?_, by simp, ?_, by simp,
      by simp⟩
    · -- from its segments, one step for each other part
      exact .step (.step (.step (.segments ["a:b".toList, [], ['c']]) (.scheme "http".toList))
        (.port 80)) (.parameter [] ['v'])
    · simp [Text.isInert, Text.isControl]
    · simp [Text.isInert, Text.isControl]
  · rintro rest - he
    simp at he
  · rintro s rest - he
    have hfirst : "a:b".toList = s ++ [':'] := (List.cons.inj he).1
    simpa using congrArg List.getLast? hfirst

/-- An address is not always read back: an empty segment behind the root marker makes the next one a
host. -/
theorem not_parse_print_assembled :
    ¬ ∀ u : Url, u.Assembled → ∃ v, parse u.print = .ok v ∧ v.print = u.print ∧ v.host = u.host ∧
      v.isServerPath = u.isServerPath := by
  intro h
  obtain ⟨v, hv, -, hhost, -⟩ := h { segments := [[], [], ['x']] }
    ⟨.segments _, rfl, by simp, by simp, by simp [BracketsColon],
      by simp [Text.isInert, Text.isControl], by simp, by simp, by simp, by simp⟩
  obtain rfl : ({ host := some ['x'] } : Url) = v := Except.ok.inj hv
  simp at hhost

end Url

end Hyperlink
