import Hyperlink.Proofs.Readable
import Hyperlink.Proofs.Settled

/-!
Which addresses are read back from their own text.

Of all values exactly the legible ones are (`parse_print_eq_iff`). An address that has been read is
well-formed, but need not be legible: the colon of an empty port, an `=` before an empty value, and
an empty query or fragment are not written again, and what stood before them may then count for
something else. `parse_print_iff_of_parse` says that nothing else gets lost.
-/

namespace Hyperlink.Url

/-- An address is read back from its own text exactly when it is legible. -/
theorem parse_print_eq_iff (u : Url) : parse u.print = .ok u ↔ u.Legible :=
  ⟨legible_of_parse_print, Legible.parse_print⟩

/-! ### Reading what has been read -/

section Read

variable {input : Text} {u : Url}

/-- The text of what has been read starts as the text it was read from, or with a separator. -/
theorem first_of_parse (h : parse input = .ok u) :
    ∀ c ∈ u.print.head?, Text.isEdgeBlank c = false := by
  intro c hc
  cases hhost : u.host with
  | some host =>
    rw [print_eq, hhost, List.append_assoc,
      List.head?_append_of_ne_nil _ (printOrigin_ne_nil u.scheme host u.port)] at hc
    exact (ne_of_mem_printOrigin (isValid_scheme_of_parse h) (isValid_host_of_parse h host hhost) c
      (List.mem_of_mem_head? hc)).1
  | none =>
    have hprint : u.print = u.segments.toText ++ u.suffix := by
      rw [print_eq, hhost, printPath_of_parse h]
      rfl
    rw [hprint, List.head?_append, Option.mem_def, Option.or_eq_some_iff] at hc
    rcases hc with hc | ⟨-, hc⟩
    · exact (readable_of_parse h).head_path hhost c hc
    · rcases head?_suffix u c hc with rfl | rfl <;> decide

/-- What has been read is read back from its own text exactly when no colon of the host can be taken
for that of a port, no parameter is empty and no blank has come to the end. -/
theorem parse_print_iff_of_parse (h : parse input = .ok u) :
    parse u.print = .ok u ↔
      (∀ host ∈ u.host, ':' ∈ host →
        (Host.bracketed? host).isSome = true ∨ u.port.isSome = true) ∧
      (∀ p ∈ u.query, p.name ≠ [] ∨ p.value ≠ []) ∧
      ∀ c ∈ u.print.getLast?, Text.isEdgeBlank c = false := by
  constructor
  · intro hback
    have hl := legible_of_parse_print hback
    exact ⟨hl.colon, hl.parameters, hl.last⟩
  · rintro ⟨hcolon, hparameters, hlast⟩
    exact Legible.parse_print ⟨wellFormed_of_parse h, hcolon, hparameters, first_of_parse h, hlast⟩

/-- The address `//a:b:80/x?y&=z`. -/
def colonHost : Url :=
  { host := some "a:b".toList, port := Port.ofText? "80".toList, segments := [[], ['x']]
    query := [⟨['y'], []⟩, ⟨[], ['z']⟩] }

/-- A colon in the host before a port, an empty value, an empty name and an empty fragment are no
obstacle. -/
theorem parse_print_of_parse_port : parse colonHost.print = .ok colonHost :=
  (@parse_print_iff_of_parse " //a:b:080/x?y=&=z#\t".toList _ (by rfl)).2
    ⟨fun _ _ _ => Or.inr rfl, by simp [colonHost], fun c hc => by
      obtain rfl : 'z' = c := Option.some.inj hc
      decide⟩

/-- What has been read is not always read back: of a lone `=` nothing is written. -/
theorem not_parse_print_of_parse :
    ¬ ∀ (input : Text) (u : Url), parse input = .ok u → parse u.print = .ok u := by
  intro h
  have hback := h "?=".toList { query := [⟨[], []⟩] } (by rfl)
  obtain he : ({} : Url) = { query := [⟨[], []⟩] } := Except.ok.inj hback
  exact absurd he (by decide)

end Read

end Hyperlink.Url
