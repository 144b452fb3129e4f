/-!
Why a text is no address.

Reading goes on as long as there is no fault, so a reading that succeeds does so in each of its
steps (`bind_eq_ok_iff`).
-/

/-- Two steps succeed exactly when the first one does and the second one on what it gives. -/
theorem Except.bind_eq_ok_iff {ε α β : Type} {x : Except ε α} {f : α → Except ε β} {b : β} :
    x >>= f = .ok b ↔ ∃ a, x = .ok a ∧ f a = .ok b := by
  cases x <;> simp [bind, Except.bind]

namespace Hyperlink

/-- The faults an address or an encoded parameter can have. -/
inductive ParseError where
  /-- The text before `://` is no scheme name. -/
  | scheme
  /-- The host is empty or holds a character that no host may have. -/
  | host
  /-- A bracketed host is not closed, or holds something else than an IPv6 literal may. -/
  | ipv6
  /-- The port is no number up to 65535. -/
  | port
  /-- The percent-encoded octets are not UTF-8. -/
  | percentEncoding
  deriving DecidableEq

/-- The wording of a fault. -/
def ParseError.message : ParseError → String
  | .scheme => "Invalid scheme"
  | .host => "Invalid host"
  | .ipv6 => "Invalid IPv6 address"
  | .port => "Invalid port"
  | .percentEncoding => "Invalid percent encoding"

end Hyperlink
