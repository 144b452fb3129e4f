import Hyperlink.Text

/-!
Schemes, their well-known kinds and ports.
-/

namespace Hyperlink

/-- Port numbers. -/
abbrev Port := Fin 65536

namespace Scheme

/-- A character that may follow the first letter of a scheme. -/
def isTailChar (c : Char) : Bool := c.isAlphanum || c == '+' || c == '-' || c == '.'

/-- A scheme is an ASCII letter followed by letters, digits, `+`, `-` or `.`. -/
def isValid : Text → Bool
  | [] => false
  | c :: rest => c.isAlpha && rest.all isTailChar

/-- Splits an address before the `//` of the `://` that ends its scheme. A `/` before it means that
the colon belongs to the path. -/
def split? : Text → Option (Text × Text)
  | ':' :: '/' :: '/' :: rest => some ([], '/' :: '/' :: rest)
  | [] => none
  | c :: rest =>
    if c = '/' then none else (split? rest).map fun (scheme, tail) => (c :: scheme, tail)

/-- The schemes with a meaning of their own; every other one, and none at all, is `other`. -/
inductive Kind where
  | http | https | ws | wss | ftp | file | other
  deriving DecidableEq, Inhabited

/-- The kind a scheme is of, whatever the case of its letters. -/
def kind (scheme : Text) : Kind :=
  let s := scheme.lower
  if s = "http".toList then .http
  else if s = "https".toList then .https
  else if s = "ws".toList then .ws
  else if s = "wss".toList then .wss
  else if s = "ftp".toList then .ftp
  else if s = "file".toList then .file
  else .other

/-- The kind of an optional scheme. -/
def kindOf (scheme : Option Text) : Kind := (scheme.map kind).getD .other

namespace Kind

/-- The port a scheme means when none is written. -/
def defaultPort : Kind → Option Port
  | .http | .ws => some 80
  | .https | .wss => some 443
  | .ftp => some 21
  | .file | .other => none

/-- The port that has to be written: none when it is the default. -/
def explicitPort (k : Kind) (port : Option Port) : Option Port :=
  if port = k.defaultPort then none else port

theorem explicitPort_eq_some_iff (k : Kind) (port : Option Port) (p : Port) :
    k.explicitPort port = some p ↔ port = some p ∧ k.defaultPort ≠ some p := by
  unfold explicitPort
  split <;> grind

end Kind

end Scheme

end Hyperlink
