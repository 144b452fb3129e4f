import Hyperlink.ParseError
import Hyperlink.Scheme

/-!
The authority of an address: a host and perhaps a port.

A host is a name of any characters but delimiters and blanks, or an IPv6 literal in brackets. There
is no place for credentials.
-/

namespace Hyperlink

namespace Host

/-- Characters that no unbracketed host may have. -/
def isForbidden (c : Char) : Bool := c ≤ ' ' || c == '\x7F' || "/?#@\\<>^|[]".toList.contains c

/-- Characters that may stand between the brackets of an IPv6 literal. -/
def isLiteralChar (c : Char) : Bool :=
  c.isDigit || ('a' ≤ c && c ≤ 'f') || ('A' ≤ c && c ≤ 'F') || c == ':' || c == '.'

/-- The text between the brackets of a bracketed host. -/
def bracketed? : Text → Option Text
  | '[' :: rest => if rest.getLast? = some ']' then some rest.dropLast else none
  | _ => none

/-- Whether the text can stand as a host. -/
def isValid (host : Text) : Bool :=
  match bracketed? host with
  | some inner => !inner.isEmpty && inner.all isLiteralChar
  | none => !host.isEmpty && host.all fun c => !isForbidden c

end Host

namespace Port

/-- A port is written in decimal digits, leading zeros allowed. -/
def ofText? (s : Text) : Option Port :=
  if s ≠ [] ∧ s.all Char.isDigit then
    let n := Nat.ofDigitChars 10 s 0
    if h : n < 65536 then some ⟨n, h⟩ else none
  else none

/-- The decimal digits of a port. -/
def print (p : Port) : Text := Nat.toDigits 10 p.val

theorem ofText?_print (p : Port) : ofText? (print p) = some p := by
  have hd : (Nat.toDigits 10 p.val).all Char.isDigit = true :=
    List.all_eq_true.2 fun _ hc => Nat.isDigit_of_mem_toDigits (by decide) (by decide) hc
  simp [ofText?, print, hd, Nat.ofDigitChars_ten_toDigits, p.isLt]

end Port

/-- A host and perhaps a port. -/
structure Authority where
  host : Text
  port : Option Port
  deriving DecidableEq

namespace Authority

/-- The host and the text of the port. A bracketed host ends at its bracket, another one at the last
colon. -/
def split : Text → Except ParseError (Text × Option Text)
  | '[' :: rest =>
    match Text.cut ']' rest with
    | (_, none) => .error .ipv6
    | (inner, some []) => .ok ('[' :: inner ++ [']'], none)
    | (inner, some (':' :: port)) => .ok ('[' :: inner ++ [']'], some port)
    | (_, some _) => .error .host
  | s =>
    match Text.cutLast? ':' s with
    | some (host, port) => .ok (host, some port)
    | none => .ok (s, none)

/-- The port in its text; `host:` is a host without a port. -/
def readPort : Option Text → Except ParseError (Option Port)
  | none | some [] => .ok none
  | some digits =>
    match Port.ofText? digits with
    | some port => .ok (some port)
    | none => .error .port

/-- Reads the text between `//` and the path. -/
def parse (s : Text) : Except ParseError Authority :=
  if s.contains '@' then .error .host
  else do
    let (host, port) ← split s
    if Host.isValid host then
      return ⟨host, ← readPort port⟩
    else
      throw (if host.head? = some '[' then .ipv6 else .host)

end Authority

end Hyperlink
