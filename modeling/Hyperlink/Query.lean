import Hyperlink.ParseError
import Hyperlink.Percent

/-!
The query of an address: a list of `name=value` parameters, kept as written.

Reading drops empty pairs and writing drops the `=` of an empty value, so `a=&&b` becomes `a&b`.
-/

namespace Hyperlink

/-- A query parameter, name and value still percent-encoded. -/
structure Parameter where
  name : Text
  value : Text
  deriving DecidableEq

namespace Parameter

/-- Characters that stand for themselves in an encoded name or value. Left out is what would end or
split a pair, or what a browser would not leave alone in a query. -/
def isPlain (c : Char) : Bool :=
  0x20 < c.toNat && c.toNat < 0x7F && !"\"#%&'+<=>?".toList.contains c

/-- The parameter for a plain name and value. -/
def ofPlain (name value : Text) : Parameter :=
  ⟨Percent.encode isPlain name, Percent.encode isPlain value⟩

/-- Plain text from encoded text; a `+` stands for a space. -/
def decode (s : Text) : Except ParseError Text :=
  match Percent.decode? (s.map fun c => if c = '+' then ' ' else c) with
  | some plain => .ok plain
  | none => .error .percentEncoding

/-- The name in plain text. -/
def plainName (p : Parameter) : Except ParseError Text := decode p.name

/-- The value in plain text. -/
def plainValue (p : Parameter) : Except ParseError Text := decode p.value

/-- The parameter as written in a query: an empty value leaves the bare name. -/
def print (p : Parameter) : Text :=
  if p.value = [] then p.name else p.name ++ '=' :: p.value

/-- The parameter a pair spells: the name ends at the first `=`. -/
def ofPair (pair : Text) : Parameter := ⟨(pair.cut '=').1, (pair.cut '=').2.getD []⟩

end Parameter

/-- A query is the list of its parameters, in order. -/
abbrev Query := List Parameter

namespace Query

/-- The parameters of a query text (without its `?`). -/
def ofText (s : Text) : Query :=
  ((s.splitOn '&').filter fun pair => !pair.isEmpty).map Parameter.ofPair

/-- The query text (without its `?`): an `&` stands before every parameter but the first. -/
def print (q : Query) : Text :=
  q.zipIdx.foldl
    (fun written (p, i) => (if 0 < i then written ++ ['&'] else written) ++ p.print) []

/-- The raw value of the first parameter of that name. -/
def find? (q : Query) (name : Text) : Option Text :=
  (List.find? (fun p => p.name == name) q).map Parameter.value

end Query

end Hyperlink
