import Hyperlink.Json.Print
import Hyperlink.Mount
import Hyperlink.Quoted
import Hyperlink.Url.Parse

/-!
The JSON forms of addresses and mount points.

An address is its text. A mount point is an object with its two paths as text, or an array of them;
what is missing is empty.
-/

namespace Hyperlink

/-- What a JSON value was expected to be. -/
inductive Json.Expected where
  | text | mount

/-- Why a JSON value is no address or no mount point. -/
inductive Json.DecodeError where
  /-- The text is no address. -/
  | malformed (cause : ParseError)
  /-- The value is of another type. -/
  | mismatch (found : Json) (expected : Json.Expected)
  /-- The array has more than two items. -/
  | tooLong (length : Nat)

namespace Json

/-- A value as messages call it. -/
def describe : Json → Text
  | .null => "null".toList
  | .bool true => "boolean `true`".toList
  | .bool false => "boolean `false`".toList
  | .integer n => "integer `".toList ++ printInt n ++ ['\x60']
  | .float x => "floating point `".toList ++ x.print ++ ['\x60']
  | .string s => "string ".toList ++ Quoted.encode s
  | .array _ => "sequence".toList
  | .object _ => "map".toList

/-- An expectation as messages call it. -/
def Expected.describe : Expected → Text
  | .text => "a string".toList
  | .mount => "struct DeploymentConfig".toList

/-- The wording of a fault. -/
def DecodeError.message : DecodeError → Text
  | .malformed cause => cause.message.toList
  | .mismatch found expected =>
    "invalid type: ".toList ++ found.describe ++ ", expected ".toList ++ expected.describe
  | .tooLong length =>
    "invalid length ".toList ++ Nat.toDigits 10 length ++
      ", expected fewer elements in array".toList

/-- The text of a value that has to be a string. -/
def text : Json → Except DecodeError Text
  | .string s => .ok s
  | found => .error (.mismatch found .text)

/-- The text of a value that may be missing. -/
def optionalText (value : Option Json) : Except DecodeError Text :=
  match value with
  | some value => value.text
  | none => .ok []

end Json

namespace Url

/-- The JSON form of an address. -/
def toJson (u : Url) : Json := .string u.print

/-- The address that a JSON value spells. -/
def ofJson (value : Json) : Except Json.DecodeError Url := do
  (parse (← value.text)).mapError .malformed

end Url

namespace Mount

/-- The names of the two fields. -/
def contextField : Text := "context_path".toList

/-- The name of the field for the filter path. -/
def filterField : Text := "filter_path".toList

/-- The JSON form of a mount point. -/
def toJson (m : Mount) : Json :=
  .object [(contextField, .string (pathText m.context)), (filterField, .string (pathText m.filter))]

/-- The mount point for two values, either of which may be missing. -/
def ofValues (context filter : Option Json) : Except Json.DecodeError Mount := do
  return ofTexts (← Json.optionalText context) (← Json.optionalText filter)

/-- The mount point that a JSON value spells. Other fields of an object do not count. -/
def ofJson : Json → Except Json.DecodeError Mount
  | .object fields => ofValues (Json.field? fields contextField) (Json.field? fields filterField)
  | .array items => do
    let mount ← ofValues items[0]? items[1]?
    if items.length ≤ 2 then return mount else throw (.tooLong items.length)
  | found => .error (.mismatch found .mount)

end Mount

end Hyperlink
