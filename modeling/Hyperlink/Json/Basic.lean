import Hyperlink.Binary64

/-!
JSON values.
-/

namespace Hyperlink

/-- A JSON value. The fields of an object stand in the order they were written. -/
inductive Json where
  | null
  | bool (b : Bool)
  | integer (n : Int)
  | float (x : Binary64)
  | string (s : Text)
  | array (items : List Json)
  | object (fields : List (Text × Json))

namespace Json

/-- The field of that name; of several, the last. -/
def field? (fields : List (Text × Json)) (name : Text) : Option Json :=
  (fields.reverse.find? fun field => field.1 == name).map (·.2)

end Json

end Hyperlink
