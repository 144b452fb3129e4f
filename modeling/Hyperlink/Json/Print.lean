import Hyperlink.Json.Basic

/-!
Writing JSON text.
-/

namespace Hyperlink.Json

/-- A character inside a string. Quotes, backslashes and controls are escaped. -/
def escapeChar (c : Char) : Text :=
  if c = '"' then ['\\', '"']
  else if c = '\\' then ['\\', '\\']
  else if c < ' ' then
    "\\u00".toList ++ [Nat.digitChar (c.toNat / 16), Nat.digitChar (c.toNat % 16)]
  else [c]

/-- A string with its quotes. -/
def quote (s : Text) : Text := '"' :: s.flatMap escapeChar ++ ['"']

/-- An integer in decimal digits. -/
def printInt (n : Int) : Text := (if n < 0 then ['-'] else []) ++ Nat.toDigits 10 n.natAbs

mutual

/-- The text of a value, without blanks. -/
def print : Json → Text
  | .null => "null".toList
  | .bool true => "true".toList
  | .bool false => "false".toList
  | .integer n => printInt n
  | .float x => x.print
  | .string s => quote s
  | .array [] => "[]".toList
  | .array (item :: items) => '[' :: item.print ++ printItems items
  | .object [] => ['\x7b', '\x7d']
  | .object ((name, value) :: fields) =>
    '\x7b' :: quote name ++ ':' :: value.print ++ printFields fields

/-- The items after the first, and the end of the array. -/
def printItems : List Json → Text
  | [] => [']']
  | item :: items => ',' :: item.print ++ printItems items

/-- The fields after the first, and the end of the object. -/
def printFields : List (Text × Json) → Text
  | [] => ['\x7d']
  | (name, value) :: fields => ',' :: quote name ++ ':' :: value.print ++ printFields fields

end

end Hyperlink.Json
