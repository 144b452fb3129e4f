import Hyperlink.Text
import Hyperlink.Unicode.Printable

/-!
Text quoted in a message, so that every character in it can be told.

Quotes and backslashes take a backslash, common controls have their letters, and a character that
does not show by itself is written by its number.
-/

namespace Hyperlink.Quoted

/-- One character inside quotes. -/
def encodeChar (c : Char) : Text :=
  match c with
  | '\x00' => "\\0".toList
  | '\t' => "\\t".toList
  | '\n' => "\\n".toList
  | '\r' => "\\r".toList
  | '"' => "\\\"".toList
  | '\\' => "\\\\".toList
  | c =>
    if Unicode.isPrintable c then [c]
    else "\\u\x7b".toList ++ Nat.toDigits 16 c.toNat ++ ['\x7d']

/-- A text in quotes. -/
def encode (s : Text) : Text := '"' :: s.flatMap encodeChar ++ ['"']

end Hyperlink.Quoted
