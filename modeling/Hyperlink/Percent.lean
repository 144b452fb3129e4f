import Hyperlink.Text

/-!
Percent-encoded text: a character that may not stand for itself is written as the octets of its
UTF-8 form, each as `%` and two upper-case hexadecimal digits.

Reading is lenient about `%` (one that no two digits follow stands for itself) and strict about the
octets, which have to be UTF-8.
-/

namespace Hyperlink.Percent

/-- The value of a hexadecimal digit, in either case. -/
def hexValue? (c : Char) : Option Nat :=
  if '0' ≤ c ∧ c ≤ '9' then some (c.toNat - '0'.toNat)
  else if 'A' ≤ c ∧ c ≤ 'F' then some (c.toNat - 'A'.toNat + 10)
  else if 'a' ≤ c ∧ c ≤ 'f' then some (c.toNat - 'a'.toNat + 10)
  else none

/-- The upper-case hexadecimal digit for a number below sixteen. -/
def hexDigit (n : Nat) : Char := (Nat.digitChar n).toUpper

/-- One octet, escaped. -/
def escape (octet : UInt8) : Text :=
  ['%', hexDigit (octet.toNat / 16), hexDigit (octet.toNat % 16)]

/-- The text with every character that `keeps` refuses escaped. -/
def encode (keeps : Char → Bool) (s : Text) : Text :=
  s.flatMap fun c => if keeps c then [c] else (String.utf8EncodeChar c).flatMap escape

/-- The octets a percent-encoded text stands for. -/
def octets : Text → List UInt8
  | '%' :: h :: l :: rest =>
    match hexValue? h, hexValue? l with
    | some high, some low => UInt8.ofNat (16 * high + low) :: octets rest
    | _, _ => String.utf8EncodeChar '%' ++ octets (h :: l :: rest)
  | c :: rest => String.utf8EncodeChar c ++ octets rest
  | [] => []

/-- The text whose UTF-8 form the octets are, if they are one. -/
def decode? (s : Text) : Option Text := ((octets s).toByteArray.utf8Decode?).map Array.toList

end Hyperlink.Percent
