import Hyperlink.Idna.Mapping
import Hyperlink.Idna.Punycode
import Hyperlink.Unicode.BidiClass
import Hyperlink.Unicode.Joining
import Hyperlink.Unicode.Mark
import Hyperlink.Unicode.Normalization

/-!
The labels of an internationalised host name: which ones are allowed, and their ASCII form.
-/

namespace Hyperlink.Idna

/-- Folds a text for comparison: mapped, then normalized. -/
def fold? (s : Text) : Option Text := (map? s).map Unicode.normalized

namespace Label

/-- What a label in ASCII form starts with. -/
def marker : Text := "xn--".toList

/-! ### Reading -/

/-- The text of a folded label. One in ASCII form has to be ASCII throughout, within a limit, and
the form of a folded text that is not itself ASCII. -/
def read? (label : Text) : Option Text :=
  match marker.isPrefixOf? label with
  | none => some label
  | some form => do
    guard (Text.isAscii form && form.getLast?.any fun c => c != '-')
    guard (form.length ≤ 2000)
    let text ← Punycode.decode? form
    guard (!text.contains '.' && fold? text == some text)
    return text

/-! ### Joiners -/

/-- Whether the first character that joining does not pass over satisfies a condition. -/
def meets (condition : Char → Bool) (s : Text) : Bool :=
  (s.dropWhile Unicode.isTransparent).head?.any condition

/-- Every joiner has its context: a virama before it or, for a non-joiner, letters on both sides
that would join. The text read so far comes first, in reverse. -/
def joinersFit (before : Text) : Text → Bool
  | [] => true
  | c :: after =>
    let fits :=
      if c = '\u200C' then
        before.head?.any Unicode.isVirama ||
          (meets Unicode.joinsNext before && meets Unicode.joinsPrevious after)
      else if c = '\u200D' then before.head?.any Unicode.isVirama
      else true
    fits && joinersFit (c :: before) after

/-! ### Direction -/

/-- Whether a character makes its domain bidirectional. -/
def isRightToLeft (c : Char) : Bool :=
  match Unicode.BidiClass.ofChar c with
  | .right | .arabicNumber => true
  | _ => false

/-- The direction rule for the labels of a bidirectional domain. A label goes one way: it starts
with a letter of that direction, holds nothing of the other one, ends (but for marks) in a letter or
number of its own, and has numbers of one kind. -/
def hasDirection (label : Text) : Bool :=
  let classes := label.map Unicode.BidiClass.ofChar
  let last := (classes.reverse.dropWhile fun c => c == .mark).head?
  match classes with
  | [] => true
  | .left :: _ =>
    classes.all (fun c => c == .left || c == .europeanNumber || c == .neutral || c == .mark) &&
      last.any fun c => c == .left || c == .europeanNumber
  | .right :: _ =>
    classes.all (fun c => c != .left && c != .other) &&
      last.any (fun c => c == .right || c == .europeanNumber || c == .arabicNumber) &&
      !(classes.contains .europeanNumber && classes.contains .arabicNumber)
  | _ => false

/-! ### Validity and ASCII form -/

/-- Whether a label may stand in a host name, directions apart. -/
def isValid (label : Text) : Bool :=
  !label.head?.any Unicode.isMark && joinersFit [] label &&
    (Text.isAscii label || label.length ≤ 1000)

/-- The ASCII form of a label. -/
def toAscii (label : Text) : Text :=
  if Text.isAscii label then label else marker ++ Punycode.encode label

end Label

end Hyperlink.Idna
