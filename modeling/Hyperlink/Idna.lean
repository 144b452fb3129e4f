import Hyperlink.Idna.Label

/-!
The ASCII form of an internationalised host name.

The name is folded, cut at its dots, and each label is checked and written in ASCII. Folding starts
by making ASCII letters small, so the form does not depend on their case (`toAscii?_lower`).
-/

namespace Hyperlink.Idna

/-- The labels of a host name, if they are allowed. -/
def labels? (host : Text) : Option (List Text) := do
  let labels ← ((← fold? host).splitOn '.').mapM Label.read?
  guard (labels.all Label.isValid)
  guard (!labels.any (·.any Label.isRightToLeft) || labels.all Label.hasDirection)
  return labels

/-- The ASCII form of a host name, if it has one. -/
def toAscii? (host : Text) : Option Text :=
  (labels? host).map fun labels => ['.'].intercalate (labels.map Label.toAscii)

/-- Hosts that differ in the case of ASCII letters have one ASCII form. -/
theorem toAscii?_lower (host : Text) : toAscii? host.lower = toAscii? host := by
  rw [toAscii?, toAscii?, labels?, labels?, fold?, fold?, map?_lower]

end Hyperlink.Idna
