import Hyperlink.Text

/-!
Whether two hosts are the same one.

ASCII hosts are compared by their letters. A host with other characters is compared by the ASCII
form that `toAscii` gives it; a host without one is the same only as itself.
-/

namespace Hyperlink.Host

/-- The form hosts are compared in: an ASCII host in small letters, any other by `toAscii`. -/
def comparable (toAscii : Text → Option Text) (host : Text) : Option Text :=
  if host.isAscii then some host.lower else toAscii host

/-- Whether two hosts are the same, given the ASCII form of the others. -/
def sameBy (toAscii : Text → Option Text) (a b : Text) : Bool :=
  if a.sameLetters b then true
  else if a.isAscii && b.isAscii then false
  else
    match comparable toAscii a, comparable toAscii b with
    | some a, some b => a == b
    | _, _ => false

end Hyperlink.Host
