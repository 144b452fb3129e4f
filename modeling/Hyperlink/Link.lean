import Hyperlink.Idna
import Hyperlink.Page

/-!
Links between pages whose hosts may be internationalised names.
-/

namespace Hyperlink

/-- Whether two hosts are the same. -/
def Host.same (a b : Text) : Bool := Host.sameBy Idna.toAscii? a b

/-- The link from a page to a target. -/
def Page.link (page : Page) (target : Url) : Logged Text := page.linkBy Idna.toAscii? target

end Hyperlink
