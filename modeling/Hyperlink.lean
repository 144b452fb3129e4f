import Hyperlink.Json.Decode
import Hyperlink.Json.Parse
import Hyperlink.Link
import Hyperlink.Proofs.LinkBack
import Hyperlink.Proofs.LinkOrigin
import Hyperlink.Proofs.Mounted
import Hyperlink.Proofs.OnMount
import Hyperlink.Proofs.Resolution
import Hyperlink.Proofs.WellFormed
import Hyperlink.Proofs.ReadBack
import Hyperlink.Proofs.ServerPath
import Hyperlink.Proofs.ContextRelative
import Hyperlink.Proofs.Spelling
import Hyperlink.Proofs.Unchecked
import Hyperlink.Proofs.Trail
import Hyperlink.Proofs.FullTarget
import Hyperlink.Proofs.Grammar
import Hyperlink.Proofs.Readable
import Hyperlink.Proofs.ContextPage
import Hyperlink.Proofs.BelowMount
import Hyperlink.Proofs.Built
import Hyperlink.Proofs.PlainText
import Hyperlink.Proofs.NormalForm
import Hyperlink.Proofs.Suffix
import Hyperlink.Proofs.EmptyReference
import Hyperlink.Proofs.ContextArgument
import Hyperlink.Proofs.Climb
import Hyperlink.Proofs.MountForms
import Hyperlink.Proofs.Events
import Hyperlink.Proofs.Separators
