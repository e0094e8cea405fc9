import Scenarist.Main
import Scenarist.Proofs.Attribute.InRange
import Scenarist.Proofs.Attribute.Written
import Scenarist.Proofs.Chain.Appended
import Scenarist.Proofs.Chain.Canonical
import Scenarist.Proofs.Chain.Depth
import Scenarist.Proofs.Chain.Faithful
import Scenarist.Proofs.Chain.Quotation
import Scenarist.Proofs.Chain.Regular
import Scenarist.Proofs.Chain.Seam
import Scenarist.Proofs.Chain.Written
import Scenarist.Proofs.Decimal.Reading
import Scenarist.Proofs.Draft.Debug
import Scenarist.Proofs.Draft.Header
import Scenarist.Proofs.Draft.Lifecycle
import Scenarist.Proofs.Draft.Reread
import Scenarist.Proofs.Draft.Run
import Scenarist.Proofs.Draft.Secrets
import Scenarist.Proofs.Draft.Transcript
import Scenarist.Proofs.Draft.Valid
import Scenarist.Proofs.Json.Quoted
import Scenarist.Proofs.Recording.Signals
import Scenarist.Proofs.Recording.Stable
import Scenarist.Proofs.Scenario.Reread
import Scenarist.Proofs.Scenario.Rows
import Scenarist.Proofs.Scenario.Validity
import Scenarist.Proofs.Selector.Base
import Scenarist.Proofs.Selector.Conditions
import Scenarist.Proofs.Selector.Contained
import Scenarist.Proofs.Selector.Formed
import Scenarist.Proofs.Selector.Frame
import Scenarist.Proofs.Selector.Literal
import Scenarist.Proofs.Selector.QueryRead
import Scenarist.Proofs.Selector.Quoted
import Scenarist.Proofs.Selector.Reported
import Scenarist.Proofs.Selector.SecretWords
import Scenarist.Proofs.Selector.Specifier
import Scenarist.Proofs.Selector.WholeText
import Scenarist.Proofs.Step.Complete
import Scenarist.Proofs.Step.Mask
import Scenarist.Proofs.Step.Recorded
import Scenarist.Proofs.Step.Redacted
import Scenarist.Proofs.Step.Stripped
import Scenarist.Proofs.Text.Digits
import Scenarist.Proofs.Text.Pieces
import Scenarist.Proofs.Url.Host
import Scenarist.Proofs.Url.HostReread
import Scenarist.Proofs.Url.Ipv6
import Scenarist.Proofs.Url.Origin
import Scenarist.Proofs.Url.Relative
import Scenarist.Proofs.Url.Reread
import Scenarist.Proofs.Url.Settled
import Scenarist.Proofs.Yaml.Defaults
import Scenarist.Proofs.Yaml.Indented
import Scenarist.Proofs.Yaml.Survival
