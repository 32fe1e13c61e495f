import UrlRouting.Dispatcher
import UrlRouting.Entry
import UrlRouting.Event
import UrlRouting.Parameters
import UrlRouting.Policy
import UrlRouting.Policy.Document
import UrlRouting.Presentation
import UrlRouting.Request
import UrlRouting.Router
import UrlRouting.Router.Resolve
import UrlRouting.Router.Trail
import UrlRouting.RoutingError
import UrlRouting.Template
import UrlRouting.Template.Part
import UrlRouting.Text.Cut
import UrlRouting.Text.Printable
import UrlRouting.Text.Quoted
import UrlRouting.Toml.Digit
import UrlRouting.Toml.Document
import UrlRouting.Toml.Layout
import UrlRouting.Toml.Moment
import UrlRouting.Toml.Number
import UrlRouting.Toml.Reader
import UrlRouting.Toml.Statement
import UrlRouting.Toml.Table
import UrlRouting.Toml.Text
import UrlRouting.Toml.Value
import UrlRouting.Url.Path
import UrlRouting.Url.Percent
import UrlRouting.Url.Query
import UrlRouting.Url.Scheme
import UrlRouting.Value
import UrlRouting.Workspace
import UrlRouting.Proofs.Segments
import UrlRouting.Proofs.Layers
import UrlRouting.Proofs.Selection
import UrlRouting.Proofs.Inlining
import UrlRouting.Proofs.Mounting
import UrlRouting.Proofs.Filling
import UrlRouting.Proofs.Shadowing
import UrlRouting.Proofs.Reordering
import UrlRouting.Proofs.PathOnly
import UrlRouting.Proofs.Instances
import UrlRouting.Proofs.Encoding
import UrlRouting.Proofs.Sessions
import UrlRouting.Proofs.Delegations
import UrlRouting.Proofs.Log
import UrlRouting.Proofs.Schemes
import UrlRouting.Proofs.Additions
import UrlRouting.Proofs.Pruning
import UrlRouting.Proofs.ForeignUrls
import UrlRouting.Proofs.Queries
import UrlRouting.Proofs.Formats
import UrlRouting.Proofs.Identities
import UrlRouting.Proofs.Rebuilding
import UrlRouting.Proofs.Documents
import UrlRouting.Proofs.Policies
import UrlRouting.Proofs.Building
import UrlRouting.Proofs.Visits
import UrlRouting.Proofs.Merging
