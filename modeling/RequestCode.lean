import RequestCode.Assembly
import RequestCode.Config.Write
import RequestCode.Main
import RequestCode.Panel.Record
import RequestCode.Proofs.Archive.MimeType
import RequestCode.Proofs.Archive.Output
import RequestCode.Proofs.Archive.Replay
import RequestCode.Proofs.Assembly.Installed
import RequestCode.Proofs.Bundle.Rendering
import RequestCode.Proofs.Bundle.Resource
import RequestCode.Proofs.CFamily.Clients
import RequestCode.Proofs.Catalog.Relevance
import RequestCode.Proofs.Command.Checks
import RequestCode.Proofs.Config.RoundTrip
import RequestCode.Proofs.Generator.Agreement
import RequestCode.Proofs.Generator.Index
import RequestCode.Proofs.Generator.Sources
import RequestCode.Proofs.Highlighting.History
import RequestCode.Proofs.Http.Fields
import RequestCode.Proofs.Literal.Clients
import RequestCode.Proofs.MapLiteral.Clients
import RequestCode.Proofs.Outgoing.Location
import RequestCode.Proofs.Outgoing.Octets
import RequestCode.Proofs.Outgoing.Override
import RequestCode.Proofs.Panel.Container
import RequestCode.Proofs.Panel.Styling
import RequestCode.Proofs.PowerShell.Snippets
import RequestCode.Proofs.Script.Clients
import RequestCode.Proofs.Shell.Snippets
import RequestCode.Proofs.Spliced.Method
import RequestCode.Proofs.Target.Completion
