import Imprint.Main
import Imprint.Text.CaseFolding
import Imprint.Manifest.Printer
import Imprint.Storage.Memory
import Imprint.Proofs.Except
import Imprint.Proofs.Literal.RoundTrip
import Imprint.Proofs.Token.Literal
import Imprint.Proofs.Token.Identifier
import Imprint.Proofs.Consistency.Validation
import Imprint.Proofs.Template.Built
import Imprint.Proofs.Template.Names
import Imprint.Proofs.Template.Skeleton
import Imprint.Proofs.Rendering.Frame
import Imprint.Proofs.Naming.Spellings
import Imprint.Proofs.Rendering.Builtin
import Imprint.Proofs.Rendering.Independence
import Imprint.Proofs.Rendering.Recovery
import Imprint.Proofs.Rendering.Drift
import Imprint.Proofs.Rendering.Document
import Imprint.Proofs.Json.Exact
import Imprint.Proofs.Storage.Path
import Imprint.Proofs.Stamp.Outcome
import Imprint.Proofs.Stamp.Pair
import Imprint.Proofs.Stamp.Batch
import Imprint.Proofs.Stamp.Preservation
import Imprint.Proofs.Stamp.ReadBack
import Imprint.Proofs.Record.Members
import Imprint.Proofs.Record.Import
import Imprint.Proofs.Template.Selector
import Imprint.Proofs.Catalog.History
import Imprint.Proofs.Storage.Order
import Imprint.Proofs.Storage.Parent
import Imprint.Proofs.Catalog.Selection
import Imprint.Proofs.Stamp.Selection
import Imprint.Proofs.Template.Usable
import Imprint.Proofs.Token.Comment
import Imprint.Proofs.Token.ForeignLiteral
import Imprint.Proofs.Token.Span
import Imprint.Proofs.Literal.LineEnd
import Imprint.Proofs.Template.Source
import Imprint.Proofs.Naming.Words
import Imprint.Proofs.Naming.Collision
import Imprint.Proofs.Naming.Pieces
import Imprint.Proofs.Record.Priority
import Imprint.Proofs.Record.Marks
import Imprint.Proofs.Record.Version
import Imprint.Proofs.Time.Timestamp
import Imprint.Proofs.Catalog.Directory
import Imprint.Proofs.Storage.History
import Imprint.Proofs.Stamp.Placement
import Imprint.Proofs.Record.Descriptor
import Imprint.Proofs.Catalog.Listing
import Imprint.Proofs.Settings.Override
