import Shapewright.Command.Run
import Shapewright.Diagnostics.Format
import Shapewright.Document.Printer
import Shapewright.Main
import Shapewright.Proofs.Command.Level
import Shapewright.Proofs.Command.Render
import Shapewright.Proofs.Document.Exact
import Shapewright.Proofs.Document.Faults
import Shapewright.Proofs.Document.RoundTrip
import Shapewright.Proofs.Identifier.Segments
import Shapewright.Proofs.Layout.History
import Shapewright.Proofs.Plan.FirstServed
import Shapewright.Proofs.Registry.Run
import Shapewright.Proofs.Registry.Search
import Shapewright.Proofs.Settings.Checks
import Shapewright.Proofs.Settings.Loading
import Shapewright.Proofs.Settings.Written
import Shapewright.Proofs.Shape.Key
import Shapewright.Proofs.Shape.Unions
import Shapewright.Proofs.Source.Closed
import Shapewright.Proofs.Source.Escapes
import Shapewright.Proofs.Source.Formatting
import Shapewright.Proofs.Source.Hiding
import Shapewright.Proofs.Source.Members
import Shapewright.Proofs.Source.Notation
import Shapewright.Proofs.Source.Nullable
import Shapewright.Proofs.Source.Unused
import Shapewright.Proofs.Toml.Stripped
import Shapewright.Registry.Session
