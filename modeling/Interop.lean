import Interop.Main
import Interop.Printers.Script
import Interop.Template.Stored
import Interop.Text.Line
import Interop.Proofs.Policies
import Interop.Proofs.Passes
import Interop.Proofs.Modularity
import Interop.Proofs.Agreement
import Interop.Proofs.Storing
import Interop.Proofs.Writing
import Interop.Proofs.Layers
import Interop.Proofs.Reading
import Interop.Proofs.Spelling
import Interop.Proofs.RoundTrip
import Interop.Proofs.Reprinting
import Interop.Proofs.Loaded
import Interop.Proofs.References
import Interop.Proofs.Settled
import Interop.Proofs.Composition
import Interop.Proofs.Subscriptions
import Interop.Proofs.Openings
import Interop.Proofs.Containment
import Interop.Proofs.Refusals
import Interop.Proofs.Rerun
import Interop.Proofs.Shapes
import Interop.Proofs.Defects
import Interop.Proofs.ByModule
import Interop.Proofs.Hidden
import Interop.Proofs.Outlines
import Interop.Proofs.Deliveries
import Interop.Proofs.Bindings
import Interop.Proofs.Counterparts
import Interop.Proofs.Headers
import Interop.Proofs.Declared
import Interop.Proofs.Collisions
import Interop.Proofs.Failing
import Interop.Proofs.Validation
import Interop.Proofs.Loading
import Interop.Proofs.Pieces
import Interop.Proofs.Precedence
import Interop.Proofs.Namespaces
import Interop.Proofs.Scopes
import Interop.Proofs.Reporting
import Interop.Proofs.Includes
import Interop.Proofs.Qualifiers
import Interop.Proofs.Snapshots
import Interop.Proofs.ModuleFiles
import Interop.Proofs.Braces
