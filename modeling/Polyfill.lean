import Polyfill.Exchange.Evaluation
import Polyfill.Exchange.Report
import Polyfill.Exchange.Snapshot
import Polyfill.Generation
import Polyfill.Main
import Polyfill.Options.Collection
import Polyfill.Output
import Polyfill.Proofs.Generation.Caching
import Polyfill.Proofs.Generation.Cancellation
import Polyfill.Proofs.Template.Idempotence
import Polyfill.Template.Directory
import Polyfill.Proofs.Options.Effective
import Polyfill.Proofs.Options.Precedence
import Polyfill.Proofs.Generation.Delivery
import Polyfill.Proofs.Text.Octets
import Polyfill.Proofs.Catalog.Order
import Polyfill.Proofs.Generation.Emission
import Polyfill.Proofs.Files.Path
import Polyfill.Proofs.Files.Tree
import Polyfill.Proofs.Files.Writing
import Polyfill.Proofs.Generation.Naming
import Polyfill.Proofs.Generation.Exclusion
import Polyfill.Proofs.Cache.Sharing
import Polyfill.Proofs.Generation.Attempts
import Polyfill.Proofs.Generation.Determination
import Polyfill.Proofs.Generation.OptionReach
import Polyfill.Proofs.Generation.NameReach
import Polyfill.Proofs.Template.Loading
import Polyfill.Proofs.Generation.CacheSize
import Polyfill.Proofs.Template.Linewise
import Polyfill.Proofs.Text.Verbatim
import Polyfill.Proofs.Template.Clearance
import Polyfill.Proofs.Template.BuiltinLines
import Polyfill.Proofs.Generation.Fitness
import Polyfill.Proofs.Exchange.RoundTrip
import Polyfill.Proofs.Template.Stripping
import Polyfill.Proofs.Template.Insertion
import Polyfill.Proofs.Template.WholeWords
import Polyfill.Proofs.Template.LineEnds
import Polyfill.Proofs.Template.DeclaredType
import Polyfill.Proofs.Catalog.Lookup
import Polyfill.Proofs.Options.Influence
import Polyfill.Proofs.Template.Listing
import Polyfill.Proofs.Template.Faults
import Polyfill.Proofs.Options.Lists
import Polyfill.Proofs.Generation.Reporting
import Polyfill.Proofs.Diagnostic.Substitution
