import SqlTemplate.Catalog.Basic
import SqlTemplate.Main
import SqlTemplate.Proofs.Placeholder.Recognition
import SqlTemplate.Report.Assembly
import SqlTemplate.Resolution.Standalone
import SqlTemplate.Resolution.TermBuilder
import SqlTemplate.Statement.Printer
import SqlTemplate.Proofs.Resolution.Outcome
import SqlTemplate.Proofs.Resolution.Placement
import SqlTemplate.Proofs.Resolution.Reading
import SqlTemplate.Proofs.Resolution.Failure
import SqlTemplate.Proofs.Resolution.Shape
import SqlTemplate.Proofs.Resolution.Marking
import SqlTemplate.Proofs.Statement.Heading
import SqlTemplate.Proofs.Statement.Outline
import SqlTemplate.Proofs.Statement.RoundTrip
import SqlTemplate.Proofs.Registry.Loading
import SqlTemplate.Proofs.Registry.Progress
import SqlTemplate.Proofs.Registry.Calls
import SqlTemplate.Proofs.Registry.Fetching
import SqlTemplate.Proofs.Registry.Resumption
import SqlTemplate.Proofs.Registry.Consistency
import SqlTemplate.Proofs.Registry.Reloading
import SqlTemplate.Proofs.Registry.Scopes
import SqlTemplate.Proofs.Registry.TakenNames
import SqlTemplate.Proofs.Query.Calls
import SqlTemplate.Proofs.Catalog.DottedName
import SqlTemplate.Proofs.Catalog.Lookup
import SqlTemplate.Proofs.Catalog.Calls
import SqlTemplate.Proofs.Catalog.Loading
import SqlTemplate.Proofs.Catalog.Nesting
import SqlTemplate.Proofs.Catalog.Objects
import SqlTemplate.Proofs.Catalog.Identity
import SqlTemplate.Proofs.Catalog.Refusal
import SqlTemplate.Proofs.Catalog.Replacement
import SqlTemplate.Proofs.Adapter.Drivers
import SqlTemplate.Proofs.Resolution.Pruning
import SqlTemplate.Proofs.Resolution.Vanishing
import SqlTemplate.Proofs.Resolution.TermForms
import SqlTemplate.Proofs.Statement.Gap
import SqlTemplate.Proofs.Statement.Partition
import SqlTemplate.Proofs.Statement.Conservation
import SqlTemplate.Proofs.Statement.LineNumbers
import SqlTemplate.Proofs.Statement.HeadingLines
import SqlTemplate.Proofs.Resolution.Observation
import SqlTemplate.Proofs.Adapter.Counts
import SqlTemplate.Proofs.Registry.Spellings
import SqlTemplate.Proofs.Resolution.Spans
