import SearchNotation.Main
import SearchNotation.Proofs.Dict
import SearchNotation.Proofs.Logged
import SearchNotation.Proofs.Query.Clauses
import SearchNotation.Proofs.Query.Conservation
import SearchNotation.Proofs.Query.Correspondence
import SearchNotation.Proofs.Query.Options
import SearchNotation.Proofs.Query.RangeSpelling
import SearchNotation.Proofs.Query.Resolve
import SearchNotation.Proofs.Query.Visits
import SearchNotation.Proofs.Query.WriteBack
import SearchNotation.Proofs.Registry.Lookup
import SearchNotation.Registry.Builder
import SearchNotation.Request.SortOrderReader
import SearchNotation.Terminal.Style
import SearchNotation.Proofs.Notation.Grammar
import SearchNotation.Proofs.Aggregation.Levels
import SearchNotation.Proofs.Query.Failure
import SearchNotation.Proofs.Aggregation.Siblings
import SearchNotation.Proofs.Aggregation.WriteBack
import SearchNotation.Proofs.Aggregation.Embedded
import SearchNotation.Proofs.Query.NormalForm
import SearchNotation.Proofs.Query.Spelling
import SearchNotation.Proofs.Query.Disabling
import SearchNotation.Proofs.Aggregation.Erasure
import SearchNotation.Proofs.Registry.Acceptance
import SearchNotation.Proofs.Files.Path
import SearchNotation.Proofs.Config.Discovery
import SearchNotation.Proofs.Config.Precedence
import SearchNotation.Proofs.Query.Rendering
import SearchNotation.Proofs.Files.Disk
import SearchNotation.Proofs.Config.NewFile
import SearchNotation.Proofs.Decimal.Digits
import SearchNotation.Proofs.Json.RoundTrip
import SearchNotation.Proofs.Notation.Text
import SearchNotation.Proofs.Toml.Strings
import SearchNotation.Proofs.Toml.Lines
import SearchNotation.Proofs.Config.RoundTrip
import SearchNotation.Proofs.Request.History
import SearchNotation.Proofs.Notation.Bag
import SearchNotation.Proofs.Query.Construction
import SearchNotation.Proofs.Query.Target
import SearchNotation.Proofs.Query.Parameters
import SearchNotation.Proofs.Query.Shapes
import SearchNotation.Proofs.Query.RangeArguments
import SearchNotation.Proofs.Query.FirstFailure
import SearchNotation.Proofs.Aggregation.Constructors
import SearchNotation.Proofs.Aggregation.Blame
import SearchNotation.Proofs.Aggregation.Parameters
import SearchNotation.Proofs.Aggregation.Grouping
import SearchNotation.Proofs.Registry.Warnings
import SearchNotation.Proofs.Request.SortKey
import SearchNotation.Proofs.Request.Overrides
import SearchNotation.Proofs.Config.Merging
import SearchNotation.Proofs.Config.ShownSettings
import SearchNotation.Proofs.Command.Effects
import SearchNotation.Proofs.Registry.Outlines
import SearchNotation.Proofs.Query.BuilderName
import SearchNotation.Proofs.Query.Faults
import SearchNotation.Proofs.Aggregation.Faults
