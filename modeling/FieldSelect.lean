import FieldSelect.Cache.Script
import FieldSelect.Command.Outcome
import FieldSelect.Main
import FieldSelect.Proofs.Cache.Slots
import FieldSelect.Proofs.Cache.Bound
import FieldSelect.Proofs.Cache.Faithful
import FieldSelect.Proofs.Cache.Tidy
import FieldSelect.Proofs.Cache.Lru
import FieldSelect.Proofs.Cache.Trace
import FieldSelect.Proofs.Cache.Nesting
import FieldSelect.Proofs.Projection.Lockstep
import FieldSelect.Proofs.Projection.Simulation
import FieldSelect.Proofs.Projection.Leniency
import FieldSelect.Proofs.Engine.History
import FieldSelect.Proofs.Frontier
import FieldSelect.Proofs.Projection.Parallel
import FieldSelect.Proofs.Projection.Levels
import FieldSelect.Proofs.Projection.Confidentiality
import FieldSelect.Proofs.Filter.Scanning
import FieldSelect.Proofs.Filter.Bare
import FieldSelect.Proofs.Filter.Merging
import FieldSelect.Proofs.Filter.WellFormed
import FieldSelect.Proofs.Filter.Regrouping
import FieldSelect.Proofs.Filter.Yielding
import FieldSelect.Proofs.Filter.Carrying
import FieldSelect.Proofs.Filter.Listing
import FieldSelect.Proofs.Filter.Stages
import FieldSelect.Proofs.Filter.Reading
import FieldSelect.Proofs.Filter.Dropping
import FieldSelect.Proofs.Filter.Spelling
import FieldSelect.Proofs.Filter.Siblings
import FieldSelect.Proofs.Filter.Grammar
import FieldSelect.Proofs.Filter.Deriving
import FieldSelect.Proofs.Filter.Accepting
import FieldSelect.Proofs.Filter.Lettering
import FieldSelect.Proofs.Filter.Writing
import FieldSelect.Proofs.Filter.Rereading
import FieldSelect.Proofs.Projection.Pruning
import FieldSelect.Proofs.Projection.Places
import FieldSelect.Proofs.Projection.IncludeAll
import FieldSelect.Proofs.Projection.Negation
import FieldSelect.Proofs.Projection.Siblings
import FieldSelect.Proofs.Projection.Exclusion
import FieldSelect.Proofs.Yields
import FieldSelect.Proofs.Decimal.Finite
import FieldSelect.Proofs.Json.Proper
import FieldSelect.Proofs.Value.Narrowing
import FieldSelect.Proofs.Command.Everything
import FieldSelect.Proofs.Projection.Reordering
import FieldSelect.Proofs.Projection.NamedView
import FieldSelect.Proofs.Projection.Overlaying
import FieldSelect.Proofs.Engine.Shortcut
import FieldSelect.Proofs.Schema.Freshness
import FieldSelect.Proofs.Schema.Views
import FieldSelect.Proofs.Trail
import FieldSelect.Proofs.Cache.Printing
import FieldSelect.Proofs.Filter.Calling
import FieldSelect.Proofs.Function.Freeing
import FieldSelect.Proofs.Precedence
import FieldSelect.Proofs.Function.BestFit
import FieldSelect.Proofs.Function.Registration
import FieldSelect.Proofs.Projection.Freeing
import FieldSelect.Proofs.Filter.Naming
import FieldSelect.Proofs.Function.Answering
import FieldSelect.Proofs.Regex.Spots
import FieldSelect.Proofs.Regex.Spans
import FieldSelect.Proofs.Filter.Globbing
import FieldSelect.Proofs.Regex.Reading
import FieldSelect.Proofs.Regex.Enclosing.Escapes
import FieldSelect.Proofs.Regex.Enclosing.Classes
import FieldSelect.Proofs.Regex.Enclosing.Groups
import FieldSelect.Proofs.Filter.Anchoring
import FieldSelect.Proofs.Filter.Padding
import FieldSelect.Proofs.Filter.Locating
import FieldSelect.Proofs.Filter.Dotting
import FieldSelect.Proofs.Filter.Quoting
import FieldSelect.Proofs.Filter.Arguments
import FieldSelect.Proofs.Filter.Numerals
import FieldSelect.Proofs.Filter.Bounding
import FieldSelect.Proofs.Projection.Truncating
import FieldSelect.Proofs.Engine.Vetting
import FieldSelect.Proofs.Cache.Reading
import FieldSelect.Proofs.Value.Normalizing
import FieldSelect.Proofs.Resolving
import FieldSelect.Proofs.Function.Cutting
import FieldSelect.Proofs.Decimal.Ordering
import FieldSelect.Proofs.Function.Comparing
import FieldSelect.Proofs.Filter.Interchanging
import FieldSelect.Proofs.Filter.Sourcing
import FieldSelect.Proofs.Filter.Descending
