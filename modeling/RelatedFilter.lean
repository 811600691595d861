import RelatedFilter.CommandLine.Run
import RelatedFilter.Main
import RelatedFilter.Proofs.Query.Selection
import RelatedFilter.Proofs.Registry.History
import RelatedFilter.Proofs.Specification.FreeKey
import RelatedFilter.Relationship.Name
import RelatedFilter.Proofs.Specification.Normal
import RelatedFilter.Proofs.Query.Inert
import RelatedFilter.Proofs.Query.Check
import RelatedFilter.Proofs.CommandLine.Strict
import RelatedFilter.Proofs.Registry.Listing
import RelatedFilter.Proofs.Registry.Lookup
import RelatedFilter.Proofs.Query.Growth
import RelatedFilter.Proofs.Registry.Loading
import RelatedFilter.Proofs.Specification.Spelling
import RelatedFilter.Proofs.Settings.Layers
import RelatedFilter.Proofs.CommandLine.Layers
import RelatedFilter.Proofs.Query.Scope
import RelatedFilter.Proofs.Sql.Integer
import RelatedFilter.Proofs.Sql.Quoted
import RelatedFilter.Proofs.Settings.Merging
import RelatedFilter.Proofs.Specification.Search
import RelatedFilter.Proofs.Environment.Entries
import RelatedFilter.Proofs.Json.Texts
