import CatalogIndex.Cluster.Endpoint
import CatalogIndex.Config.Yaml
import CatalogIndex.Indexer.Admin
import CatalogIndex.Indexer.Reads
import CatalogIndex.Indexer.Writes
import CatalogIndex.Proofs.Keyed
import CatalogIndex.Proofs.Script.Effect
import CatalogIndex.Proofs.Document.Build
import CatalogIndex.Proofs.Document.Coverage
import CatalogIndex.Proofs.Document.Patch
import CatalogIndex.Proofs.Cascade.Planned
import CatalogIndex.Proofs.Indexer.Isolation
import CatalogIndex.Proofs.Cascade.Store
import CatalogIndex.Proofs.Cascade.DomainRemoval
import CatalogIndex.Proofs.Cascade.RenameOrder
import CatalogIndex.Proofs.Name.Segments
import CatalogIndex.Proofs.Cluster.Rename
import CatalogIndex.Proofs.Indexer.SubtreeDeletion
import CatalogIndex.Proofs.Lineage.Ancestors
import CatalogIndex.Proofs.Lineage.Descendants
import CatalogIndex.Proofs.Indexer.IndexCreation
import CatalogIndex.Proofs.Cascade.Reach
import CatalogIndex.Proofs.Index.Names
import CatalogIndex.Proofs.Cluster.Sends
import CatalogIndex.Proofs.Cluster.Tenancy
import CatalogIndex.Proofs.Indexer.Accounting
import CatalogIndex.Proofs.Cascade.Destination
import CatalogIndex.Proofs.Indexer.Tenancy
import CatalogIndex.Proofs.Lineage.Histories
import CatalogIndex.Proofs.Lineage.WellFormed
import CatalogIndex.Proofs.Lineage.Scope
import CatalogIndex.Proofs.Json.Reading
import CatalogIndex.Proofs.Entity.Encoded
import CatalogIndex.Proofs.Script.Closed
import CatalogIndex.Proofs.Cascade.Scripts
import CatalogIndex.Proofs.Cluster.Scripts
import CatalogIndex.Proofs.Indexer.Sends
import CatalogIndex.Proofs.Indexer.Scripts
import CatalogIndex.Proofs.Cluster.Framing
import CatalogIndex.Proofs.Engine.Decoding
import CatalogIndex.Proofs.Document.Exclusion
import CatalogIndex.Proofs.Indexer.UnrelatedChanges
import CatalogIndex.Proofs.Cluster.Buffering
import CatalogIndex.Proofs.Indexer.BulkCreation
import CatalogIndex.Proofs.Name.Parent
import CatalogIndex.Proofs.Cascade.TagRename
import CatalogIndex.Proofs.Cascade.PageMove
import CatalogIndex.Proofs.Entity.Written
import CatalogIndex.Proofs.Cascade.InheritedFields
import CatalogIndex.Proofs.Cascade.InheritedMarks
import CatalogIndex.Proofs.Cascade.TermTags
import CatalogIndex.Proofs.Name.RoundTrip
import CatalogIndex.Proofs.Script.Removal
import CatalogIndex.Proofs.Cascade.TagRemoval
import CatalogIndex.Proofs.Lineage.Merging
import CatalogIndex.Proofs.Lineage.SchemaGraph
import CatalogIndex.Proofs.Document.NameParts
import CatalogIndex.Proofs.Indexer.ListingBelow
import CatalogIndex.Proofs.Index.Resolution
import CatalogIndex.Proofs.Index.Layering
import CatalogIndex.Proofs.Document.Children
import CatalogIndex.Proofs.Script.Stored
import CatalogIndex.Proofs.Script.Brackets
import CatalogIndex.Proofs.Script.Run
import CatalogIndex.Proofs.Script.Certification
