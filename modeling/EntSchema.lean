import EntSchema.CommandLine.Session
import EntSchema.Main
import EntSchema.Naming.Snake
import EntSchema.Proofs.Fold
import EntSchema.Proofs.Relational.Lookup
import EntSchema.Proofs.Relational.WellFormed
import EntSchema.Proofs.ParseTree.Nodes
import EntSchema.Proofs.ParseTree.Steps
import EntSchema.Proofs.ParseTree.WellFormed
import EntSchema.Proofs.ParseTree.Marks
import EntSchema.Proofs.ParseTree.Accounting
import EntSchema.Proofs.ParseTree.IndexColumns
import EntSchema.Proofs.ParseTree.UniqueIndexes
import EntSchema.Proofs.Relational.Finalize
import EntSchema.Proofs.ParseTree.Finished
import EntSchema.Proofs.ParseTree.Frame
import EntSchema.Proofs.ParseTree.Beginnings
import EntSchema.Proofs.ParseTree.Recorded
import EntSchema.Proofs.ParseTree.Created
import EntSchema.Proofs.ParseTree.KeyTargets
import EntSchema.Proofs.Json.Field
import EntSchema.Proofs.ParseTree.ConstraintPlaces
import EntSchema.Proofs.ParseTree.Outline
import EntSchema.Proofs.ParseTree.Undeclared
import EntSchema.Proofs.ParseTree.UniqueForms
import EntSchema.Proofs.ParseTree.IndexOrder
import EntSchema.Proofs.Output.Stems
import EntSchema.Proofs.Storage.Join
import EntSchema.Proofs.Storage.PathMap
import EntSchema.Proofs.Storage.Tree
import EntSchema.Proofs.CommandLine.Session
import EntSchema.Proofs.Output.Writing
import EntSchema.Proofs.CommandLine.Contract
import EntSchema.Proofs.Naming.Words
import EntSchema.Proofs.Naming.Camel
import EntSchema.Proofs.CommandLine.Entities
import EntSchema.Proofs.Schema.Listing
import EntSchema.Proofs.Schema.ReadBack
import EntSchema.Proofs.Ordered.Set
import EntSchema.Proofs.Schema.Modifiers
import EntSchema.Proofs.Schema.Files
import EntSchema.Proofs.Schema.OnePass
import EntSchema.Proofs.Schema.Imports
import EntSchema.Proofs.Schema.NoDefault
import EntSchema.Proofs.ParseTree.DefaultGrammar
import EntSchema.Proofs.Schema.Literals
import EntSchema.Proofs.Schema.Annotations
import EntSchema.Proofs.Schema.QuotedNames
import EntSchema.Proofs.Naming.Snake
import EntSchema.Proofs.Naming.LastWord
import EntSchema.Proofs.Schema.EntityNames
import EntSchema.Proofs.Schema.StringDefaults
import EntSchema.Proofs.Config.Overrides
import EntSchema.Proofs.Schema.Failures
import EntSchema.Proofs.Schema.CompositeKeys
import EntSchema.Proofs.Schema.Shielding
import EntSchema.Proofs.Naming.Identifiers
import EntSchema.Proofs.Schema.EntityIdentifiers
import EntSchema.Proofs.Relational.IndexRuns
import EntSchema.Proofs.Naming.Separators
import EntSchema.Proofs.Naming.Idempotence
import EntSchema.Proofs.Ordered.Bytes
import EntSchema.Proofs.Schema.ImportBlock
import EntSchema.Proofs.ParseTree.JoinedPaths
