import SqlText.Catalog
import SqlText.Descriptor
import SqlText.Record.Repository
import SqlText.Registry
import SqlText.Proofs.Clause.Composition
import SqlText.Proofs.Clause.Runs
import SqlText.Proofs.Clause.Ranges
import SqlText.Proofs.Clause.Silence
import SqlText.Proofs.Clause.Reading
import SqlText.Proofs.Clause.Assignments
import SqlText.Proofs.Statement.Guards
import SqlText.Proofs.Statement.Reading
import SqlText.Proofs.Executor.Brackets
import SqlText.Proofs.Access.Contract
import SqlText.Proofs.Record.Confinement
import SqlText.Proofs.Statement.Spelling
import SqlText.Proofs.Clause.Values
import SqlText.Proofs.Statement.Values
import SqlText.Proofs.Registry
import SqlText.Proofs.Record.Columns
import SqlText.Proofs.Record.Writes
import SqlText.Proofs.Record.Keys
import SqlText.Proofs.Modifiers.Families
import SqlText.Proofs.Modifiers.Fragments
import SqlText.Proofs.Modifiers.Orders
import SqlText.Proofs.Statement.Selection
import SqlText.Proofs.Clause.Relations
import SqlText.Proofs.Clause.Skeleton
import SqlText.Proofs.Clause.Trimming
import SqlText.Proofs.Statement.Relations
import SqlText.Proofs.Table.Lookup
import SqlText.Proofs.Casing
import SqlText.Proofs.Elements
import SqlText.Proofs.Registry.Listing
import SqlText.Proofs.Statement.Bare
import SqlText.Proofs.Table.Acceptance
import SqlText.Proofs.Table.Reloading
import SqlText.Proofs.Catalog
