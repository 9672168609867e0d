import EntityStore.Batch.Basic
import EntityStore.Batch.Write
import EntityStore.Call
import EntityStore.Collection
import EntityStore.Criteria.Aggregation
import EntityStore.Criteria.Basic
import EntityStore.Database.Basic
import EntityStore.Database.Retry
import EntityStore.Database.Script
import EntityStore.Decimal
import EntityStore.Documents.Basic
import EntityStore.Documents.Script
import EntityStore.Entity
import EntityStore.Error
import EntityStore.Fields
import EntityStore.Filter.Basic
import EntityStore.Filter.Builder
import EntityStore.Indices.Basic
import EntityStore.Indices.Cells
import EntityStore.Indices.Engine
import EntityStore.Indices.Hits
import EntityStore.Indices.Matching
import EntityStore.Indices.Request
import EntityStore.Indices.Sorting
import EntityStore.Indices.Summary
import EntityStore.Json.Basic
import EntityStore.Json.Members
import EntityStore.Json.Reader
import EntityStore.Pattern.Regex.Automaton
import EntityStore.Pattern.Regex.Basic
import EntityStore.Pattern.Regex.Bracket
import EntityStore.Pattern.Regex.Escape
import EntityStore.Pattern.Regex.Flags
import EntityStore.Pattern.Regex.Matching
import EntityStore.Pattern.Regex.Normal
import EntityStore.Pattern.Regex.Reader
import EntityStore.Pattern.Wildcard
import EntityStore.Plan.Conditions
import EntityStore.Plan.Search
import EntityStore.Proofs.Batch.Arriving
import EntityStore.Proofs.Batch.Assigning
import EntityStore.Proofs.Batch.Checking
import EntityStore.Proofs.Batch.Conflicts
import EntityStore.Proofs.Batch.Creating
import EntityStore.Proofs.Batch.Frame
import EntityStore.Proofs.Batch.Identities
import EntityStore.Proofs.Batch.Landing
import EntityStore.Proofs.Batch.LastItem
import EntityStore.Proofs.Batch.Locks
import EntityStore.Proofs.Batch.Patching
import EntityStore.Proofs.Batch.Rechecking
import EntityStore.Proofs.Batch.Refusing
import EntityStore.Proofs.Batch.Repeating
import EntityStore.Proofs.Batch.Returning
import EntityStore.Proofs.Batch.Updating
import EntityStore.Proofs.Batch.UpdatingAgain
import EntityStore.Proofs.Batch.Upserting
import EntityStore.Proofs.Calls
import EntityStore.Proofs.Collection.InPlace
import EntityStore.Proofs.Collection.Snapshots
import EntityStore.Proofs.Database.Retry
import EntityStore.Proofs.Fallible
import EntityStore.Proofs.Filter.Builder
import EntityStore.Proofs.Filter.Identities
import EntityStore.Proofs.Indices.Answers
import EntityStore.Proofs.Indices.Groups
import EntityStore.Proofs.Indices.Matching
import EntityStore.Proofs.Indices.Reaching
import EntityStore.Proofs.Indices.Renumbering
import EntityStore.Proofs.Indices.Requests
import EntityStore.Proofs.Indices.Rereading
import EntityStore.Proofs.Indices.Writing
import EntityStore.Proofs.Json.Containment
import EntityStore.Proofs.Json.Sound
import EntityStore.Proofs.Pattern.CodeSets
import EntityStore.Proofs.Pattern.Like
import EntityStore.Proofs.Pattern.Reading
import EntityStore.Proofs.Pattern.Sizes
import EntityStore.Proofs.Pattern.Spans
import EntityStore.Proofs.Pattern.Stars
import EntityStore.Proofs.Plan.Additions
import EntityStore.Proofs.Plan.Binding
import EntityStore.Proofs.Plan.Depths
import EntityStore.Proofs.Plan.Groups
import EntityStore.Proofs.Plan.Names
import EntityStore.Proofs.Plan.Queries
import EntityStore.Proofs.Plan.References
import EntityStore.Proofs.Record
import EntityStore.Proofs.SchemaCache
import EntityStore.Proofs.Search.Asking
import EntityStore.Proofs.Search.Cores
import EntityStore.Proofs.Search.Groups
import EntityStore.Proofs.Search.Plain
import EntityStore.Proofs.Search.Reading
import EntityStore.Proofs.Search.RoundTrip
import EntityStore.Proofs.Search.Window
import EntityStore.Proofs.Search.Wrappers
import EntityStore.Proofs.Sql.Evaluation
import EntityStore.Proofs.Sql.Grammar
import EntityStore.Proofs.Sql.Plain
import EntityStore.Proofs.Sql.References
import EntityStore.Proofs.Sql.Rendering
import EntityStore.Proofs.Sql.Tokens
import EntityStore.Proofs.Sql.Truth
import EntityStore.Proofs.Sql.Values
import EntityStore.Proofs.Sql.Writable
import EntityStore.Proofs.Store.Aggregations
import EntityStore.Proofs.Store.Agreement
import EntityStore.Proofs.Store.Answering
import EntityStore.Proofs.Store.Answers
import EntityStore.Proofs.Store.Attaching
import EntityStore.Proofs.Store.Buckets
import EntityStore.Proofs.Store.Collapsing
import EntityStore.Proofs.Store.Combinations
import EntityStore.Proofs.Store.Confirming
import EntityStore.Proofs.Store.Deleting
import EntityStore.Proofs.Store.Documents
import EntityStore.Proofs.Store.Facets
import EntityStore.Proofs.Store.Faults
import EntityStore.Proofs.Store.Finding
import EntityStore.Proofs.Store.Flat
import EntityStore.Proofs.Store.FlatDocuments
import EntityStore.Proofs.Store.FlatTables
import EntityStore.Proofs.Store.Gaps
import EntityStore.Proofs.Store.Holding
import EntityStore.Proofs.Store.Joining
import EntityStore.Proofs.Store.Naming
import EntityStore.Proofs.Store.Narrowing
import EntityStore.Proofs.Store.Negating
import EntityStore.Proofs.Store.Paging
import EntityStore.Proofs.Store.Projecting
import EntityStore.Proofs.Store.Refusing
import EntityStore.Proofs.Store.Relational
import EntityStore.Proofs.Store.Routing
import EntityStore.Proofs.Store.Scrolling
import EntityStore.Proofs.Store.ScrollingDocuments
import EntityStore.Proofs.Store.ScrollingTables
import EntityStore.Proofs.Store.Totals
import EntityStore.Proofs.Store.Tracing
import EntityStore.Proofs.Store.Writing
import EntityStore.Proofs.Tables.Apart
import EntityStore.Proofs.Tables.Grouping
import EntityStore.Proofs.Tables.InPlace
import EntityStore.Proofs.Tables.Inserting
import EntityStore.Proofs.Tables.Keys
import EntityStore.Proofs.Tables.Pages
import EntityStore.Proofs.Tables.Placing
import EntityStore.Proofs.Tables.Reaching
import EntityStore.Proofs.Tables.Steps
import EntityStore.Proofs.Tables.Updating
import EntityStore.Proofs.Tables.Upserting
import EntityStore.Proofs.Value.Distinct
import EntityStore.Proofs.Value.Doubles
import EntityStore.Proofs.Value.Kinds
import EntityStore.Proofs.Value.Mixed
import EntityStore.Proofs.Value.Orders
import EntityStore.Proofs.Value.Stored
import EntityStore.Proofs.Wire.Conditions
import EntityStore.Record
import EntityStore.SchemaCache
import EntityStore.Search.Aggregations
import EntityStore.Search.Conditions
import EntityStore.Search.Plan
import EntityStore.Search.Query
import EntityStore.Search.Query.Reader
import EntityStore.Search.Response
import EntityStore.Settings
import EntityStore.Sql.Evaluation
import EntityStore.Sql.Row
import EntityStore.Sql.Statement
import EntityStore.Sql.Text
import EntityStore.Store.Basic
import EntityStore.Store.Documents
import EntityStore.Store.Relational
import EntityStore.Tables.Basic
import EntityStore.Tables.Engine
import EntityStore.Tables.Queries
import EntityStore.Tables.Writes
import EntityStore.Text.LetterCase
import EntityStore.Text.Letters
import EntityStore.Text.Quoted
import EntityStore.Text.Ranges
import EntityStore.Text.Splitting
import EntityStore.Unicode.Binary
import EntityStore.Unicode.Category
import EntityStore.Unicode.CodeSet
import EntityStore.Unicode.Contributory
import EntityStore.Unicode.Folding
import EntityStore.Unicode.Script
import EntityStore.Unicode.Values
import EntityStore.Value.Basic
import EntityStore.Value.Order
import EntityStore.Wire.Catalog
import EntityStore.Wire.Contract
import EntityStore.Wire.Criteria
import EntityStore.Wire.Results
import EntityStore.Wire.Statements
import EntityStore.Wire.Values
