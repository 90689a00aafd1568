import SearchRequest.Aggregation.Basic
import SearchRequest.Aggregation.Bucket
import SearchRequest.Aggregation.Signature
import SearchRequest.Arguments
import SearchRequest.Call
import SearchRequest.Clause.Basic
import SearchRequest.Clause.Leaf
import SearchRequest.Clause.Reader
import SearchRequest.Clause.Signature
import SearchRequest.Connection.Basic
import SearchRequest.Connection.Link
import SearchRequest.Connection.Server
import SearchRequest.Connection.Step
import SearchRequest.Decimal.Basic
import SearchRequest.Decimal.Nearest
import SearchRequest.Decimal.Numeral
import SearchRequest.Document.Basic
import SearchRequest.Document.FieldSort
import SearchRequest.Document.Highlight
import SearchRequest.Failure
import SearchRequest.Json.Basic
import SearchRequest.Json.Literal
import SearchRequest.Json.Reader
import SearchRequest.Json.Shape
import SearchRequest.Json.Writer
import SearchRequest.Kind
import SearchRequest.Result.Basic
import SearchRequest.Result.Board
import SearchRequest.Result.Page
import SearchRequest.Search.Aggregating
import SearchRequest.Search.Basic
import SearchRequest.Search.Bench
import SearchRequest.Search.Edit
import SearchRequest.Search.Reader
import SearchRequest.Search.Scoring
import SearchRequest.Search.Step
import SearchRequest.Search.World
import SearchRequest.Session.Basic
import SearchRequest.Session.Scoped
import SearchRequest.Settings.Basic
import SearchRequest.Settings.Installed.CommandLine
import SearchRequest.Settings.Installed.Conversion
import SearchRequest.Settings.Installed.File
import SearchRequest.Settings.Installed.Library
import SearchRequest.Settings.Installed.Machine
import SearchRequest.Settings.Installed.Options
import SearchRequest.Settings.Library
import SearchRequest.Settings.Path
import SearchRequest.Settings.Source
import SearchRequest.Settings.Store
import SearchRequest.Settings.Variables
import SearchRequest.Text.Blank
import SearchRequest.Text.Folded
import SearchRequest.Text.Lowercase
import SearchRequest.Text.Printable
import SearchRequest.Text.Quoted
import SearchRequest.Trace.Event
import SearchRequest.Trace.Level
import SearchRequest.Trace.LogSetup
import SearchRequest.Trace.Report
import SearchRequest.Proofs.Outcome
import SearchRequest.Proofs.Search.Change
import SearchRequest.Proofs.Json.Merge
import SearchRequest.Proofs.Search.History
import SearchRequest.Proofs.Search.Query
import SearchRequest.Proofs.Search.Nesting
import SearchRequest.Proofs.Search.Silent
import SearchRequest.Proofs.Search.Thinning
import SearchRequest.Proofs.Search.Isolation
import SearchRequest.Proofs.Arguments
import SearchRequest.Proofs.Aggregation.Ranges
import SearchRequest.Proofs.Aggregation.Writable
import SearchRequest.Proofs.Search.Writable
import SearchRequest.Proofs.Search.Compile
import SearchRequest.Proofs.Connection.Tenant
import SearchRequest.Proofs.Result.Sharing
import SearchRequest.Proofs.Result.Pages
import SearchRequest.Proofs.Search.Windows
import SearchRequest.Proofs.Search.Paging
import SearchRequest.Proofs.Search.Failing
import SearchRequest.Proofs.Search.Functions
import SearchRequest.Proofs.Clause.Meaning
import SearchRequest.Proofs.Clause.Places
import SearchRequest.Proofs.Clause.Carried
import SearchRequest.Proofs.Connection.Exchange
import SearchRequest.Proofs.Search.Target
import SearchRequest.Proofs.Connection.Routes
import SearchRequest.Proofs.Result.Shape
import SearchRequest.Proofs.Settings.Hosts
import SearchRequest.Proofs.Settings.Library
import SearchRequest.Proofs.Settings.Conversion
import SearchRequest.Proofs.Settings.Installed
import SearchRequest.Proofs.Settings.Fields
import SearchRequest.Proofs.Settings.Layers
import SearchRequest.Proofs.Search.Sending
import SearchRequest.Proofs.Session.Clients
import SearchRequest.Proofs.Search.Aliases
import SearchRequest.Proofs.Connection.Lifecycle
import SearchRequest.Proofs.Connection.Paths
import SearchRequest.Proofs.Search.Parts
import SearchRequest.Proofs.Search.Presentation
import SearchRequest.Proofs.Search.Asking
import SearchRequest.Proofs.Json.Entries
import SearchRequest.Proofs.Json.Table
import SearchRequest.Proofs.Result.Content
import SearchRequest.Proofs.Search.PageRequest
import SearchRequest.Proofs.Clause.ReadBack
import SearchRequest.Proofs.Clause.Options
import SearchRequest.Proofs.Aggregation.Options
import SearchRequest.Proofs.Search.Batches
import SearchRequest.Proofs.Aggregation.Buckets
import SearchRequest.Proofs.Search.Scored
import SearchRequest.Proofs.Settings.Overriding
import SearchRequest.Proofs.Session.Scope
import SearchRequest.Proofs.Result.Metadata
import SearchRequest.Proofs.Clause.Bounds
import SearchRequest.Proofs.Search.Parallel
import SearchRequest.Proofs.Connection.Level
import SearchRequest.Proofs.Session.Desk
import SearchRequest.Proofs.Session.Levels
