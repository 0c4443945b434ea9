import TagLedger.Cache.Bus
import TagLedger.Cache.Colors
import TagLedger.Cache.Derived
import TagLedger.Cache.Interleaving
import TagLedger.CommandLine.Argument
import TagLedger.CommandLine.Completion
import TagLedger.CommandLine.Failure
import TagLedger.CommandLine.Grammar
import TagLedger.CommandLine.Layout
import TagLedger.CommandLine.Log
import TagLedger.CommandLine.Perform
import TagLedger.CommandLine.Report
import TagLedger.CommandLine.Request
import TagLedger.CommandLine.Run
import TagLedger.CommandLine.Trace
import TagLedger.CommandLine.UsageError
import TagLedger.Error
import TagLedger.Identifier
import TagLedger.Json.Lexer
import TagLedger.Json.Printer
import TagLedger.Json.Reader
import TagLedger.Json.Value
import TagLedger.Main
import TagLedger.Number.Binary64
import TagLedger.Number.Scientific
import TagLedger.Number.Shortest
import TagLedger.Proofs.Cache.Announcement
import TagLedger.Proofs.Cache.Coalescing
import TagLedger.Proofs.Cache.Delivery
import TagLedger.Proofs.Cache.Freshness
import TagLedger.Proofs.Cache.LastColor
import TagLedger.Proofs.Cache.Leaders
import TagLedger.Proofs.Cache.Newest
import TagLedger.Proofs.Cache.Outcomes
import TagLedger.Proofs.Cache.Renders
import TagLedger.Proofs.Cache.Signals
import TagLedger.Proofs.Cache.Steps
import TagLedger.Proofs.Cache.Waiters
import TagLedger.Proofs.CommandLine.Colors
import TagLedger.Proofs.CommandLine.Envelope
import TagLedger.Proofs.CommandLine.Load
import TagLedger.Proofs.CommandLine.Rows
import TagLedger.Proofs.Identifier
import TagLedger.Proofs.Json.Layout
import TagLedger.Proofs.Json.Lexing
import TagLedger.Proofs.Json.Numeral
import TagLedger.Proofs.Json.Reading
import TagLedger.Proofs.Reference.Definition
import TagLedger.Proofs.Reference.Token
import TagLedger.Proofs.Registry.Agreement
import TagLedger.Proofs.Registry.Batch
import TagLedger.Proofs.Registry.Bijection
import TagLedger.Proofs.Registry.Entries
import TagLedger.Proofs.Registry.OneByOne
import TagLedger.Proofs.Registry.Permanence
import TagLedger.Proofs.Store.AssetMap
import TagLedger.Proofs.Store.Atomicity
import TagLedger.Proofs.Store.Batch
import TagLedger.Proofs.Store.Color
import TagLedger.Proofs.Store.Contents
import TagLedger.Proofs.Store.Deletion
import TagLedger.Proofs.Store.Document
import TagLedger.Proofs.Store.Ingestion
import TagLedger.Proofs.Store.Loading
import TagLedger.Proofs.Store.Migration
import TagLedger.Proofs.Store.Naming
import TagLedger.Proofs.Store.Operation
import TagLedger.Proofs.Store.Overwrite
import TagLedger.Proofs.Store.Program
import TagLedger.Proofs.Store.ReferenceScan
import TagLedger.Proofs.Store.References
import TagLedger.Proofs.Store.Reload
import TagLedger.Proofs.Store.Reporting
import TagLedger.Proofs.Store.Usage
import TagLedger.Proofs.Store.Validation
import TagLedger.Proofs.Store.Within
import TagLedger.Proofs.Table
import TagLedger.Proofs.Tag.Canonical
import TagLedger.Proofs.Tag.Composite
import TagLedger.Proofs.Tag.Representation
import TagLedger.Proofs.Tag.Spelling
import TagLedger.Proofs.Tag.Splitting
import TagLedger.Proofs.Tag.Usage
import TagLedger.Proofs.Text.Joint
import TagLedger.Proofs.Text.Lowercase
import TagLedger.Proofs.Text.Utf8
import TagLedger.Proofs.Workspace.Files
import TagLedger.Proofs.Workspace.Opening
import TagLedger.Reference.Definition
import TagLedger.Reference.Token
import TagLedger.Response
import TagLedger.Settings.OutputMode
import TagLedger.Settings.Project
import TagLedger.Store.Asset
import TagLedger.Store.Basic
import TagLedger.Store.Color
import TagLedger.Store.Document
import TagLedger.Store.Fault
import TagLedger.Store.Image
import TagLedger.Store.Migration
import TagLedger.Store.Opening
import TagLedger.Store.References
import TagLedger.Store.Registry
import TagLedger.Store.Snapshot
import TagLedger.Store.Usage
import TagLedger.Table
import TagLedger.Tag.Canonical
import TagLedger.Tag.Representation
import TagLedger.Tag.Usage
import TagLedger.Terminal.Coloring
import TagLedger.Terminal.Marked
import TagLedger.Terminal.Visible
import TagLedger.Text.Blank
import TagLedger.Text.CaseTable
import TagLedger.Text.Digits
import TagLedger.Text.HiddenTable
import TagLedger.Text.Lowercase
import TagLedger.Text.Quoted
import TagLedger.Timestamp
import TagLedger.Toml.Document
import TagLedger.Toml.Scalar
import TagLedger.Toml.Text
import TagLedger.Toml.Value
import TagLedger.Workspace.Basic
import TagLedger.Workspace.Files
import TagLedger.Workspace.Opening
