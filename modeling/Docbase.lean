import Docbase.Clock
import Docbase.CommandLine.Arguments
import Docbase.CommandLine.Command
import Docbase.CommandLine.Markup
import Docbase.CommandLine.Report
import Docbase.CommandLine.Seed
import Docbase.Config
import Docbase.ConfigFile
import Docbase.Document
import Docbase.Effect
import Docbase.Fault
import Docbase.Files
import Docbase.Identifier
import Docbase.Inflection
import Docbase.Journal
import Docbase.Journal.Logging
import Docbase.Journal.Record
import Docbase.Journal.Template
import Docbase.Json.Mistake
import Docbase.Json.Printer
import Docbase.Json.Reader
import Docbase.Keyed
import Docbase.Main
import Docbase.Number.Arithmetic
import Docbase.Number.Decimal
import Docbase.Number.Double
import Docbase.Number.Places
import Docbase.Pattern.Basic
import Docbase.Pattern.Matcher
import Docbase.Pattern.Problem
import Docbase.Pattern.Reader
import Docbase.Pattern.Reading
import Docbase.Pattern.Syntax
import Docbase.Pattern.Token
import Docbase.Proofs.Agreement
import Docbase.Proofs.Collection
import Docbase.Proofs.Connection
import Docbase.Query.Aggregation
import Docbase.Query.Filter
import Docbase.Query.FilterReader
import Docbase.Query.Include
import Docbase.Query.Paging
import Docbase.Query.Sorting
import Docbase.Relations
import Docbase.Schema.Basic
import Docbase.Schema.Reader
import Docbase.Schema.Registry
import Docbase.Schema.Summary
import Docbase.SchemaFile
import Docbase.Script.Backend
import Docbase.Script.Basic
import Docbase.Script.Collection
import Docbase.Script.Store
import Docbase.StableSort
import Docbase.Storage.Backend
import Docbase.Storage.Collection
import Docbase.Storage.Session
import Docbase.Storage.Surroundings
import Docbase.Storage.Transaction
import Docbase.Store
import Docbase.Text.Base
import Docbase.Text.BaseTable
import Docbase.Text.Case
import Docbase.Text.CaseTable
import Docbase.Text.Class
import Docbase.Text.ClassTable
import Docbase.Text.Quoted
import Docbase.Text.Table
import Docbase.Toml.Lexeme
import Docbase.Toml.Reader
import Docbase.Toml.Tables
import Docbase.Validation
import Docbase.Value.Basic
import Docbase.Value.Equality
import Docbase.Value.Moment
import Docbase.Value.Order
import Docbase.Value.Shown
import Docbase.Yaml.Cursor
import Docbase.Yaml.Node
import Docbase.Yaml.Plain
import Docbase.Yaml.Reader
import Docbase.Yaml.Scalar
import Docbase.Yaml.Token
import Docbase.Proofs.Ledger
import Docbase.Proofs.Program
import Docbase.Proofs.Rollback
import Docbase.Proofs.Atomicity
import Docbase.Proofs.Filing
import Docbase.Proofs.Lookup
import Docbase.Proofs.Effects
import Docbase.Proofs.Related
import Docbase.Proofs.ForeignKeys
import Docbase.Proofs.Converse
import Docbase.Proofs.Pipelines
import Docbase.Proofs.Counting
import Docbase.Proofs.Decomposition
import Docbase.Proofs.Includes
import Docbase.Proofs.DecimalTexts
import Docbase.Proofs.QuotedTexts
import Docbase.Proofs.Grouping
import Docbase.Proofs.Arrangement
import Docbase.Proofs.Requests
import Docbase.Proofs.Paging
import Docbase.Proofs.Upkeep
import Docbase.Proofs.FixedKeys
import Docbase.Proofs.EnumValues
import Docbase.Proofs.ValueOrder
import Docbase.Proofs.Crossing
import Docbase.Proofs.Comparison
import Docbase.Proofs.NewRecords
import Docbase.Proofs.Shape
import Docbase.Proofs.Visibility
import Docbase.Proofs.Seeds
import Docbase.Proofs.Refusals
import Docbase.Proofs.Overflows
import Docbase.Proofs.Batches
import Docbase.Proofs.Explanations
import Docbase.Proofs.Meaning
import Docbase.Proofs.GroupFilters
import Docbase.Proofs.StableSorting
import Docbase.Proofs.Resolution
import Docbase.Proofs.Correspondence
import Docbase.Proofs.Coherence
import Docbase.Proofs.LateRefusals
import Docbase.Proofs.Defaults
import Docbase.Proofs.Reverses
import Docbase.Proofs.JunctionKeys
import Docbase.Proofs.Asking
import Docbase.Proofs.Sums
import Docbase.Proofs.Partition
import Docbase.Proofs.Columns
import Docbase.Proofs.Tallies
import Docbase.Proofs.Additions
import Docbase.Proofs.Plurals
import Docbase.Proofs.Calendar
import Docbase.Proofs.Timestamps
import Docbase.Proofs.ClosedSchemas
import Docbase.Proofs.OrderNotations
