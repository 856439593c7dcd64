import CodeDigest.Analysis
import CodeDigest.Aspect
import CodeDigest.Business
import CodeDigest.Codebase
import CodeDigest.CommandLine
import CodeDigest.CommandLine.Arguments
import CodeDigest.CommandLine.Summary
import CodeDigest.Complexity
import CodeDigest.Component
import CodeDigest.Decimal.Binary
import CodeDigest.Decimal.Layout
import CodeDigest.Decimal.Shortest
import CodeDigest.Detection
import CodeDigest.Failure
import CodeDigest.Failure.Category
import CodeDigest.FileTree
import CodeDigest.FileTree.Changes
import CodeDigest.FileTree.Node
import CodeDigest.FileTree.Walk
import CodeDigest.Http
import CodeDigest.Ignore.Pattern
import CodeDigest.Ignore.Rules
import CodeDigest.Java.Grammar
import CodeDigest.Java.Lexer
import CodeDigest.Java.Outline
import CodeDigest.Java.Pattern
import CodeDigest.Java.Scan
import CodeDigest.Java.Token
import CodeDigest.Java.Tree
import CodeDigest.Json.Basic
import CodeDigest.Json.Number
import CodeDigest.Json.Printer
import CodeDigest.Json.Reader
import CodeDigest.Json.Record
import CodeDigest.KeyMethod
import CodeDigest.Language
import CodeDigest.LineCount
import CodeDigest.Main
import CodeDigest.Narration.Choice
import CodeDigest.Narration.Model
import CodeDigest.Narration.Prompt
import CodeDigest.Narration.Question
import CodeDigest.Overview
import CodeDigest.Path
import CodeDigest.PathFilter
import CodeDigest.Project
import CodeDigest.Proofs.Codebase.Dependencies
import CodeDigest.Proofs.Codebase.Filters
import CodeDigest.Proofs.Codebase.LineCounts
import CodeDigest.Proofs.Codebase.Lookups
import CodeDigest.Proofs.Codebase.Majority
import CodeDigest.Proofs.Codebase.ProjectNames
import CodeDigest.Proofs.Codebase.Scanning
import CodeDigest.Proofs.Codebase.SourceFiles
import CodeDigest.Proofs.CommandLine.Delivery
import CodeDigest.Proofs.CommandLine.Frame
import CodeDigest.Proofs.CommandLine.Project
import CodeDigest.Proofs.CommandLine.Repetition
import CodeDigest.Proofs.Component.BusinessRules
import CodeDigest.Proofs.Component.Declarations
import CodeDigest.Proofs.Component.KeyMethods
import CodeDigest.Proofs.Component.Keywords
import CodeDigest.Proofs.Decimal.Characters
import CodeDigest.Proofs.FileTree.Finding
import CodeDigest.Proofs.FileTree.Frame
import CodeDigest.Proofs.FileTree.Growth
import CodeDigest.Proofs.FileTree.Listing
import CodeDigest.Proofs.FileTree.Walking
import CodeDigest.Proofs.FileTree.Writing
import CodeDigest.Proofs.Java.Extraction
import CodeDigest.Proofs.Java.Insertion
import CodeDigest.Proofs.Java.Layout
import CodeDigest.Proofs.Java.Leads
import CodeDigest.Proofs.Java.LocalTypes
import CodeDigest.Proofs.Java.Names
import CodeDigest.Proofs.Java.Numbers
import CodeDigest.Proofs.Java.Places
import CodeDigest.Proofs.Java.Reach
import CodeDigest.Proofs.Java.Records
import CodeDigest.Proofs.Java.Shape
import CodeDigest.Proofs.Java.Skeletons
import CodeDigest.Proofs.Java.Twins
import CodeDigest.Proofs.Json.Equality
import CodeDigest.Proofs.Json.Fields
import CodeDigest.Proofs.Json.Grammar
import CodeDigest.Proofs.Json.Interruption
import CodeDigest.Proofs.Json.Printing
import CodeDigest.Proofs.Json.Reading
import CodeDigest.Proofs.Json.Tree
import CodeDigest.Proofs.Json.Weight
import CodeDigest.Proofs.Narration.Answers
import CodeDigest.Proofs.Narration.Aspects
import CodeDigest.Proofs.Narration.Descriptions
import CodeDigest.Proofs.Narration.ItemLists
import CodeDigest.Proofs.Narration.Locality
import CodeDigest.Proofs.Narration.Markers
import CodeDigest.Proofs.Narration.Overviews
import CodeDigest.Proofs.Narration.Quotation
import CodeDigest.Proofs.Narration.Requests
import CodeDigest.Proofs.Narration.Tidiness
import CodeDigest.Proofs.Provider.Agreement
import CodeDigest.Proofs.Provider.Categories
import CodeDigest.Proofs.Provider.Secrecy
import CodeDigest.Proofs.Reply.Brackets
import CodeDigest.Proofs.Reply.Conservation
import CodeDigest.Proofs.Reply.Cut
import CodeDigest.Proofs.Reply.Embedding
import CodeDigest.Proofs.Reply.InlineFences
import CodeDigest.Proofs.Reply.Interruption
import CodeDigest.Proofs.Reply.Literals
import CodeDigest.Proofs.Reply.Matching
import CodeDigest.Proofs.Reply.Tally
import CodeDigest.Proofs.Reply.TrailingCommas
import CodeDigest.Proofs.Reply.Truncation
import CodeDigest.Proofs.Reply.Wrapping
import CodeDigest.Proofs.Report.Consistency
import CodeDigest.Proofs.Report.Counts
import CodeDigest.Proofs.Report.ReadingBack
import CodeDigest.Proofs.Settings.Choices
import CodeDigest.Proofs.Settings.Layers
import CodeDigest.Proofs.Settings.ReadingBack
import CodeDigest.Proofs.Text.CaseTables
import CodeDigest.Proofs.Text.LetterCase
import CodeDigest.Proofs.Text.Lines
import CodeDigest.Proofs.Text.Lowercase
import CodeDigest.Proofs.Text.Searching
import CodeDigest.Proofs.Text.Splitting
import CodeDigest.Proofs.Text.Trimming
import CodeDigest.Proofs.Toml.Documents
import CodeDigest.Proofs.Toml.Strings
import CodeDigest.Proofs.Toml.Values
import CodeDigest.Provider
import CodeDigest.Provider.Exchange
import CodeDigest.Recommendation
import CodeDigest.Reply.Cleaning
import CodeDigest.Reply.Extraction
import CodeDigest.Reply.Repair
import CodeDigest.Report
import CodeDigest.Scan
import CodeDigest.Settings
import CodeDigest.Settings.Inspection
import CodeDigest.Settings.Layer
import CodeDigest.Settings.Variable
import CodeDigest.Source
import CodeDigest.SourceReading
import CodeDigest.Statistics
import CodeDigest.Text.Blank
import CodeDigest.Text.Case
import CodeDigest.Text.CaseTable
import CodeDigest.Text.Identifier
import CodeDigest.Text.Pieces
import CodeDigest.Text.Printable
import CodeDigest.Timestamp
import CodeDigest.TokenUsage
import CodeDigest.Toml.Document
import CodeDigest.Toml.Printer
import CodeDigest.Toml.Quoted
import CodeDigest.Toml.Scalar
import CodeDigest.Toml.Statement
import CodeDigest.Url
import CodeDigest.Url.Host
import CodeDigest.Url.Percent
import CodeDigest.Url.Punycode
