import SourceAudit.Analysis
import SourceAudit.Baseline
import SourceAudit.Binary64.Basic
import SourceAudit.Binary64.Printer
import SourceAudit.Binary64.Reader
import SourceAudit.Binary64.Shortest
import SourceAudit.Cli.Arguments
import SourceAudit.Cli.Directive
import SourceAudit.Cli.Explain
import SourceAudit.Cli.Listing
import SourceAudit.Cli.Log
import SourceAudit.Cli.Report
import SourceAudit.Cli.Run
import SourceAudit.Cli.Style
import SourceAudit.Config.Basic
import SourceAudit.Config.Decode
import SourceAudit.Config.File
import SourceAudit.Config.Sanitize
import SourceAudit.Discovery
import SourceAudit.Document.Basic
import SourceAudit.Document.Outline
import SourceAudit.FileName
import SourceAudit.FileTree
import SourceAudit.Finding
import SourceAudit.Glob.Basic
import SourceAudit.Glob.Depth
import SourceAudit.Glob.Expression
import SourceAudit.Glob.Parser
import SourceAudit.Json.Basic
import SourceAudit.Json.Printer
import SourceAudit.Language
import SourceAudit.LegacyPattern
import SourceAudit.Location
import SourceAudit.Main
import SourceAudit.Outline.Arguments
import SourceAudit.Outline.Build
import SourceAudit.Outline.Candidate
import SourceAudit.Outline.Mask
import SourceAudit.Outline.Shape
import SourceAudit.Path
import SourceAudit.PathFilter
import SourceAudit.Proofs.Analysis.Isolation
import SourceAudit.Proofs.Analysis.Origin
import SourceAudit.Proofs.Analysis.Semantics
import SourceAudit.Proofs.Baseline.Folding
import SourceAudit.Proofs.Casing
import SourceAudit.Proofs.Cli.Listing
import SourceAudit.Proofs.Cli.Loading
import SourceAudit.Proofs.Cli.Report
import SourceAudit.Proofs.Config.Sanitize
import SourceAudit.Proofs.Config.Schema
import SourceAudit.Proofs.Discovery
import SourceAudit.Proofs.Document.Erasure
import SourceAudit.Proofs.Glob.Expansion
import SourceAudit.Proofs.Glob.Expression
import SourceAudit.Proofs.Glob.Matching
import SourceAudit.Proofs.LegacyPattern.Flow
import SourceAudit.Proofs.Location
import SourceAudit.Proofs.Outline.Arguments
import SourceAudit.Proofs.Outline.Block
import SourceAudit.Proofs.Outline.Build
import SourceAudit.Proofs.Outline.Candidate
import SourceAudit.Proofs.Outline.Comment
import SourceAudit.Proofs.Outline.Composition
import SourceAudit.Proofs.Outline.Declaration
import SourceAudit.Proofs.Outline.Disguise
import SourceAudit.Proofs.Outline.Import
import SourceAudit.Proofs.Outline.Layout
import SourceAudit.Proofs.Outline.Links
import SourceAudit.Proofs.Outline.Mask
import SourceAudit.Proofs.Outline.Nesting
import SourceAudit.Proofs.Outline.Placement
import SourceAudit.Proofs.Outline.Scope
import SourceAudit.Proofs.Outline.Segments
import SourceAudit.Proofs.Outline.Shape
import SourceAudit.Proofs.Outline.Skeleton
import SourceAudit.Proofs.Outline.Spans
import SourceAudit.Proofs.Outline.Value
import SourceAudit.Proofs.PathFilter
import SourceAudit.Proofs.Query.Faults
import SourceAudit.Proofs.Query.Grammar
import SourceAudit.Proofs.Query.Hints
import SourceAudit.Proofs.Query.Image
import SourceAudit.Proofs.Query.Lexemes
import SourceAudit.Proofs.Query.Parser
import SourceAudit.Proofs.Query.Routing
import SourceAudit.Proofs.Query.Selection
import SourceAudit.Proofs.Query.Trivia
import SourceAudit.Proofs.Query.Truncation
import SourceAudit.Proofs.Query.Validation
import SourceAudit.Proofs.Regex.Complete
import SourceAudit.Proofs.Regex.Groups
import SourceAudit.Proofs.Regex.Leftmost
import SourceAudit.Proofs.Regex.Path
import SourceAudit.Proofs.Rule.Set
import SourceAudit.Proofs.Scan.Merge
import SourceAudit.Proofs.Scan.Places
import SourceAudit.Proofs.Snippet.Window
import SourceAudit.Proofs.SyntaxTree
import SourceAudit.Proofs.SyntaxTree.Forest
import SourceAudit.Proofs.Taint.Flow
import SourceAudit.Proofs.Text.Casing
import SourceAudit.Proofs.Text.Search
import SourceAudit.Query.Expr
import SourceAudit.Query.Hints
import SourceAudit.Query.Lexer
import SourceAudit.Query.Matcher
import SourceAudit.Query.Parser
import SourceAudit.Query.Prepare
import SourceAudit.Query.Recognize
import SourceAudit.Query.Report
import SourceAudit.Query.SyntaxError
import SourceAudit.Query.Token
import SourceAudit.Query.Validation
import SourceAudit.Regex.Age
import SourceAudit.Regex.Basic
import SourceAudit.Regex.BinaryProperty
import SourceAudit.Regex.Bracket
import SourceAudit.Regex.ByteRanges
import SourceAudit.Regex.Category
import SourceAudit.Regex.CharSet
import SourceAudit.Regex.CodeRanges
import SourceAudit.Regex.Error
import SourceAudit.Regex.Escape
import SourceAudit.Regex.Footprint
import SourceAudit.Regex.Match
import SourceAudit.Regex.NamedTable
import SourceAudit.Regex.Parser
import SourceAudit.Regex.Property
import SourceAudit.Regex.Script
import SourceAudit.Regex.ScriptExtension
import SourceAudit.Regex.Shape
import SourceAudit.Regex.TextBreak
import SourceAudit.Regex.WordChar
import SourceAudit.Rule.Basic
import SourceAudit.Rule.Builtin
import SourceAudit.Rule.Decode
import SourceAudit.Rule.File
import SourceAudit.Rule.Report
import SourceAudit.Rule.Set
import SourceAudit.Rule.Validation
import SourceAudit.Scan
import SourceAudit.Severity
import SourceAudit.Snippet
import SourceAudit.SortedMap
import SourceAudit.Summary
import SourceAudit.SyntaxTree
import SourceAudit.Taint.Flow
import SourceAudit.Taint.Risk
import SourceAudit.Taint.Sink
import SourceAudit.Text.Alphabetic
import SourceAudit.Text.Ascii
import SourceAudit.Text.Blank
import SourceAudit.Text.Bytes
import SourceAudit.Text.CaseFolding
import SourceAudit.Text.CaseShift
import SourceAudit.Text.Lines
import SourceAudit.Text.Lowercase
import SourceAudit.Text.Numeric
import SourceAudit.Text.RangeTable
import SourceAudit.Text.Search
import SourceAudit.Toml.DateText
import SourceAudit.Toml.Number
import SourceAudit.Toml.Parser
import SourceAudit.Toml.Table
import SourceAudit.Toml.Text
import SourceAudit.Yaml.Cursor
import SourceAudit.Yaml.Lexer
import SourceAudit.Yaml.Node
import SourceAudit.Yaml.Parser
import SourceAudit.Yaml.Scalar
import SourceAudit.Yaml.Tag
import SourceAudit.Yaml.Token
