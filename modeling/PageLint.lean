import PageLint.Text.Blank
import PageLint.Text.Lines
import PageLint.Json.Document
import PageLint.Json.Printer
import PageLint.Json.Magnitude
import PageLint.Text.Escaped
import PageLint.Text.Hex
import PageLint.Text.Reader
import PageLint.Shape.Basic
import PageLint.Shape.Trouble
import PageLint.Shape.Dialect
import PageLint.Shape.Document
import PageLint.Shape.Value
import PageLint.Locator
import PageLint.PageObject
import PageLint.Graph.Node
import PageLint.Graph.Exchange
import PageLint.Guardrail
import PageLint.Finding
import PageLint.Rule.Catalog
import PageLint.Config
import PageLint.Rule.Detection
import PageLint.Rule.Active
import PageLint.Path
import PageLint.FileTree
import PageLint.Log.Event
import PageLint.Session
import PageLint.Report.Sarif
import PageLint.Report.Style
import PageLint.Report.Console
import PageLint.Run
import PageLint.Pattern.Basic
import PageLint.Pattern.Find
import PageLint.Facts
import PageLint.Config.Discovery
import PageLint.Log.Filter
import PageLint.Log.Line
import PageLint.CommandLine.Arguments
import PageLint.CommandLine.Execute
import PageLint.Toml.Basic
import PageLint.Toml.Scalar
import PageLint.Toml.Quoted
import PageLint.Toml.Table
import PageLint.Toml.Parser
import PageLint.Yaml.Token.Flowing
import PageLint.Yaml.Token.Block
import PageLint.Yaml.Token.Lexer
import PageLint.Yaml.Node.Parser
import PageLint.Yaml.Dialect
import PageLint.FileTree.Changes
import PageLint.Main
import PageLint.Proofs.Pairs
import PageLint.Proofs.Locator
import PageLint.Proofs.Guardrail.Verdict
import PageLint.Proofs.Guardrail.Acceptance
import PageLint.Proofs.Json.Faultless
import PageLint.Proofs.Json.Grammar
import PageLint.Proofs.Json.Numerals
import PageLint.Proofs.Json.Lexing
import PageLint.Proofs.Json.Building
import PageLint.Proofs.Json.Printing
import PageLint.Proofs.Json.Scanning
import PageLint.Proofs.Rule.Configured
import PageLint.Proofs.Rule.Detection
import PageLint.Proofs.Session.Trace
import PageLint.Proofs.Session.Batch
import PageLint.Proofs.Session.Escalation
import PageLint.Proofs.Session.Configuration
import PageLint.Proofs.Shape.RoundTrip
import PageLint.Proofs.Shape.Conformance
import PageLint.Proofs.Shape.Reordering
import PageLint.Proofs.Facts
import PageLint.Proofs.Facts.Schema
import PageLint.Proofs.Graph.Exchange
import PageLint.Proofs.Report.Sarif
import PageLint.Proofs.Report.RuleTable
import PageLint.Proofs.Rule.Lines
import PageLint.Proofs.Session.Provenance
import PageLint.Proofs.FileTree.Locating
import PageLint.Proofs.FileTree.Writing
import PageLint.Proofs.Config.Discovery
import PageLint.Proofs.Facts.Gathering
import PageLint.Proofs.Run
import PageLint.Proofs.CommandLine.ExitCode
import PageLint.Proofs.Report.Console
import PageLint.Proofs.CommandLine.Results
import PageLint.Proofs.Session.Encounters
import PageLint.Proofs.Text.Trail
import PageLint.Proofs.CommandLine.Showing
import PageLint.Proofs.FileTree.Saving
import PageLint.Proofs.Run.Again
import PageLint.Proofs.Text.Layout
import PageLint.Proofs.Guardrail.Precedence
import PageLint.Proofs.Rule.Duplicates
import PageLint.Proofs.Text.Quotation
import PageLint.Proofs.Session.SharedRoots
import PageLint.Proofs.Session.BorrowedRoots
import PageLint.Proofs.Rule.Boundaries
import PageLint.Proofs.Shape.Aliases
import PageLint.Proofs.Config.Names
import PageLint.Proofs.Shape.Following
import PageLint.Proofs.Config.Embedding
import PageLint.Proofs.Json.Merging
import PageLint.Proofs.Path.Order
import PageLint.Proofs.Facts.Expansion
import PageLint.Proofs.Path.Resolution
import PageLint.Proofs.Report.Uri
