import ScriptLint.Command.Arguments
import ScriptLint.Command.Run
import ScriptLint.Config.Error
import ScriptLint.Config.Setting
import ScriptLint.Config.Standard
import ScriptLint.Config.Validation
import ScriptLint.Console.Cells
import ScriptLint.Console.ColorCode
import ScriptLint.Console.Handler
import ScriptLint.Console.Highlight
import ScriptLint.Console.Item
import ScriptLint.Console.Markup
import ScriptLint.Console.Notice
import ScriptLint.Console.Style
import ScriptLint.Console.StyledText
import ScriptLint.Console.Table
import ScriptLint.Console.Wrap
import ScriptLint.Decimal.Binary64
import ScriptLint.Decimal.Numeral
import ScriptLint.Decimal.Shortest
import ScriptLint.Diagnostic
import ScriptLint.Digest.Md5
import ScriptLint.Engine.Lint
import ScriptLint.Engine.Pass
import ScriptLint.Files.Access
import ScriptLint.Files.Error
import ScriptLint.Files.Replace
import ScriptLint.Files.Tree
import ScriptLint.Fix
import ScriptLint.Ignore.Load
import ScriptLint.Ignore.Match
import ScriptLint.Ignore.Pattern
import ScriptLint.Ignore.Rules
import ScriptLint.Language
import ScriptLint.Literal.Complaint
import ScriptLint.Literal.Fault
import ScriptLint.Literal.Field
import ScriptLint.Literal.Formatted
import ScriptLint.Literal.Grammar
import ScriptLint.Literal.Match
import ScriptLint.Literal.Part
import ScriptLint.Literal.Quoted
import ScriptLint.Literal.Token
import ScriptLint.Literal.Value
import ScriptLint.Main
import ScriptLint.Message
import ScriptLint.Named
import ScriptLint.Output.Json
import ScriptLint.Path.Basic
import ScriptLint.Path.Resolve
import ScriptLint.Pattern.CharSet
import ScriptLint.Pattern.Glob
import ScriptLint.Proofs.Config.Options
import ScriptLint.Proofs.Engine.Acceptance
import ScriptLint.Proofs.Engine.Along
import ScriptLint.Proofs.Engine.Calls
import ScriptLint.Proofs.Engine.Chorus
import ScriptLint.Proofs.Engine.FixPlaces
import ScriptLint.Proofs.Engine.FixesApplied
import ScriptLint.Proofs.Engine.Independence
import ScriptLint.Proofs.Engine.Lint
import ScriptLint.Proofs.Engine.MessageOrder
import ScriptLint.Proofs.Engine.Ranges
import ScriptLint.Proofs.Engine.Reports
import ScriptLint.Proofs.Engine.Voice
import ScriptLint.Proofs.Files.Access
import ScriptLint.Proofs.Files.AllOrNothing
import ScriptLint.Proofs.Files.Aside
import ScriptLint.Proofs.Files.Contents
import ScriptLint.Proofs.Files.Folders
import ScriptLint.Proofs.Files.Names
import ScriptLint.Proofs.Files.Outline
import ScriptLint.Proofs.Files.Places
import ScriptLint.Proofs.Files.Refusal
import ScriptLint.Proofs.Files.Replace
import ScriptLint.Proofs.Fix
import ScriptLint.Proofs.FixOrder
import ScriptLint.Proofs.FixSplice
import ScriptLint.Proofs.Ignore.Below
import ScriptLint.Proofs.Ignore.Folders
import ScriptLint.Proofs.Named
import ScriptLint.Proofs.PathText
import ScriptLint.Proofs.Pattern.Glob
import ScriptLint.Proofs.Report
import ScriptLint.Proofs.ReportText
import ScriptLint.Proofs.Rules.Book
import ScriptLint.Proofs.Rules.CommentLines
import ScriptLint.Proofs.Rules.DuplicateBlocks
import ScriptLint.Proofs.Rules.LineLength
import ScriptLint.Proofs.Rules.Located
import ScriptLint.Proofs.Rules.Maximum
import ScriptLint.Proofs.Rules.NameBindings
import ScriptLint.Proofs.Rules.Nesting
import ScriptLint.Proofs.Rules.Padding
import ScriptLint.Proofs.Rules.PaddingFixed
import ScriptLint.Proofs.Rules.Quotes
import ScriptLint.Proofs.Rules.QuotesConverted
import ScriptLint.Proofs.Rules.Tallies
import ScriptLint.Proofs.Rules.UnusedNames
import ScriptLint.Proofs.Rules.UnusedParameters
import ScriptLint.Proofs.Session.Agreement
import ScriptLint.Proofs.Session.Changes
import ScriptLint.Proofs.Session.Deactivated
import ScriptLint.Proofs.Session.Effect
import ScriptLint.Proofs.Session.Failure
import ScriptLint.Proofs.Session.Findings
import ScriptLint.Proofs.Session.Independence
import ScriptLint.Proofs.Session.LineEnds
import ScriptLint.Proofs.Session.Operation
import ScriptLint.Proofs.Session.Publication
import ScriptLint.Proofs.Session.Reached
import ScriptLint.Proofs.Session.Repeat
import ScriptLint.Proofs.Session.Update
import ScriptLint.Proofs.Session.Writes
import ScriptLint.Proofs.Source.Component
import ScriptLint.Proofs.Source.Elements
import ScriptLint.Proofs.Source.Offset
import ScriptLint.Proofs.Source.Position
import ScriptLint.Proofs.Source.Problem
import ScriptLint.Proofs.Source.Rows
import ScriptLint.Proofs.Source.Span
import ScriptLint.Proofs.Source.Tags
import ScriptLint.Proofs.StableSort
import ScriptLint.Proofs.Store
import ScriptLint.Proofs.Store.History
import ScriptLint.Proofs.StringLiteral
import ScriptLint.Proofs.Text.Breaks
import ScriptLint.Proofs.Text.Lines
import ScriptLint.Proofs.Text.Utf8
import ScriptLint.Proofs.Tree.Nodes
import ScriptLint.Proofs.Tree.Owners
import ScriptLint.Proofs.Tree.Patterns
import ScriptLint.Proofs.Tree.Traversal
import ScriptLint.Proofs.Tree.Walk
import ScriptLint.Proofs.Workspace.Event
import ScriptLint.Proofs.Workspace.Order
import ScriptLint.Proofs.Workspace.Roots
import ScriptLint.Proofs.Workspace.Standard
import ScriptLint.Proofs.Workspace.Unlisted
import ScriptLint.Report
import ScriptLint.Rule.Basic
import ScriptLint.Rules.Book
import ScriptLint.Rules.CamelCase
import ScriptLint.Rules.DuplicateBlocks
import ScriptLint.Rules.Limits
import ScriptLint.Rules.LineLength
import ScriptLint.Rules.Padding
import ScriptLint.Rules.Probe
import ScriptLint.Rules.Quotes
import ScriptLint.Rules.Statements
import ScriptLint.Rules.Switches
import ScriptLint.Rules.UnusedNames
import ScriptLint.Session.Analysis
import ScriptLint.Session.Basic
import ScriptLint.Session.Report
import ScriptLint.Session.Scan
import ScriptLint.Source.Basic
import ScriptLint.Source.Component
import ScriptLint.Source.Naming
import ScriptLint.Source.Parse
import ScriptLint.Source.Parsed
import ScriptLint.Source.Problem
import ScriptLint.Store
import ScriptLint.Text.Blank
import ScriptLint.Text.CellWidth
import ScriptLint.Text.CharName
import ScriptLint.Text.CharName.AToC
import ScriptLint.Text.CharName.DToM
import ScriptLint.Text.CharName.NToZ
import ScriptLint.Text.CharRange
import ScriptLint.Text.Digit
import ScriptLint.Text.LetterCase
import ScriptLint.Text.Lines
import ScriptLint.Text.LowerCase
import ScriptLint.Text.Name
import ScriptLint.Text.Printable
import ScriptLint.Text.Quoted
import ScriptLint.Text.Slice
import ScriptLint.Text.Utf16
import ScriptLint.Text.Utf8
import ScriptLint.Text.WordChar
import ScriptLint.Tree.Node
import ScriptLint.Tree.Place
import ScriptLint.Tree.Scope
import ScriptLint.Tree.Walk
import ScriptLint.Value.Basic
import ScriptLint.Value.Literal
import ScriptLint.Workspace.Basic
import ScriptLint.Workspace.Enumeration
import ScriptLint.Workspace.Event
