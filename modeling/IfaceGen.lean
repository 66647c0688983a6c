import IfaceGen.Builder
import IfaceGen.Cli.Arguments
import IfaceGen.Cli.Environment
import IfaceGen.Cli.LogFilter
import IfaceGen.Cli.LogText
import IfaceGen.Cli.Session
import IfaceGen.Cli.Starter
import IfaceGen.Config.Basic
import IfaceGen.Config.Check
import IfaceGen.Config.Read
import IfaceGen.Data.Basic
import IfaceGen.Data.Record
import IfaceGen.Diagnostic
import IfaceGen.Disk.Access
import IfaceGen.Disk.Node
import IfaceGen.Disk.Path
import IfaceGen.Disk.Tree
import IfaceGen.FileWriter
import IfaceGen.Generate.Error
import IfaceGen.Generate.Event
import IfaceGen.Generate.Plan
import IfaceGen.Generate.Run
import IfaceGen.Ident
import IfaceGen.ImportTable
import IfaceGen.Json.Number
import IfaceGen.Json.Parser
import IfaceGen.Layout.Expr
import IfaceGen.Layout.File
import IfaceGen.Layout.Piece
import IfaceGen.Layout.Signal
import IfaceGen.Log
import IfaceGen.Main
import IfaceGen.MethodSet.Closure
import IfaceGen.MethodSet.Collector
import IfaceGen.MethodSet.Descriptor
import IfaceGen.MethodSet.Scope
import IfaceGen.MethodSet.Search
import IfaceGen.Models
import IfaceGen.Package.Basic
import IfaceGen.Package.Codec
import IfaceGen.Pattern.Basic
import IfaceGen.Pattern.Bracket
import IfaceGen.Pattern.CharSet
import IfaceGen.Pattern.Escape
import IfaceGen.Pattern.Flags
import IfaceGen.Pattern.Parser
import IfaceGen.Spelling.Basic
import IfaceGen.Spelling.Error
import IfaceGen.Syntax.Expr
import IfaceGen.Syntax.File
import IfaceGen.Text.Alphabetic
import IfaceGen.Text.Blank
import IfaceGen.Text.DoubleRange
import IfaceGen.Text.Extender
import IfaceGen.Text.Hex
import IfaceGen.Text.Numeral
import IfaceGen.Text.Quoted
import IfaceGen.Text.Ranges
import IfaceGen.Text.Rest
import IfaceGen.Text.Split
import IfaceGen.Text.Terminal
import IfaceGen.Text.Unprintable
import IfaceGen.Text.Uppercase
import IfaceGen.Toml.Document
import IfaceGen.Toml.Number
import IfaceGen.Toml.Token
import IfaceGen.Toml.Value
import IfaceGen.Types.Basic
import IfaceGen.Types.Codec
import IfaceGen.Types.Equality
import IfaceGen.Types.Refs
import IfaceGen.Types.Subst
import IfaceGen.Proofs.Types.FreeParams
import IfaceGen.Proofs.Package
import IfaceGen.Proofs.MethodSet.Embedding
import IfaceGen.Proofs.MethodSet.Interface
import IfaceGen.Proofs.MethodSet.Memory
import IfaceGen.Proofs.MethodSet.Merging
import IfaceGen.Proofs.MethodSet.Selector
import IfaceGen.Proofs.MethodSet.Promotion
import IfaceGen.Proofs.MethodSet.Reach
import IfaceGen.Proofs.MethodSet.Hygiene
import IfaceGen.Proofs.MethodSet.Agreement
import IfaceGen.Proofs.Imports.Aliases
import IfaceGen.Proofs.Except
import IfaceGen.Proofs.Spelling.Mentions
import IfaceGen.Proofs.Imports.Build
import IfaceGen.Proofs.Imports.References
import IfaceGen.Proofs.Imports.Capture
import IfaceGen.Proofs.Disk.Frame
import IfaceGen.Proofs.Generate.Overwriting
import IfaceGen.Proofs.Generate.Protocol
import IfaceGen.Proofs.Generate.Independence
import IfaceGen.Proofs.Spelling.Canonical
import IfaceGen.Proofs.Spelling.Reading
import IfaceGen.Proofs.Layout.Tokens
import IfaceGen.Proofs.Layout.Unambiguous
import IfaceGen.Proofs.MethodSet.Iteration
import IfaceGen.Proofs.MethodSet.Shuffle
import IfaceGen.Proofs.Generate.Order
import IfaceGen.Proofs.Generate.DryRun
import IfaceGen.Proofs.Imports.Qualifiers
import IfaceGen.Proofs.Spelling.Culprit
import IfaceGen.Proofs.Data.Record
import IfaceGen.Proofs.Generate.Formatting
import IfaceGen.Proofs.Types.Editing
import IfaceGen.Proofs.Types.Nesting
import IfaceGen.Proofs.Types.RoundTrip
import IfaceGen.Proofs.MethodSet.Preorder
import IfaceGen.Proofs.Spelling.Instantiation
import IfaceGen.Proofs.MethodSet.Termination
import IfaceGen.Proofs.Layout.Heads
import IfaceGen.Proofs.Imports.Organizing
import IfaceGen.Proofs.Disk.Walk
import IfaceGen.Proofs.Models
import IfaceGen.Proofs.Layout.Colors
import IfaceGen.Proofs.Layout.Document
import IfaceGen.Proofs.Layout.Rendering
import IfaceGen.Proofs.MethodSet.History
import IfaceGen.Proofs.Types.Composition
import IfaceGen.Proofs.Config.Destinations
