import MarkerSweep.Cleaner
import MarkerSweep.Command
import MarkerSweep.CommandLine.Help
import MarkerSweep.CommandLine.Misuse
import MarkerSweep.CommandLine.Parameter
import MarkerSweep.CommandLine.Settings
import MarkerSweep.Decimal
import MarkerSweep.Diff.Compact
import MarkerSweep.Diff.Compare
import MarkerSweep.Diff.Edit
import MarkerSweep.Diff.Frontier
import MarkerSweep.Diff.Hunk
import MarkerSweep.Engine
import MarkerSweep.Failure
import MarkerSweep.FileTree
import MarkerSweep.Log
import MarkerSweep.LogFilter
import MarkerSweep.Main
import MarkerSweep.Memory
import MarkerSweep.Output.Diff
import MarkerSweep.Output.Message
import MarkerSweep.Output.Status
import MarkerSweep.Output.Summary
import MarkerSweep.Path
import MarkerSweep.Pattern.Ast
import MarkerSweep.Pattern.Bracket
import MarkerSweep.Pattern.Error
import MarkerSweep.Pattern.Escape
import MarkerSweep.Pattern.Expr
import MarkerSweep.Pattern.Footprint
import MarkerSweep.Pattern.Meaning
import MarkerSweep.Pattern.Parser
import MarkerSweep.Pattern.Position
import MarkerSweep.Pattern.Program
import MarkerSweep.Pattern.Reader
import MarkerSweep.Pattern.Regex
import MarkerSweep.Pattern.Search
import MarkerSweep.Program
import MarkerSweep.Rule.Basic
import MarkerSweep.Rule.Builtin
import MarkerSweep.Rule.Cache
import MarkerSweep.Rule.Compiled
import MarkerSweep.Rule.Digest
import MarkerSweep.Rule.Load
import MarkerSweep.Sink
import MarkerSweep.Text.Lines
import MarkerSweep.Text.Printable
import MarkerSweep.Text.Quoted
import MarkerSweep.Text.Similarity
import MarkerSweep.Text.Utf8
import MarkerSweep.Theme.Basic
import MarkerSweep.Theme.Color
import MarkerSweep.Theme.Load
import MarkerSweep.Unicode.Age
import MarkerSweep.Unicode.Break
import MarkerSweep.Unicode.Category
import MarkerSweep.Unicode.CharSet
import MarkerSweep.Unicode.Classes
import MarkerSweep.Unicode.Fold
import MarkerSweep.Unicode.Lowercase
import MarkerSweep.Unicode.Names
import MarkerSweep.Unicode.Property
import MarkerSweep.Unicode.Query
import MarkerSweep.Unicode.RunLength
import MarkerSweep.Unicode.Script
import MarkerSweep.Unicode.ScriptExtension
import MarkerSweep.Yaml.Cursor
import MarkerSweep.Yaml.Decode
import MarkerSweep.Yaml.Directive
import MarkerSweep.Yaml.Document
import MarkerSweep.Yaml.Error
import MarkerSweep.Yaml.Event
import MarkerSweep.Yaml.Event.Grammar
import MarkerSweep.Yaml.Scalar.Basic
import MarkerSweep.Yaml.Scalar.Block
import MarkerSweep.Yaml.Scalar.Plain
import MarkerSweep.Yaml.Scalar.Quoted
import MarkerSweep.Yaml.Schema
import MarkerSweep.Yaml.Tag
import MarkerSweep.Yaml.Token
import MarkerSweep.Yaml.Token.Scan
import MarkerSweep.Proofs.Pattern.Anchors
import MarkerSweep.Proofs.Pattern.Ends
import MarkerSweep.Proofs.Pattern.Layout
import MarkerSweep.Proofs.Pattern.Trial
import MarkerSweep.Proofs.Pattern.Search
import MarkerSweep.Proofs.Pattern.Reach
import MarkerSweep.Proofs.Rule.Imprint
import MarkerSweep.Proofs.Rule.Accepted
import MarkerSweep.Proofs.Rule.Loading
import MarkerSweep.Proofs.Rule.Rejected
import MarkerSweep.Proofs.Rule.Sharing
import MarkerSweep.Proofs.Rule.Table
import MarkerSweep.Proofs.Rule.Cuts
import MarkerSweep.Proofs.Rule.Successive
import MarkerSweep.Proofs.Rule.Sweep
import MarkerSweep.Proofs.Marker.Spaced
import MarkerSweep.Proofs.Marker.Basic
import MarkerSweep.Proofs.Marker.Lines
import MarkerSweep.Proofs.Marker.Removal
import MarkerSweep.Proofs.Clean.Stages
import MarkerSweep.Proofs.Clean.OneByOne
import MarkerSweep.Proofs.Marker.Words
import MarkerSweep.Proofs.Clean.KeptLines
import MarkerSweep.Proofs.Clean.MarkerLines
import MarkerSweep.Proofs.Clean.Twice
import MarkerSweep.Proofs.Marker.Whole
import MarkerSweep.Proofs.Clean.PlainLines
import MarkerSweep.Proofs.Clean.Deletion
import MarkerSweep.Proofs.Clean.BlankLines
import MarkerSweep.Proofs.Pattern.Context
import MarkerSweep.Proofs.Marker.BlockComment
import MarkerSweep.Proofs.Marker.CodeLines
import MarkerSweep.Proofs.Marker.Matches
import MarkerSweep.Proofs.Marker.Disjoint
import MarkerSweep.Proofs.Marker.Statement
import MarkerSweep.Proofs.Clean.Unmarked
import MarkerSweep.Proofs.Clean.Locality
import MarkerSweep.Proofs.Store.Cleaning
import MarkerSweep.Proofs.Store.FileTree
import MarkerSweep.Proofs.Store.Disk
import MarkerSweep.Proofs.Store.Memory
import MarkerSweep.Proofs.Store.Runs
import MarkerSweep.Proofs.Store.Foretold
import MarkerSweep.Proofs.Output.Printing
import MarkerSweep.Proofs.Program.Endings
import MarkerSweep.Proofs.Program.Streams
import MarkerSweep.Proofs.Program.Reporting
import MarkerSweep.Proofs.Diff.Script
import MarkerSweep.Proofs.Diff.Termination
import MarkerSweep.Proofs.Diff.Hunks
import MarkerSweep.Proofs.Diff.Patch
import MarkerSweep.Proofs.Output.Colors
import MarkerSweep.Proofs.Yaml.Reading
import MarkerSweep.Proofs.Theme.Overlay
