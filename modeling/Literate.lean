import Literate.Text.Basic
import Literate.About
import Literate.Bisect
import Literate.Decimal
import Literate.Datum
import Literate.Text.Symbol
import Literate.Unicode.Span
import Literate.Unicode.Folding
import Literate.Unicode.LetterCase
import Literate.Text.Case
import Literate.Word
import Literate.Text.Digits
import Literate.Cli.Flag
import Literate.Path
import Literate.Disk
import Literate.Programs
import Literate.Unicode.Category.Letter
import Literate.Unicode.Category.Mark
import Literate.Unicode.Category.Number
import Literate.Unicode.Category.Other
import Literate.Unicode.Category.Punctuation
import Literate.Unicode.Category.Sign
import Literate.Unicode.Category
import Literate.Text.Quoted
import Literate.Json.Quoted
import Literate.Log.Value
import Literate.Text.Space
import Literate.Log.Level
import Literate.Log.Time
import Literate.Log.Plain
import Literate.Unicode.Grapheme.Table
import Literate.Unicode.Grapheme
import Literate.Unicode.Width
import Literate.Text.Width
import Literate.Log.Pretty
import Literate.Log.Logger
import Literate.Host
import Literate.Cli.Logging
import Literate.Ref
import Literate.Element
import Literate.Directive
import Literate.Failure
import Literate.Repository
import Literate.Sort
import Literate.Request
import Literate.Web
import Literate.Text.Replace
import Literate.Yaml.Timestamp
import Literate.Yaml.Scalar
import Literate.Command.Init
import Literate.Scan
import Literate.Command.Sources
import Literate.SearchPath
import Literate.Command.Input
import Literate.Filter.Expr
import Literate.Summary
import Literate.Filter.Value
import Literate.Filter.Nature
import Literate.Filter.Signature
import Literate.Filter.Token
import Literate.Filter.Syntax
import Literate.Filter.Term
import Literate.Regex.Basic
import Literate.Unicode.Script.AToF
import Literate.Unicode.Script.GToL
import Literate.Unicode.Script.MToR
import Literate.Unicode.Script.SToZ
import Literate.Unicode.Script
import Literate.Regex.Property
import Literate.Regex.Parser
import Literate.Filter.Typing
import Literate.Filter.Lookup
import Literate.Json.Reader
import Literate.Text.Base64
import Literate.Filter.Json
import Literate.Filter.Written
import Literate.Power
import Literate.Filter.Simplify
import Literate.Filter.Code
import Literate.Decimal.Reader
import Literate.Log.Moment
import Literate.Filter.Calculation
import Literate.Filter.Method
import Literate.Quicksort
import Literate.Filter.Function
import Literate.Filter.Machine
import Literate.Listing
import Literate.Command.List
import Literate.Suggest
import Literate.Expand
import Literate.Render
import Literate.Shell.Syntax
import Literate.Shell.Arithmetic
import Literate.Shell.Condition
import Literate.Shell.Field
import Literate.Shell.Escape
import Literate.Shell.Tool
import Literate.Shell.Print
import Literate.Shell.Session
import Literate.Shell.Signal
import Literate.Shell.Builtin
import Literate.Shell.Pattern
import Literate.Shell.Token
import Literate.Shell.Reader
import Literate.Shell.Tool.Arrange
import Literate.Shell.Tool.Copy
import Literate.Shell.Tool.Count
import Literate.Shell.Tool.Replace
import Literate.Shell.Run
import Literate.Sink
import Literate.Dispatch
import Literate.Command.Run
import Literate.Yaml.Plain
import Literate.Yaml.Token
import Literate.Yaml.Buffer
import Literate.Yaml.Block
import Literate.Yaml.Quoted
import Literate.Yaml.Lexer
import Literate.Yaml.Group
import Literate.Yaml.Node
import Literate.Yaml.Reader
import Literate.Config
import Literate.Cli.Options
import Literate.Cli.Arguments
import Literate.Cli
import Literate.Main
import Literate.Proofs.Repository
import Literate.Proofs.Call
import Literate.Proofs.Transcript
import Literate.Proofs.Documents
import Literate.Proofs.OpenNames
import Literate.Proofs.FanOut
import Literate.Proofs.Queue
import Literate.Proofs.Failure
import Literate.Proofs.Flattening
import Literate.Proofs.Expansion
import Literate.Proofs.Invariant
import Literate.Proofs.Meaning
import Literate.Proofs.Cycles
import Literate.Proofs.Phases
import Literate.Proofs.Desk
import Literate.Proofs.Inclusion
import Literate.Proofs.Relocation
import Literate.Proofs.Concatenation
import Literate.Proofs.Inlining
import Literate.Proofs.Disks
import Literate.Proofs.Sinks
import Literate.Proofs.Permission
import Literate.Proofs.Representation
import Literate.Proofs.Resumption
import Literate.Proofs.Faults
import Literate.Proofs.Agenda
import Literate.Proofs.Placement
import Literate.Proofs.Trails
import Literate.Proofs.Bench
import Literate.Proofs.Depth
import Literate.Proofs.Passage
import Literate.Proofs.Regions
import Literate.Proofs.Continuation
import Literate.Proofs.Unambiguity
import Literate.Proofs.PhysicalLines
import Literate.Proofs.Capture
import Literate.Proofs.Outside
import Literate.Proofs.Suppression
import Literate.Proofs.LineEndings
import Literate.Proofs.Whereabouts
import Literate.Proofs.Tally
import Literate.Proofs.Inputs
import Literate.Proofs.Configuration
import Literate.Proofs.Unchanged
import Literate.Proofs.Spelling
import Literate.Proofs.Naming
import Literate.Proofs.Kinship
import Literate.Proofs.JsonText
import Literate.Proofs.Numerals
import Literate.Proofs.Rounding
import Literate.Proofs.Quotation
import Literate.Proofs.LogValues
import Literate.Proofs.LogObjects
import Literate.Proofs.LogLines
import Literate.Proofs.LineFeeds
import Literate.Proofs.OrderedRegex
import Literate.Proofs.Keywords
