import GotoTape.Action
import GotoTape.BracketMap
import GotoTape.Command.Crates
import GotoTape.Command.Host
import GotoTape.Command.Linked
import GotoTape.Command.LogFilter
import GotoTape.Command.Options
import GotoTape.Command.Session
import GotoTape.Command.Usage
import GotoTape.Countdown
import GotoTape.Diagnostic
import GotoTape.Execution
import GotoTape.Fault
import GotoTape.Highlight
import GotoTape.Input
import GotoTape.Interpreter
import GotoTape.LabelTable
import GotoTape.Lexeme
import GotoTape.Limits
import GotoTape.Log
import GotoTape.Machine
import GotoTape.Main
import GotoTape.Output
import GotoTape.Pattern
import GotoTape.Pattern.CharSet
import GotoTape.Pattern.Compile
import GotoTape.Pattern.Error
import GotoTape.Pattern.Expr
import GotoTape.Pattern.Footprint
import GotoTape.Pattern.Match
import GotoTape.Pattern.Parse
import GotoTape.Pattern.Property
import GotoTape.Pattern.Syntax
import GotoTape.Pattern.Utf8Ranges
import GotoTape.Program
import GotoTape.Proofs.Alignment
import GotoTape.Proofs.Code
import GotoTape.Proofs.Control
import GotoTape.Proofs.Erase
import GotoTape.Proofs.EraseRun
import GotoTape.Proofs.FaultSite
import GotoTape.Proofs.Instructions
import GotoTape.Proofs.Labels
import GotoTape.Proofs.Lexing
import GotoTape.Proofs.Loop
import GotoTape.Proofs.Nesting
import GotoTape.Proofs.Pairing
import GotoTape.Proofs.Partners
import GotoTape.Proofs.Prescan
import GotoTape.Proofs.Registry
import GotoTape.Proofs.Session
import GotoTape.Proofs.Settings
import GotoTape.Proofs.Stores
import GotoTape.Proofs.Structured
import GotoTape.Proofs.Termination
import GotoTape.Proofs.Tiling
import GotoTape.Proofs.Trace
import GotoTape.Proofs.Window
import GotoTape.Settings
import GotoTape.Settings.Color
import GotoTape.Settings.Sections
import GotoTape.Tape
import GotoTape.Terminal.Editor
import GotoTape.Terminal.History
import GotoTape.Terminal.Key
import GotoTape.Terminal.LineBuffer
import GotoTape.Text.Blank
import GotoTape.Text.CaseMap
import GotoTape.Text.Count
import GotoTape.Text.Grapheme
import GotoTape.Text.Printable
import GotoTape.Text.Quoted
import GotoTape.Text.RangeMap
import GotoTape.Text.Utf8
import GotoTape.Text.WordBreak
import GotoTape.Ucd.Age
import GotoTape.Ucd.Aliases
import GotoTape.Ucd.Binary
import GotoTape.Ucd.Breaks
import GotoTape.Ucd.CaseFolding
import GotoTape.Ucd.Category
import GotoTape.Ucd.RangeTable
import GotoTape.Ucd.Script
import GotoTape.Ucd.ScriptExtensions
