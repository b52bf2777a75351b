import TokenForest.Text.Ranges.Blank
import TokenForest.Text.Ranges.Letter
import TokenForest.Text.Ranges.Number
import TokenForest.Text.Ranges.Printable
import TokenForest.Text.Source
import TokenForest.Value
import TokenForest.Entries
import TokenForest.Pattern.Match
import TokenForest.Pattern.Reader
import TokenForest.Toml.Reader
import TokenForest.Config.Document
import TokenForest.Precedence
import TokenForest.Lexer.Basic
import TokenForest.Grouping.Shared
import TokenForest.Grouping.Row
import TokenForest.Dump
import TokenForest.Handler
import TokenForest.Diagnostics
import TokenForest.Editor
import TokenForest.Command.Run
import TokenForest.Main
import TokenForest.Proofs.Lexer.Coverage
import TokenForest.Proofs.Grouping.Feeding
import TokenForest.Proofs.Lexer.Drawing
import TokenForest.Proofs.Lexer.Operation
import TokenForest.Proofs.Lexer.Session
import TokenForest.Proofs.Grouping.Relabeling
import TokenForest.Proofs.Grouping.Sharing
import TokenForest.Proofs.Grouping.Balance
import TokenForest.Proofs.Grouping.Outcome
import TokenForest.Proofs.Lexer.Undoing
import TokenForest.Proofs.Lexer.Batch
import TokenForest.Proofs.Lexer.Parting
import TokenForest.Proofs.Grouping.Completion
import TokenForest.Proofs.Lexer.Strictness
import TokenForest.Proofs.Text.Lines
import TokenForest.Proofs.Lexer.Extension
import TokenForest.Proofs.Lexer.Finality
import TokenForest.Proofs.Config.Registration
import TokenForest.Proofs.Config.Reading
import TokenForest.Proofs.Text.Stepping
import TokenForest.Proofs.Lexer.Evaluation
import TokenForest.Proofs.Dump
import TokenForest.Proofs.Lexer.Excerpt
import TokenForest.Proofs.Diagnostics
import TokenForest.Proofs.Files
import TokenForest.Proofs.Config.Loading
import TokenForest.Proofs.Command.Resolution
import TokenForest.Proofs.Command.Outcome
import TokenForest.Proofs.Command.Agreement
import TokenForest.Proofs.Command.Misconfiguration
import TokenForest.Proofs.Grouping.Gaining
import TokenForest.Proofs.Grouping.Interruption
import TokenForest.Proofs.Grouping.Residue
import TokenForest.Proofs.Command.Spelling
import TokenForest.Proofs.Command.Layers
import TokenForest.Proofs.Grouping.Nesting
import TokenForest.Proofs.Grouping.Arrangement
import TokenForest.Proofs.Grouping.Reopening
import TokenForest.Proofs.Lexer.Registry
import TokenForest.Proofs.Lexer.Resuming
import TokenForest.Proofs.Lexer.Literal
import TokenForest.Proofs.Precedence
import TokenForest.Proofs.Text.Window
import TokenForest.Proofs.Text.Columns
import TokenForest.Proofs.Range
import TokenForest.Text.Case
import TokenForest.Text.Ranges.Name
