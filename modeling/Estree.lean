import Estree.Arena.Label
import Estree.Arena.Reading
import Estree.Walk.Trace
import Estree.Outline.Text
import Estree.Progress.Recording
import Estree.Output.Structured
import Estree.Stats.Text
import Estree.Progress.Session
import Estree.Search
import Estree.Unicode.Newest
import Estree.Unicode.Case
import Estree.Regex.Reading
import Estree.Files.Folder
import Estree.Files.NamePattern
import Estree.Files.IgnoreRule
import Estree.Files.FolderRules
import Estree.Files.Discovery
import Estree.Document
import Estree.Console
import Estree.Survey
import Estree.CommandLine.Help
import Estree.CommandLine.Run
import Estree.Main
import Estree.Proofs.Dict
import Estree.Proofs.Arena.Nodes
import Estree.Proofs.Arena.Document
import Estree.Proofs.Arena.Loading
import Estree.Proofs.Walk.Traversal
import Estree.Proofs.Outline.Listing
import Estree.Proofs.Progress.Completion
import Estree.Proofs.Arena.Rebuild
import Estree.Proofs.Arena.Tree
import Estree.Proofs.Arena.Fields
import Estree.Proofs.Walk.Parents
import Estree.Proofs.Walk.Reached
import Estree.Proofs.Walk.Coverage
import Estree.Proofs.Walk.Lockstep
import Estree.Proofs.Outline.Quiet
import Estree.Proofs.Progress.Wiring
import Estree.Proofs.Progress.Consistency
import Estree.Proofs.Survey.FailFast
import Estree.Proofs.Progress.Order
import Estree.Proofs.Walk.Calls
import Estree.Proofs.Walk.OpenPath
import Estree.Proofs.Walk.Reparented
import Estree.Proofs.Stats.Counting
import Estree.Proofs.Json.Reading
import Estree.Proofs.Outline.Agreement
import Estree.Proofs.Survey.ExitCode
import Estree.Proofs.Outline.Reports
import Estree.Proofs.Outline.Cancellation
import Estree.Proofs.Walk.Placeholders
import Estree.Proofs.Progress.Climbing
import Estree.Proofs.Progress.Nesting
import Estree.Proofs.Progress.Building
import Estree.Proofs.Progress.Flattening
import Estree.Proofs.Outline.WithinTotal
import Estree.Proofs.Outline.Forest
import Estree.Proofs.Outline.Hiding
import Estree.Proofs.Walk.Ending
import Estree.Proofs.Walk.Remains
import Estree.Proofs.Progress.Finishing
import Estree.Proofs.Progress.Fractions
import Estree.Proofs.Progress.Row
import Estree.Proofs.Outline.Lines
import Estree.Proofs.Outline.Bounded
import Estree.Proofs.Outline.Accounting
import Estree.Proofs.Survey.Summary
import Estree.Proofs.Stats.Adding
import Estree.Proofs.Progress.Redrawing
import Estree.Proofs.Arena.Slots
import Estree.Proofs.Arena.Numbering
import Estree.Proofs.Styled
import Estree.Proofs.Files.Folder
import Estree.Proofs.Files.Discovery
import Estree.Proofs.Stats.Grouping
import Estree.Proofs.Outline.Frames
import Estree.Proofs.Progress.Relays
import Estree.Proofs.Progress.RelayNotes
import Estree.Proofs.Progress.Transparency
