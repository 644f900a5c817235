import LogDiagram.Config.Sample
import LogDiagram.Job.Basic
import LogDiagram.Main
import LogDiagram.Program
import LogDiagram.Settings.File
import LogDiagram.Shell.Run
import LogDiagram.Text.Preview
import LogDiagram.Proofs.Buffer.Tallies
import LogDiagram.Proofs.Job.Outcome
import LogDiagram.Proofs.Pairs.Answers
import LogDiagram.Proofs.Drawing.Replacements
import LogDiagram.Proofs.Config.Defects
import LogDiagram.Proofs.Path.Names
import LogDiagram.Proofs.Storage.Changes
import LogDiagram.Proofs.Job.Safekeeping
import LogDiagram.Proofs.Bytes.Utf8
import LogDiagram.Proofs.Storage.Ways
import LogDiagram.Proofs.Storage.Rewriting
import LogDiagram.Proofs.Job.Reruns
import LogDiagram.Proofs.Pairs.Independence
import LogDiagram.Proofs.Storage.Failing
import LogDiagram.Proofs.Job.FailedRuns
import LogDiagram.Proofs.Json.Records
import LogDiagram.Proofs.Config.Written
import LogDiagram.Proofs.Config.QuotedTables
import LogDiagram.Proofs.Config.RuleTables
import LogDiagram.Proofs.Buffer.Conservation
import LogDiagram.Proofs.Pairs.Idempotence
import LogDiagram.Proofs.Bytes.Offsets
import LogDiagram.Proofs.Rule.Captures
import LogDiagram.Proofs.Rule.Templates
import LogDiagram.Proofs.Config.Selection
import LogDiagram.Proofs.Path.Expanding
import LogDiagram.Proofs.Config.AnyTable
import LogDiagram.Proofs.Config.RepeatedKeys
import LogDiagram.Proofs.Storage.Replacement
import LogDiagram.Proofs.Storage.BrokenCopies
import LogDiagram.Proofs.Job.TrustedCopies
import LogDiagram.Proofs.Job.Touching
import LogDiagram.Proofs.Command.Chains
import LogDiagram.Proofs.Program.ExitCodes
import LogDiagram.Proofs.Job.Reading
import LogDiagram.Proofs.Regex.Literals
import LogDiagram.Proofs.Path.Parts
import LogDiagram.Proofs.Rule.CountPlaces
import LogDiagram.Proofs.Settings.Keys
import LogDiagram.Proofs.Text.Previews
import LogDiagram.Proofs.Shell.CommandLines
import LogDiagram.Proofs.Shell.Enclosing
import LogDiagram.Proofs.Shell.Formulas
import LogDiagram.Proofs.Shell.Patterns
import LogDiagram.Proofs.Shell.Quoting
import LogDiagram.Proofs.Shell.Searching
import LogDiagram.Proofs.Shell.SharedLines
