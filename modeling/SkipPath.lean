import SkipPath.Command.Reach
import SkipPath.Main
import SkipPath.Watch.Poll
import SkipPath.Proofs.Workspace.Begin
import SkipPath.Proofs.Registry.Ticket
import SkipPath.Proofs.Workspace.Run
import SkipPath.Proofs.Workspace.Course
import SkipPath.Proofs.Registry.LastRequest
import SkipPath.Proofs.Registry.Consistent
import SkipPath.Proofs.Registry.Unpublished
import SkipPath.Proofs.Export.Script
import SkipPath.Proofs.Export.Agreement
import SkipPath.Proofs.Export.CommandLine
import SkipPath.Proofs.Export.Option
import SkipPath.Proofs.Export.Sharing
import SkipPath.Proofs.Export.Necessity
import SkipPath.Proofs.Regex.Alternation
import SkipPath.Proofs.Regex.Brackets
import SkipPath.Proofs.Glob.Classes
import SkipPath.Proofs.Glob.Meaning
import SkipPath.Proofs.Glob.Translation
import SkipPath.Proofs.Glob.Plain
import SkipPath.Proofs.Glob.Named
import SkipPath.Proofs.Glob.Escapes
import SkipPath.Proofs.Glob.Outcome
import SkipPath.Proofs.Glob.Blanks
import SkipPath.Proofs.Glob.Delimited
import SkipPath.Proofs.Glob.Stripping
import SkipPath.Proofs.Gitignore.Conversion
import SkipPath.Proofs.Gitignore.Dotted
import SkipPath.Proofs.Gitignore.Broad
import SkipPath.Proofs.Fragment.Parts
import SkipPath.Proofs.Fragment.Separators
import SkipPath.Proofs.Fragment.Preserved
import SkipPath.Proofs.Fragment.Compiles
import SkipPath.Proofs.Profile.Tally
import SkipPath.Proofs.Profile.Exemption
import SkipPath.Proofs.Profile.Refusal
import SkipPath.Proofs.Profile.Validity
import SkipPath.Proofs.Profile.Omission
import SkipPath.Proofs.Profile.Issues
import SkipPath.Proofs.Loader.Lines
import SkipPath.Proofs.Watch.Debounce
import SkipPath.Proofs.Command.Division
import SkipPath.Proofs.Export.Replacement
import SkipPath.Proofs.Export.Batch
import SkipPath.Proofs.Command.Settings
import SkipPath.Proofs.Profile.LineEnds
