import SoundSheet.Main
import SoundSheet.Proofs.Address.Names
import SoundSheet.Proofs.Formula.Precedence
import SoundSheet.Proofs.Formula.Nesting
import SoundSheet.Proofs.Formula.Raw
import SoundSheet.Proofs.Formula.ScriptFree
import SoundSheet.Proofs.Bus.Matching
import SoundSheet.Proofs.Bus.Plan
import SoundSheet.Proofs.Sheet.Run
import SoundSheet.Proofs.Sheet.Pass
import SoundSheet.Proofs.Sheet.Meaning
import SoundSheet.Proofs.Sheet.Afresh
import SoundSheet.Proofs.Sheet.Requests
import SoundSheet.Proofs.Sheet.CallStack
import SoundSheet.Proofs.Sheet.Termination
import SoundSheet.Proofs.Sheet.Renaming
import SoundSheet.Proofs.Sheet.Operations
import SoundSheet.Proofs.Sheet.Orderly
import SoundSheet.Proofs.Document.Operations
import SoundSheet.Proofs.Bus.Course
import SoundSheet.Proofs.Bus.FanOut
import SoundSheet.Proofs.Bus.Origin
import SoundSheet.Proofs.Sheet.Buses
import SoundSheet.Proofs.Sheet.Voices
import SoundSheet.Proofs.Sheet.Circular
import SoundSheet.Proofs.Sheet.Refusals
import SoundSheet.Proofs.Sheet.Settling
import SoundSheet.Proofs.Formula.Relaying
import SoundSheet.Proofs.Formula.Arguments
import SoundSheet.Proofs.Formula.Emissions
import SoundSheet.Proofs.Sheet.Chronicle
import SoundSheet.Proofs.Sheet.Cycles
import SoundSheet.Proofs.Formula.Tokens
import SoundSheet.Proofs.Formula.Writing
import SoundSheet.Proofs.Formula.CallTree
import SoundSheet.Proofs.Formula.NestingLimit
import SoundSheet.Proofs.Document.Failures
import SoundSheet.Proofs.Sheet.ScriptFree
import SoundSheet.Proofs.Document.Modified
import SoundSheet.Proofs.Document.Functions
import SoundSheet.Proofs.Json.Reading
import SoundSheet.Proofs.Files
import SoundSheet.Proofs.Document.SheetFile
import SoundSheet.Proofs.Document.Saving
import SoundSheet.Proofs.Sheet.OneRenaming
import SoundSheet.Proofs.Sheet.Trial
import SoundSheet.Proofs.Document.Trial
import SoundSheet.Proofs.Sheet.Lookups
import SoundSheet.Proofs.Sheet.Writes
import SoundSheet.Proofs.Sheet.Origins
import SoundSheet.Proofs.Formula.Roles
import SoundSheet.Proofs.Sheet.WriteBack
import SoundSheet.Proofs.Script.Mention
import SoundSheet.Proofs.Formula.Code
import SoundSheet.Proofs.Formula.Scripts
import SoundSheet.Proofs.Sheet.Scripts
import SoundSheet.Proofs.Formula.NestedScripts
import SoundSheet.Proofs.Document.Relocation
import SoundSheet.Proofs.Formula.ArgumentRuns
import SoundSheet.Proofs.Formula.CallForm
import SoundSheet.Proofs.Document.Table
import SoundSheet.Proofs.Document.Loading
import SoundSheet.Proofs.Formula.Layout
import SoundSheet.Proofs.Formula.Strings
import SoundSheet.Proofs.Sheet.Extraction
import SoundSheet.Proofs.Sheet.QuotedTexts
import SoundSheet.Proofs.Formula.Stacks
import SoundSheet.Proofs.Decimal.Literal
import SoundSheet.Proofs.Decimal.Prefix
import SoundSheet.Proofs.Script.NumberTexts
import SoundSheet.Proofs.Decimal.Rounding
import SoundSheet.Proofs.Decimal.Doubles
import SoundSheet.Proofs.Decimal.Shortest
import SoundSheet.Proofs.Decimal.Nearness
import SoundSheet.Proofs.Json.Numbers
import SoundSheet.Proofs.Json.Scaling
import SoundSheet.Proofs.Json.StoredDoubles
import SoundSheet.Proofs.Document.SavedTempo
import SoundSheet.Proofs.Music.Spelling
