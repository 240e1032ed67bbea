import SoundSheet.FormulaError
import SoundSheet.Files

/-!
# Why a document operation fails

The causes of what can go wrong with a document beyond its formulas: its files,
the form of a sheet that is read, and values that a document refuses.
-/

namespace SoundSheet

/-- **What is wrong with a grid**. -/
inductive GridFault where
  /-- A sheet file has a grid without rows. -/
  | noRows
  /-- A grid has no rows, or only rows without cells. -/
  | noCells
  deriving DecidableEq, Repr

/-- The wording of a fault of a grid. -/
def GridFault.message : GridFault → String
  | noRows => "grid has no rows"
  | noCells => "grid has no cells"

/-- **Why a document operation fails**. -/
inductive DocumentError where
  /-- A file cannot be read or written. -/
  | file (e : FileError)
  /-- A text is not a sheet file. -/
  | malformed
  /-- There is no file to save to. -/
  | noFile
  /-- A grid is refused. -/
  | badGrid (fault : GridFault)
  /-- A tempo is not a finite positive number. -/
  | badTempo (bpm : Float)
  /-- A cell cannot be changed. -/
  | evaluation (e : FormulaError)
  /-- The functions are not a script. -/
  | badFunctions (message : String)
  deriving DecidableEq

namespace DocumentError

/-- What is said of a text that is not a sheet file. -/
def malformedMessage : String := "the text does not have the form of a sheet"

/-- **The wording of a document error**. -/
def message : DocumentError → String
  | file e => "IO error: " ++ e.message
  | malformed => "JSON error: " ++ malformedMessage
  | noFile => "No file path set"
  | badGrid fault => "Invalid grid: " ++ fault.message
  | badTempo bpm => "Invalid tempo: " ++ Decimal.toText bpm
  | evaluation e => e.message
  | badFunctions message => "Rhai compile error: Error in custom functions: " ++ message

/-- **The wordings from an error down to the failure that it wraps**. -/
def chain (e : DocumentError) : List String :=
  e.message ::
    match e with
    | file e => [e.message]
    | malformed => [malformedMessage]
    | evaluation e => [e.message]
    | _ => []

end DocumentError

end SoundSheet
