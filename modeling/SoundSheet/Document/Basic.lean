import SoundSheet.Document.SheetFile
import SoundSheet.Document.Table
import SoundSheet.Sheet.Pass
import SoundSheet.Text.Blank

/-!
# Documents

A document is a sheet that is being worked on: the file that it is kept in,
whether it has changed since it was last read or saved, and the files of script
functions that it uses. Every edit evaluates the sheet before it is over. Only a
change of the playback time waits for the next evaluation.
-/

namespace SoundSheet

open SoundSheet.Script

/-- **A document**. -/
structure Document where
  /-- The sheet. -/
  sheet : Sheet
  /-- The path of the file that the document is kept in. -/
  file : Option String
  /-- Whether the document has changed since it was last read or saved. -/
  modified : Bool
  /-- The places of the files of functions, in the order in which they were
  loaded. -/
  functionFiles : List Place
  /-- The functions of all these files, if there is one. -/
  functions : Option String

namespace Document

/-- The number of rows of a new document. -/
def defaultRows : Nat := 20

/-- The number of columns of a new document. -/
def defaultCols : Nat := 10

/-- **A new document**. -/
def new (hosts : Hosts) : Document where
  sheet := (Sheet.new defaultRows defaultCols hosts.plain).evaluateAll
  file := none
  modified := false
  functionFiles := []
  functions := none

/-- How an operation ended, and the document after it. -/
abbrev Attempt := Except DocumentError Unit × Document

/-! ## Reading -/

/-- The raw text of a cell, if it lies in the grid. -/
def raw? (d : Document) (a : Address) : Option String :=
  d.sheet.raw? a

/-- The value of a cell, if it lies in the grid. -/
def value? (d : Document) (a : Address) : Option CellValue :=
  d.sheet.value? a

/-- What a cell shows. -/
def display (d : Document) (a : Address) : String :=
  d.sheet.display a

/-- The audio events since they were last taken, and the document without
them. -/
def takeEvents (d : Document) : List SoundEvent × Document :=
  let (events, sheet) := d.sheet.takeEvents
  (events, { d with sheet := sheet })

/-- **The value of a formula** that is in no cell. -/
def evaluate (d : Document) (text : String) : CellValue × Document :=
  let (v, sheet) := d.sheet.evaluateFormula (Text.trim text.toList)
  (v, { d with sheet := sheet })

/-! ## Edits -/

/-- **Evaluates all cells**. -/
def recalculate (d : Document) : Document :=
  { d with sheet := d.sheet.evaluateAll }

/-- **Puts a raw text into a cell**. -/
def setCell (d : Document) (a : Address) (text : String) : Attempt :=
  match d.sheet.enter a text with
  | .ok sheet => (.ok (), { d with sheet := sheet, modified := true }.recalculate)
  | .error e => (.error (.evaluation e), d)

/-- **Clears a cell**. Nothing happens to one that is empty already. -/
def clearCell (d : Document) (a : Address) : Attempt :=
  if d.raw? a = some "" then (.ok (), d) else d.setCell a ""

/-- **Sets the tempo**, which must be finite and positive. -/
def setTempo (d : Document) (bpm : Float) : Attempt :=
  if isTempo bpm then
    (.ok (), { d with sheet := { d.sheet with tempo := bpm }, modified := true }.recalculate)
  else (.error (.badTempo bpm), d)

/-- **Sets the playback time**. The cells keep their values. -/
def setTime (d : Document) (time : Float) : Document :=
  { d with sheet := { d.sheet with time := time } }

/-- **Puts other raw texts in place of the grid**. One of the rows must have a
cell. -/
def replaceRows (d : Document) (rows : List (List String)) : Attempt :=
  if rows.all List.isEmpty then (.error (.badGrid .noCells), d)
  else (.ok (), { d with sheet := d.sheet.replaceRows rows, modified := true })

end Document

end SoundSheet
