import SoundSheet.Document.Basic

/-!
# Documents and files

A document is saved to a sheet file and loaded from one, its table is exported,
and functions for its scripts are loaded from files. Functions of several files
are joined with an empty line between them and have to be one script together.
A file of functions that is loaded already is not loaded again, by whatever path
it is named.
-/

namespace SoundSheet.Document

open SoundSheet.Script

/-- The outcome of a file operation as that of a document operation. -/
def onFile {α : Type} : Except FileError α → Except DocumentError α :=
  Except.mapError DocumentError.file

/-! ## Sheet files -/

/-- What is saved of a document. -/
def stored (d : Document) : SheetFile :=
  ⟨d.sheet.rawRows, d.sheet.tempo⟩

/-- **Saves a document** to the file that it is kept in. -/
def save (d : Document) (files : Files) : Except DocumentError Files × Document :=
  match d.file with
  | none => (.error .noFile, d)
  | some path =>
    match files.writeText path d.stored.write with
    | .ok files => (.ok files, { d with modified := false })
    | .error e => (.error (.file e), d)

/-- **Saves a document to a path**, which is then that of its file even if it
cannot be written. -/
def saveAs (d : Document) (files : Files) (path : String) :
    Except DocumentError Files × Document :=
  { d with file := some path }.save files

/-- The sheet file at a path. -/
def readStored (files : Files) (path : String) : Except DocumentError SheetFile := do
  let text ← onFile (files.readText path)
  SheetFile.read text

/-- **Loads a sheet file**. -/
def load (d : Document) (files : Files) (path : String) : Attempt :=
  match readStored files path with
  | .error e => (.error e, d)
  | .ok stored =>
    (.ok (),
      { d with
        sheet := { d.sheet with tempo := stored.tempo }.replaceRows stored.rows
        file := some path
        modified := false })

/-- **Exports the table** of a document. -/
def exportTable (d : Document) (files : Files) (path : String) : Except DocumentError Files :=
  onFile (files.writeText path d.sheet.table)

/-! ## Functions -/

/-- Functions behind those that a document has. -/
def mergedFunctions (d : Document) (text : String) : String :=
  match d.functions with
  | none => text
  | some earlier => earlier ++ "\n\n" ++ text

/-- The place and the text of a file of functions. -/
def readFunctions (files : Files) (path : String) : Except DocumentError (Place × String) := do
  let place ← onFile (files.resolve path)
  let text ← onFile (files.readFunctions place)
  return (place, text)

/-- **Loads a file of functions**. A document that has loaded it already stays
as it is. -/
def loadFunctions (hosts : Hosts) (d : Document) (files : Files) (path : String) : Attempt :=
  match readFunctions files path with
  | .error e => (.error e, d)
  | .ok (place, text) =>
    if place ∈ d.functionFiles then (.ok (), d)
    else
      let merged := d.mergedFunctions text
      match hosts.withPrelude merged with
      | .error message => (.error (.badFunctions message), d)
      | .ok host =>
        (.ok (),
          { d with
            sheet := { d.sheet with host := host }
            functionFiles := d.functionFiles ++ [place]
            functions := some merged }.recalculate)

/-! ## Opening -/

/-- Loads files of functions in order, up to the first that fails. -/
def loadAllFunctions (hosts : Hosts) (files : Files) : List String → Document → Attempt
  | [], d => (.ok (), d)
  | path :: rest, d =>
    match loadFunctions hosts d files path with
    | (.ok (), d) => loadAllFunctions hosts files rest d
    | (.error e, d) => (.error e, d)

/-- Loads the file at a path if there is one, and else keeps the path for
saving. -/
def loadOrName (d : Document) (files : Files) (path : String) : Attempt :=
  if files.has path then d.load files path
  else (.ok (), { d with file := some path, modified := false })

/-- **Opens a document** with files of functions. -/
def opened (hosts : Hosts) (files : Files) (path : Option String) (functionPaths : List String) :
    Except DocumentError Document :=
  match loadAllFunctions hosts files functionPaths (new hosts) with
  | (.error e, _) => .error e
  | (.ok (), d) =>
    match path with
    | none => .ok d
    | some path =>
      match d.loadOrName files path with
      | (.ok (), d) => .ok d
      | (.error e, _) => .error e

end SoundSheet.Document
