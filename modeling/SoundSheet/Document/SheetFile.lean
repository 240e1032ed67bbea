import SoundSheet.Decimal.Style
import SoundSheet.Document.Error
import SoundSheet.Formula.Call
import SoundSheet.Json.Reader
import SoundSheet.Json.Writer

/-!
# Sheet files

A sheet file holds the raw texts of a grid, row by row, and the tempo, as the
fields `grid` and `globalTempo` of an object. Where the tempo is missing, it is
the default one; other fields are ignored. The two values may also stand in an
array. A file must have a row, and a tempo that is finite and positive.
-/

namespace SoundSheet

open SoundSheet.Formula SoundSheet.Json

/-- Whether a number can be the tempo of a document. -/
def isTempo (bpm : Float) : Bool :=
  bpm.isFinite && !(bpm ≤ 0 : Bool)

/-- **What a sheet file holds**. -/
structure SheetFile where
  /-- The raw texts, row by row; rows may have different lengths. -/
  rows : List (List String)
  /-- The tempo in beats per minute. -/
  tempo : Float
  deriving DecidableEq

namespace SheetFile

/-! ## Reading -/

/-- The raw texts of a grid. -/
def readRows : Reader (List (List String)) :=
  readArray (readArray readText)

/-- **A field of a sheet file**. -/
inductive Field where
  /-- The grid. -/
  | rows (rows : List (List String))
  /-- The tempo. -/
  | tempo (bpm : Float)
  /-- A field that means nothing here. -/
  | other

/-- The grid, if a field holds it. -/
def Field.rows? : Field → Option (List (List String))
  | rows r => some r
  | _ => none

/-- The tempo, if a field holds it. -/
def Field.tempo? : Field → Option Float
  | tempo bpm => some bpm
  | _ => none

/-- The value of a field with a key. -/
def readField (key : String) : Reader Field := fun s =>
  if key = "grid" then (readRows s).map fun (rows, s) => (.rows rows, s)
  else if key = "globalTempo" then (readNumber s).map fun (bpm, s) => (.tempo bpm, s)
  else (skipValue s).map fun (_, s) => (.other, s)

/-- **The sheet file of some fields**: one grid, and at most one tempo. -/
def ofFields (fields : List Field) : Option SheetFile :=
  match fields.filterMap Field.rows?, fields.filterMap Field.tempo? with
  | [rows], [] => some ⟨rows, defaultTempo⟩
  | [rows], [bpm] => some ⟨rows, bpm⟩
  | _, _ => none

/-- A sheet file as an object. -/
def readObject : Reader SheetFile := fun s => do
  let (fields, s) ← readFields readText readField s
  let file ← ofFields fields
  return (file, s)

/-- A sheet file as an array of the grid and, maybe, the tempo. -/
def readPair : Reader SheetFile := fun s => do
  let s ← expect '[' s
  let (rows, s) ← readRows s
  match expect ',' s with
  | some s =>
    let (bpm, s) ← readNumber s
    let s ← expect ']' s
    return (⟨rows, bpm⟩, s)
  | none =>
    let s ← expect ']' s
    return (⟨rows, defaultTempo⟩, s)

/-- A whole text in one of the two forms. -/
def decode? (s : List Char) : Option SheetFile := do
  let (file, rest) ← (if (expect '[' s).isSome then readPair s else readObject s)
  guard (skipBlanks rest = [])
  return file

/-- Passes only what a document can hold. -/
def check (file : SheetFile) : Except DocumentError SheetFile :=
  if file.rows = [] then .error (.badGrid .noRows)
  else if isTempo file.tempo then .ok file
  else .error (.badTempo file.tempo)

/-- **The sheet file that a text is**. -/
def read (text : String) : Except DocumentError SheetFile :=
  match decode? text.toList with
  | some file => file.check
  | none => .error .malformed

/-! ## Writing -/

/-- **The text of a sheet file**. -/
def write (file : SheetFile) : String :=
  let rows := file.rows.map fun row => writeArray 2 (row.map fun raw => writeText raw.toList)
  String.ofList <|
    writeObject 0
      [writeField "grid" (writeArray 1 rows),
        writeField "globalTempo" (Decimal.stored.write file.tempo)]
      ++ ['\n']

end SheetFile

end SoundSheet
