import SoundSheet.Sheet.Basic
import SoundSheet.Value.Display

/-!
# Sheets as tables

What the cells of a sheet show can be written as a Markdown table. The table has
the columns and rows up to the last ones that hold a raw text, with the names of
the columns on top and the numbers of the rows on the left. Every row is a line
and bars separate its fields, so a bar inside a field is escaped and a line
break becomes a blank.
-/

namespace SoundSheet.Sheet

/-! ## Fields and rows -/

/-- How a character stands in a field. -/
def tableChar (c : Char) : List Char :=
  if c = '|' then ['\\', '|']
  else if c = '\n' then [' ']
  else if c = '\r' then []
  else [c]

/-- **A text as a field** of a table. -/
def tableField (text : String) : List Char :=
  text.toList.flatMap tableChar

/-- A field between blanks, and the bar behind it. -/
def paddedField (field : List Char) : List Char :=
  ' ' :: field ++ [' ', '|']

/-- **A row** of fields. -/
def tableRow (fields : List (List Char)) : List Char :=
  '|' :: fields.flatMap paddedField ++ ['\n']

/-- The row that separates the names of the columns from the rest. -/
def separatorRow (columns : Nat) : List Char :=
  '|' :: (List.replicate columns "---|".toList).flatten ++ ['\n']

/-! ## The table -/

/-- What a cell shows; nothing while it has no value. -/
def display (s : Sheet) (a : Address) : String :=
  ((s.value? a).map CellValue.display).getD ""

/-- The cells that hold a raw text. -/
def usedCells (s : Sheet) : List Address :=
  s.grid.addresses.filter fun a => s.raw? a != some ""

/-- **The last row and the last column** that hold a raw text. -/
def extent (s : Sheet) : Option Address :=
  match (s.usedCells.map Address.row).max?, (s.usedCells.map Address.col).max? with
  | some row, some col => some ⟨row, col⟩
  | _, _ => none

/-- The row of the names of the columns. -/
def headerRow (columns : Nat) : List Char :=
  tableRow ([' '] :: (List.range columns).map Address.columnLabel)

/-- The row of a table for a row of the sheet. -/
def dataRow (s : Sheet) (columns row : Nat) : List Char :=
  tableRow (Decimal.digitsOf (row + 1) ::
    (List.range columns).map fun col => tableField (s.display ⟨row, col⟩))

/-- The table up to a last row and a last column. -/
def tableTo (s : Sheet) (last : Address) : List Char :=
  let columns := last.col + 1
  headerRow columns ++ separatorRow (columns + 1)
    ++ (List.range (last.row + 1)).flatMap (s.dataRow columns)

/-- **The sheet as a table** under a title. -/
def table (s : Sheet) : String :=
  "# Sheet\n\n" ++
    match s.extent with
    | none => "*Empty spreadsheet*\n"
    | some last => String.ofList (s.tableTo last)

end SoundSheet.Sheet
