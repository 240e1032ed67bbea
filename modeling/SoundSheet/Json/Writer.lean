import SoundSheet.Json.Text

/-!
# Writing stored texts

Every item of an array and every field of an object stands on a line of its own,
indented by two blanks for each level that it is inside. An array without items
stays on one line.
-/

namespace SoundSheet.Json

/-- A line break and the indentation of a depth. -/
def newline (depth : Nat) : List Char :=
  '\n' :: List.replicate (2 * depth) ' '

/-- Items separated by commas, each on a line of its own at a depth. -/
def writeItems (depth : Nat) : List (List Char) → List Char
  | [] => []
  | [item] => newline depth ++ item
  | item :: rest => newline depth ++ item ++ ',' :: writeItems depth rest

/-- Items between an opening and a closing mark, where the line of the marks has
a depth. -/
def writeSeries (opening close : Char) (depth : Nat) : List (List Char) → List Char
  | [] => [opening, close]
  | items => opening :: writeItems (depth + 1) items ++ newline depth ++ [close]

/-- **An array** of written items. -/
def writeArray (depth : Nat) (items : List (List Char)) : List Char :=
  writeSeries '[' ']' depth items

/-- A field of a written value. -/
def writeField (key : String) (value : List Char) : List Char :=
  writeText key.toList ++ ':' :: ' ' :: value

/-- **An object** of written fields. -/
def writeObject (depth : Nat) (fields : List (List Char)) : List Char :=
  writeSeries '\x7b' '\x7d' depth fields

end SoundSheet.Json
