import SoundSheet.Json.Number
import SoundSheet.Json.Text

/-!
# Reading stored texts

A reader takes a value off the front of a text and returns the rest. What has a
known form is read by the reader for that form; any other value is skipped,
which only checks that it is well formed.

Blanks may stand before every mark and every value.
-/

namespace SoundSheet.Json

/-- **A reader of values of a type**. -/
abbrev Reader (α : Type) :=
  List Char → Option (α × List Char)

/-! ## Marks -/

/-- The characters that may stand between the parts of a value. -/
def isBlank (c : Char) : Bool :=
  c == ' ' || c == '\n' || c == '\t' || c == '\r'

/-- A text without the blanks in front. -/
def skipBlanks (s : List Char) : List Char :=
  s.dropWhile isBlank

/-- What follows a mark, if the text starts with it after blanks. -/
def expect (mark : Char) (s : List Char) : Option (List Char) :=
  match skipBlanks s with
  | [] => none
  | c :: rest => if c = mark then some rest else none

/-- What follows a word, if the text starts with it. -/
def expectWord : List Char → List Char → Option (List Char)
  | [], s => some s
  | c :: word, d :: s => if c = d then expectWord word s else none
  | _ :: _, [] => none

/-! ## Values -/

/-- The pieces of a quoted text. -/
def readQuoted : Reader (List Piece) := fun s => do
  let s ← expect '"' s
  readPieces s

/-- **A text**. -/
def readText : Reader String := fun s => do
  let (pieces, s) ← readQuoted s
  let text ← joinPieces pieces
  return (String.ofList text, s)

/-- A text that was written is read back. -/
theorem readText_writeText (t s : List Char) :
    readText (writeText t ++ s) = some (String.ofList t, s) := by
  have hquoted : readQuoted (writeText t ++ s) = some (t.map .char, s) := by
    rw [writeText, List.cons_append, List.cons_append, List.append_assoc]
    exact readPieces_flatMap_writeChar t s
  rw [readText, hquoted]
  simp [joinPieces_map_char]

/-- **A number**. -/
def readNumber : Reader Float := fun s => do
  let (n, s) ← readNumeral (skipBlanks s)
  let x ← numberValue? n
  return (x, s)

/-- Items separated by commas, at least one and at most so many, and the mark
that closes them. -/
def readItems {α : Type} (item : Reader α) (close : Char) : Nat → Reader (List α)
  | 0, _ => none
  | n + 1, s => do
    let (x, s) ← item s
    match expect ',' s with
    | some s =>
      let (xs, s) ← readItems item close n s
      return (x :: xs, s)
    | none =>
      let s ← expect close s
      return ([x], s)

/-- **Items separated by commas** between an opening and a closing mark. Every
item has a character of its own, so the length of the text bounds their
number. -/
def readSeries {α : Type} (opening close : Char) (item : Reader α) :
    Reader (List α) := fun s => do
  let s ← expect opening s
  match expect close s with
  | some s => return ([], s)
  | none => readItems item close s.length s

/-- **An array**. -/
def readArray {α : Type} (item : Reader α) : Reader (List α) :=
  readSeries '[' ']' item

/-- **The fields of an object**, each read by a reader that depends on its
key. -/
def readFields {κ α : Type} (key : Reader κ) (value : κ → Reader α) : Reader (List α) :=
  readSeries '{' '}' fun s => do
    let (k, s) ← key s
    let s ← expect ':' s
    value k s

/-! ## Values that are skipped -/

/-- Checks that a value is well formed, down to some depth. -/
def skipWithin : Nat → Reader Unit
  | 0, _ => none
  | depth + 1, s =>
    match skipBlanks s with
    | '[' :: _ => (readArray (skipWithin depth) s).map fun (_, s) => ((), s)
    | '{' :: _ =>
      (readFields readQuoted (fun _ => skipWithin depth) s).map fun (_, s) => ((), s)
    | '"' :: _ => (readQuoted s).map fun (_, s) => ((), s)
    | 't' :: s => (expectWord "rue".toList s).map fun s => ((), s)
    | 'f' :: s => (expectWord "alse".toList s).map fun s => ((), s)
    | 'n' :: s => (expectWord "ull".toList s).map fun s => ((), s)
    | s => (readNumeral s).map fun (_, s) => ((), s)

/-- **Any value**. Every level has a mark of its own, so the length of the text
bounds the depth. -/
def skipValue : Reader Unit := fun s =>
  skipWithin (s.length + 1) s

end SoundSheet.Json
