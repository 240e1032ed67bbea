import SoundSheet.Decimal.Numeral
import SoundSheet.Decimal.Style

/-!
# Cell addresses

A cell is named by column letters and a row number: `B3` is the second column
and the third row. Columns count `A … Z, AA, AB, …`, which is the base-26
notation whose digits run from one to twenty-six, so every column has exactly
one name. Rows and columns are stored counting from zero.
-/

namespace SoundSheet

open SoundSheet.Decimal

/-- **The place of a cell**, counting from zero. -/
structure Address where
  /-- The row. -/
  row : Nat
  /-- The column. -/
  col : Nat
  deriving DecidableEq, Repr, Inhabited

namespace Address

/-- Row and column numbers of a written address, counted from one, are at most
this. -/
def limit : Nat := Nat.pow 2 64 - 1

/-! ## Numbers in words -/

/-- A number as a word of 64 bits, if it is small enough. -/
def word? (n : Nat) : Option Nat :=
  if n ≤ limit then some n else none

/-- **Reads digits in a base** behind a number that has been read already. Every
product and every sum on the way has to be a word. -/
def readOn? (base : Nat) (digit : Char → Nat) : Nat → List Char → Option Nat
  | n, [] => some n
  | n, c :: rest =>
    (word? (base * n)).bind fun m =>
      (word? (m + digit c)).bind fun n => readOn? base digit n rest

/-- A number that is counted from one, counted from zero. -/
def fromZero? : Nat → Option Nat
  | 0 => none
  | n + 1 => some n

/-! ## Columns -/

/-- The letter of a digit of a column name; the digits run from zero to
twenty-five here. -/
def letter (d : Nat) : Char :=
  Char.ofNat ('A'.toNat + d)

/-- The name of the `n`-th column, counted from one. -/
def columnLetters : Nat → List Char
  | 0 => []
  | n + 1 => columnLetters (n / 26) ++ [letter (n % 26)]
termination_by n => n
decreasing_by exact Nat.lt_succ_of_le (Nat.div_le_self n 26)

/-- **The name of a column**, counted from zero. -/
def columnLabel (col : Nat) : List Char :=
  columnLetters (col + 1)

/-- What a letter of a column name counts: the digits run from one to
twenty-six. -/
def letterValue (c : Char) : Nat :=
  c.toNat - 'A'.toNat + 1

/-- **The column with a name**, counted from zero; none for a text that is not
made of capital letters or denotes too large a number. -/
def columnIndex? (letters : List Char) : Option Nat :=
  if letters ≠ [] ∧ letters.all Char.isUpper then
    (readOn? 26 letterValue 0 letters).bind fromZero?
  else none

/-! ## Rows -/

/-- What a digit of a row number counts. -/
def digitValue (c : Char) : Nat :=
  c.toNat - '0'.toNat

/-- **The row with a number**, counted from zero; none for zero and for too
large a number. -/
def rowIndex? (digits : List Char) : Option Nat :=
  (readOn? 10 digitValue 0 digits).bind fromZero?

/-! ## Addresses -/

/-- The capital letters that a text starts with. -/
def lettersOf (s : List Char) : List Char :=
  s.takeWhile Char.isUpper

/-- What follows the capital letters that a text starts with. -/
def numberOf (s : List Char) : List Char :=
  s.dropWhile Char.isUpper

/-- **The shape of an address**: capital letters, then digits. The row may be
zero and the numbers too large, so not every text of this shape names a cell. -/
def hasShape (s : List Char) : Bool :=
  lettersOf s ≠ [] && numberOf s ≠ [] && (numberOf s).all Char.isDigit

/-- **The cell that a text names**. -/
def parse? (s : List Char) : Option Address :=
  if hasShape s then
    (columnIndex? (lettersOf s)).bind fun col =>
      (rowIndex? (numberOf s)).bind fun row => some ⟨row, col⟩
  else none

/-- The number of a row, counted from one. Such numbers are words of 64 bits, so
the one behind the largest word is zero. -/
def rowNumber (row : Nat) : Nat :=
  (row + 1) % (limit + 1)

/-- **The name of a cell**. -/
def write (a : Address) : List Char :=
  columnLabel a.col ++ digitsOf (rowNumber a.row)

/-- The name of a cell, as a string. -/
def toText (a : Address) : String :=
  String.ofList a.write

/-! ## Texts that name cells -/

/-- A text that names a cell has the shape of an address. -/
theorem hasShape_of_parse? {name : List Char} {a : Address} (h : parse? name = some a) :
    hasShape name = true := by
  cases hshape : hasShape name with
  | true => rfl
  | false =>
    rw [parse?, hshape] at h
    cases h

/-! ## Numbers of rows -/

/-- A row that an address can name is counted from one as usual. -/
theorem rowNumber_of_lt {row : Nat} (h : row < limit) : rowNumber row = row + 1 :=
  Nat.mod_eq_of_lt (Nat.succ_lt_succ h)

/-! ## Names of columns -/

theorem columnLetters_zero : columnLetters 0 = [] := by
  rw [columnLetters]

theorem columnLetters_succ (n : Nat) :
    columnLetters (n + 1) = columnLetters (n / 26) ++ [letter (n % 26)] := by
  rw [columnLetters]

end Address

end SoundSheet
