import SoundSheet.Formula.Plan
import SoundSheet.Decimal.Binary

/-!
# What an argument means

The text of an argument is, in this order: the name of a cell, whose value is
looked up; a number with a decimal point, as a whole; a text that starts with a
whole number; a call of a builtin; or else a plain text, which loses its double
quotes.

A whole number is read from its leading digits only, so `1e3` means one. A sign
is a token of its own, so the argument `- 3` is a plain text.
-/

namespace SoundSheet.Formula

open SoundSheet.Text SoundSheet.Decimal

/-- **What an argument means**. -/
inductive Argument where
  /-- The value of the cell with this name. -/
  | cell (name : List Char)
  /-- A number. -/
  | number (n : Float)
  /-- The value of a call. -/
  | call (source : List Char)
  /-- A plain text. -/
  | text (s : String)

/-- The number that a text with a decimal point denotes as a whole. -/
def decimal? (s : List Char) : Option Float :=
  if s.contains '.' then (parse? (trim s)).filter Float.isFinite else none

/-- The whole number that a text starts with. The leading number as a whole,
point and exponent included, has to be whole; its value is that of the leading
digits. -/
def whole? (s : List Char) : Option Float :=
  match parsePrefix? s with
  | some n => if isWhole n then some ((parseWholePrefix? s).getD n) else none
  | none => none

/-- Whether a text is a call of a builtin: its name and then, behind white
space, something between an opening parenthesis and a closing one at the end. -/
def isCall (s : List Char) : Bool :=
  let name := s.takeWhile Char.isAlpha
  match trimStart (s.dropWhile Char.isAlpha) with
  | '(' :: rest => rest.getLast? == some ')' && (Builtin.find? name).isSome
  | _ => false

/-- The text without its double quotes. -/
def unquote (s : List Char) : List Char :=
  s.filter (· ≠ '"')

/-- **The meaning of an argument**. -/
def Argument.ofText (s : List Char) : Argument :=
  if Address.hasShape s then .cell s
  else
    match decimal? s with
    | some n => .number n
    | none =>
      match whole? s with
      | some n => .number n
      | none => if isCall s then .call s else .text (String.ofList (unquote s))

/-- **The value of an argument**, where `nested` evaluates a call in it. -/
def argumentValue (nested : List Char → Plan CellValue) (s : List Char) : Plan CellValue :=
  match Argument.ofText s with
  | .cell name => Plan.lookupText name
  | .number n => .done (.number n)
  | .call source => nested source
  | .text t => .done (.text t)

end SoundSheet.Formula
