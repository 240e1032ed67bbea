import SoundSheet.Formula.Call

/-!
# Evaluating formulas

A formula that starts with the name of a builtin is a call of it, and any other
is arithmetic. Calls may be nested in the arguments of calls, up to a limit that
each formula has for itself: the formula of a cell that is looked up starts
anew.
-/

namespace SoundSheet.Formula

open SoundSheet.Text

/-- How deep calls may be nested in one formula. -/
def maxNesting : Nat := 10

/-- **The run of a formula** on behalf of a cell, with room for so many nested
calls. -/
def runWithin (setting : Setting) (caller : Address) : Nat → List Char → Plan CellValue
  | 0, _ => .fail .nestedTooDeep
  | room + 1, body =>
    let nested := runWithin setting caller room
    match tokenize body with
    | [] => .fail .emptyFormula
    | name :: rest =>
      match Builtin.find? name with
      | some builtin =>
        let source := (trimStart body).drop name.length
        Invocation.run setting nested ⟨rest, source, caller⟩ builtin
      | none =>
        (arithmetic (operand nested) (name :: rest)).bind fun n => .done (.number n)

/-- **The run of a formula** on behalf of a cell. -/
def run (setting : Setting) (caller : Address) (body : List Char) : Plan CellValue :=
  runWithin setting caller maxNesting body

/-- **The run of the raw text of a cell**: a formula behind an equals sign, or
else a text that stands for itself. -/
def runRaw (setting : Setting) (caller : Address) (raw : String) : Plan CellValue :=
  match raw.toList with
  | [] => .done .empty
  | '=' :: body => run setting caller body
  | _ => .done (.text raw)

end SoundSheet.Formula
