import SoundSheet.Sheet.Basic

/-!
# Looking cells up

A cell is evaluated when it is first asked for, and its value is kept for the
rest of the pass. While the formula of a cell runs, the cell is marked; a lookup
that comes back to a marked cell is a circular reference and is refused.

Every cell that is being evaluated is marked, so at most as many evaluations
are under way at one time as there are cells. A lookup is therefore given that
many hops from cell to cell, and never runs out of them.
-/

namespace SoundSheet

open SoundSheet.Formula

/-- **Carries out a plan** on a sheet, where `look` answers its lookups. -/
def Plan.runOn (look : Address → Sheet → Except FormulaError CellValue × Sheet) {α : Type} :
    Plan α → Sheet → Except FormulaError α × Sheet
  | done a, s => (.ok a, s)
  | fail e, s => (.error e, s)
  | read cell next, s =>
    let (answer, s) := look cell s
    (next answer).runOn look s
  | openBus next, s => (next s.board.fresh).runOn look { s with board := s.board.openBus }
  | emit writes events next, s =>
    next.runOn look { s with writes := s.writes ++ writes, events := s.events ++ events }

namespace Sheet

/-- What a cell holds after its formula ended in some way. -/
def valueOf : Except FormulaError CellValue → CellValue
  | .ok v => v
  | .error e => .error e.toCellError

/-- **Evaluates a cell** and keeps its value, where `look` answers the lookups
of its formula. The cell is marked in the meantime. -/
def computeWith (look : Address → Sheet → Except FormulaError CellValue × Sheet) (a : Address)
    (raw : String) (s : Sheet) : CellValue × Sheet :=
  let (result, s) := (runRaw s.setting a raw).runOn look (s.setSlot a .evaluating)
  (valueOf result, s.setSlot a (.evaluated (valueOf result)))

/-- **Looks up a cell** with so many hops from cell to cell. -/
def lookWithin : Nat → Address → Sheet → Except FormulaError CellValue × Sheet
  | hops, a, s =>
    match s.grid.get? a with
    | none => (.error (.outOfBounds a), s)
    | some ⟨raw, slot⟩ =>
      match slot, hops with
      | .evaluated v, _ => (.ok v, s)
      | .evaluating, _ => (.error (.circularReference a), s)
      | .unevaluated, 0 => (.error (.circularReference a), s)
      | .unevaluated, hops + 1 =>
        let (v, s) := computeWith (lookWithin hops) a raw s
        (.ok v, s)

/-- **Carries out a plan** on a sheet. -/
def perform {α : Type} (p : Plan α) (s : Sheet) : Except FormulaError α × Sheet :=
  p.runOn (lookWithin s.grid.size) s

/-- **The value of a cell**, evaluated if it was not yet. -/
def lookup (a : Address) (s : Sheet) : Except FormulaError CellValue × Sheet :=
  lookWithin s.grid.size a s

/-- The value of the cell that a text names. -/
def lookupText (text : String) (s : Sheet) : Except FormulaError CellValue × Sheet :=
  s.perform (Plan.lookupText text.toList)

/-- **Evaluates a cell**, whether or not it was evaluated already. -/
def evaluateCell (a : Address) (s : Sheet) : Except FormulaError CellValue × Sheet :=
  match s.grid.get? a with
  | none => (.error (.outOfBounds a), s)
  | some cell =>
    let (v, s) := computeWith (lookWithin s.grid.size) a cell.raw s
    (.ok v, s)

/-- **The numeric readings of a region**. -/
def extract (region : Region) (traversal : Traversal) (s : Sheet) :
    Except FormulaError (List (Option Float)) × Sheet :=
  s.perform (readRegion region traversal)

/-- A formula without the equals sign that it may start with. -/
def formulaBody : List Char → List Char
  | '=' :: body => body
  | body => body

/-- **The value of a formula that is in no cell**. What its scripts want to be
stored is dropped. -/
def evaluateFormula (text : List Char) (s : Sheet) : CellValue × Sheet :=
  let (result, s) := s.perform (run s.setting ⟨0, 0⟩ (formulaBody text))
  (valueOf result, { s with writes := [] })

end Sheet

end SoundSheet
