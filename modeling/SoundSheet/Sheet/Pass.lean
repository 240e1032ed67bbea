import SoundSheet.Sheet.Lookup

/-!
# Passes

A pass evaluates every cell of a sheet once. When it is over, the raw texts that
scripts wanted to be stored are put into the grid, and if that has changed it
the pass is run again – a bounded number of times, for scripts can go on
changing the grid for ever. After the last pass nothing is stored any more, so
the values always belong to the raw texts that the sheet ends with.
-/

namespace SoundSheet

open SoundSheet.Script

/-- How many passes may be followed by storing what scripts wrote. -/
def maxPasses : Nat := 8

namespace Sheet

/-- Evaluates the cells at some addresses in order, those that were evaluated
on the way excepted. -/
def visit (cells : List Address) (s : Sheet) : Sheet :=
  cells.foldl (fun s a => (s.lookup a).2) s

/-- **A pass**: all cells from the start, row by row. -/
def pass (s : Sheet) : Sheet :=
  s.forgetValues.visit s.grid.addresses

/-- Stores one raw text, if that changes the sheet. A cell outside the grid is
left out. -/
def store (s : Sheet) (w : Write) : Bool × Sheet :=
  match s.raw? w.cell with
  | none => (false, s)
  | some raw => if raw = w.text then (false, s) else (true, s.overwrite w.cell w.text)

/-- Stores raw texts in order; tells whether one of them changed the sheet. -/
def storeAll : List Write → Sheet → Bool × Sheet
  | [], s => (false, s)
  | w :: rest, s =>
    let (now, s) := s.store w
    let (later, s) := storeAll rest s
    (now || later, s)

/-- **Stores what scripts wrote**; tells whether that changed the sheet on the
way. -/
def storeWrites (s : Sheet) : Bool × Sheet :=
  storeAll s.writes { s with writes := [] }

/-- Passes while the writes of scripts change the sheet, at most so many of them
and a last one. -/
def settle : Nat → Sheet → Sheet
  | 0, s => { s.pass with writes := [] }
  | n + 1, s =>
    match s.pass.storeWrites with
    | (true, s) => settle n s
    | (false, s) => s

/-- **Evaluates all cells** and stores what scripts write. -/
def evaluateAll (s : Sheet) : Sheet :=
  settle maxPasses s

/-- Puts other raw texts in place of the grid and evaluates them. -/
def replaceRows (s : Sheet) (rows : List (List String)) : Sheet :=
  (s.setRows rows).evaluateAll

end Sheet

end SoundSheet
