import SoundSheet.Formula.Evaluation
import SoundSheet.Sheet.Grid

/-!
# Sheets

A sheet is a grid of raw texts together with what is known of their values. In
the course of a pass each cell is first unevaluated, then – while its own
formula runs – evaluating, and at last evaluated. Beside the grid a sheet holds
the tempo and the playback time, the host that runs its scripts, what scripts
have asked for, and the buses of its beats and sequences.

Raw texts and states of evaluation are two tables, of which each has a place for
every cell. Here they are one grid of pairs, so that two tables of different
shapes cannot be written down at all: that the states have the shape of the raw
texts is part of the type and not a theorem. Taken apart again, the two are
`Sheet.raw?` and `Sheet.slot?`.
-/

namespace SoundSheet

open SoundSheet.Script SoundSheet.Formula

/-- **What is known of the value of a cell**. -/
inductive Slot where
  /-- Nothing yet. -/
  | unevaluated
  /-- Its formula is running. -/
  | evaluating
  /-- Its value. -/
  | evaluated (v : CellValue)
  deriving DecidableEq

/-- The value in a slot, if there is one. -/
def Slot.value? : Slot → Option CellValue
  | evaluated v => some v
  | _ => none

/-- **A cell**: its raw text, and what is known of its value. -/
structure Cell where
  /-- The raw text. -/
  raw : String
  /-- What is known of the value. -/
  slot : Slot
  deriving DecidableEq

/-- A cell with a raw text, not evaluated yet. -/
def Cell.ofRaw (raw : String) : Cell :=
  ⟨raw, .unevaluated⟩

/-- **A sheet**. -/
structure Sheet where
  /-- The cells. -/
  grid : Grid Cell
  /-- The tempo in beats per minute. -/
  tempo : Float
  /-- The playback time in seconds. -/
  time : Float
  /-- The host that runs scripts. -/
  host : Host
  /-- The raw texts that scripts want to be stored after the pass. -/
  writes : List Write
  /-- The audio events that scripts have asked for since they were last
  taken. -/
  events : List SoundEvent
  /-- The buses of beats and sequences. -/
  board : Switchboard

namespace Sheet

/-- An empty sheet of a shape at the default tempo. -/
def new (rows cols : Nat) (host : Host) : Sheet where
  grid := Grid.fill rows cols (Cell.ofRaw "")
  tempo := defaultTempo
  time := 0
  host := host
  writes := []
  events := []
  board := Switchboard.empty

/-- What formulas of the sheet are evaluated in. -/
def setting (s : Sheet) : Setting :=
  ⟨s.tempo, s.time, s.host⟩

/-! ## Reading -/

/-- The raw texts, row by row. -/
def rawRows (s : Sheet) : List (List String) :=
  (s.grid.map Cell.raw).toRows

/-- The raw text of a cell, if it lies in the grid. -/
def raw? (s : Sheet) (a : Address) : Option String :=
  (s.grid.get? a).map Cell.raw

/-- What is known of the value of a cell, if it lies in the grid. -/
def slot? (s : Sheet) (a : Address) : Option Slot :=
  (s.grid.get? a).map Cell.slot

/-- The stored value of a cell, if it has been evaluated. -/
def value? (s : Sheet) (a : Address) : Option CellValue :=
  (s.slot? a).bind Slot.value?

/-- The stored values, row by row. -/
def valueRows (s : Sheet) : List (List (Option CellValue)) :=
  (s.grid.map fun cell => cell.slot.value?).toRows

/-! ## Changing -/

/-- Puts a slot on a cell. -/
def setSlot (s : Sheet) (a : Address) (slot : Slot) : Sheet :=
  { s with grid := s.grid.modify a fun cell => { cell with slot := slot } }

/-- Puts a raw text into a cell and leaves what is known of its value alone. -/
def overwrite (s : Sheet) (a : Address) (text : String) : Sheet :=
  { s with grid := s.grid.modify a fun cell => { cell with raw := text } }

/-- **Puts a raw text into a cell**, whose value is then no longer known. -/
def enter (s : Sheet) (a : Address) (text : String) : Except FormulaError Sheet :=
  match s.grid.get? a with
  | some _ => .ok { s with grid := s.grid.modify a fun _ => Cell.ofRaw text }
  | none => .error (.outOfBounds a)

/-- Forgets all values. -/
def forgetValues (s : Sheet) : Sheet :=
  { s with grid := s.grid.map fun cell => Cell.ofRaw cell.raw }

/-- Makes the sheet an empty one of a shape, at the default tempo and at the
start. -/
def reset (s : Sheet) (rows cols : Nat) : Sheet :=
  { s with
    grid := Grid.fill rows cols (Cell.ofRaw "")
    tempo := defaultTempo
    time := 0
    writes := [] }

/-- Puts other raw texts in place of the grid and goes back to the start. Short
rows are filled up with empty cells. -/
def setRows (s : Sheet) (rows : List (List String)) : Sheet :=
  { s with grid := (Grid.ofRows "" rows).map Cell.ofRaw, time := 0, writes := [] }

/-- The audio events since they were last taken, and the sheet without them. -/
def takeEvents (s : Sheet) : List SoundEvent × Sheet :=
  (s.events, { s with events := [] })

/-! ## What a change leaves alone -/

section Reading

variable (s : Sheet) (a b : Address)

/-- A cell in the grid has a raw text and a slot, and any other has neither. -/
theorem isSome_slot? : (s.slot? a).isSome = (s.raw? a).isSome := by
  rw [slot?, raw?, Option.isSome_map, Option.isSome_map]

theorem slot?_eq_none_iff : s.slot? a = none ↔ s.raw? a = none := by
  rw [slot?, raw?, Option.map_eq_none_iff, Option.map_eq_none_iff]

theorem mem_addresses_iff : a ∈ s.grid.addresses ↔ (s.raw? a).isSome := by
  rw [Grid.mem_addresses_iff, raw?, Option.isSome_map]

@[simp] theorem raw?_setSlot (slot : Slot) : (s.setSlot a slot).raw? b = s.raw? b := by
  unfold raw? setSlot
  rw [Grid.get?_modify]
  by_cases h : a = b
  · rw [if_pos h, Option.map_map]
    rfl
  · rw [if_neg h]

theorem slot?_setSlot (slot : Slot) :
    (s.setSlot a slot).slot? b = if a = b then (s.slot? b).map fun _ => slot else s.slot? b := by
  unfold slot? setSlot
  rw [Grid.get?_modify]
  by_cases h : a = b
  · rw [if_pos h, if_pos h, Option.map_map, Option.map_map]
    rfl
  · rw [if_neg h, if_neg h]

/-- The other cells keep their slots. -/
theorem slot?_setSlot_of_ne {s : Sheet} {a b : Address} (slot : Slot) (h : a ≠ b) :
    (s.setSlot a slot).slot? b = s.slot? b := by
  rw [slot?_setSlot, if_neg h]

/-- A slot that is put on a cell in the grid is there. -/
theorem slot?_setSlot_self {s : Sheet} {a : Address} {before : Slot} (slot : Slot)
    (h : s.slot? a = some before) : (s.setSlot a slot).slot? a = some slot := by
  rw [slot?_setSlot, if_pos rfl, h]
  rfl

@[simp] theorem rows_setSlot (slot : Slot) : (s.setSlot a slot).grid.rows = s.grid.rows :=
  Grid.rows_modify _ _ _

@[simp] theorem cols_setSlot (slot : Slot) : (s.setSlot a slot).grid.cols = s.grid.cols :=
  Grid.cols_modify _ _ _

@[simp] theorem raw?_forgetValues : s.forgetValues.raw? a = s.raw? a := by
  unfold raw? forgetValues
  rw [Grid.get?_map, Option.map_map]
  rfl

/-- A cell that has a value next to a mark has had it before. -/
theorem slot?_evaluated_of_mark {s : Sheet} {a b : Address} {v : CellValue}
    (h : (s.setSlot a .evaluating).slot? b = some (.evaluated v)) :
    s.slot? b = some (.evaluated v) := by
  rw [slot?_setSlot] at h
  by_cases hab : a = b
  · rw [if_pos hab] at h
    obtain ⟨-, -, heq⟩ := Option.map_eq_some_iff.mp h
    exact nomatch heq
  · rwa [if_neg hab] at h

/-- A value that is stored is the only new one. -/
theorem slot?_evaluated_of_store {s : Sheet} {a b : Address} {v w : CellValue}
    (h : (s.setSlot a (.evaluated v)).slot? b = some (.evaluated w)) :
    (a = b ∧ v = w) ∨ (a ≠ b ∧ s.slot? b = some (.evaluated w)) := by
  rw [slot?_setSlot] at h
  by_cases hab : a = b
  · rw [if_pos hab] at h
    obtain ⟨-, -, heq⟩ := Option.map_eq_some_iff.mp h
    exact .inl ⟨hab, Slot.evaluated.inj heq⟩
  · rw [if_neg hab] at h
    exact .inr ⟨hab, h⟩

theorem value?_eq_some_iff {s : Sheet} {a : Address} {v : CellValue} :
    s.value? a = some v ↔ s.slot? a = some (.evaluated v) := by
  rw [value?]
  cases s.slot? a with
  | none => simp
  | some slot => cases slot <;> simp [Slot.value?]

/-- What a sheet shows is a matter of its grid. -/
theorem slot?_congr {s t : Sheet} (h : t.grid = s.grid) : t.slot? = s.slot? :=
  funext fun a => by rw [slot?, slot?, h]

theorem raw?_congr {s t : Sheet} (h : t.grid = s.grid) : t.raw? = s.raw? :=
  funext fun a => by rw [raw?, raw?, h]

/-- Rows that are put in place of the grid are there, filled up. -/
theorem rawRows_setRows (rows : List (List String)) :
    (s.setRows rows).rawRows = (Grid.ofRows "" rows).toRows := by
  show ((Grid.ofRows "" rows).toRows.map (List.map Cell.ofRaw)).map (List.map Cell.raw) = _
  have hrow (row : List String) : (row.map Cell.ofRaw).map Cell.raw = row := by
    rw [List.map_map]
    exact List.map_id row
  rw [List.map_map]
  exact (List.map_congr_left fun row _ => hrow row).trans (List.map_id _)

/-- Without values no cell is evaluated or under way. -/
theorem slot?_forgetValues : s.forgetValues.slot? a = (s.raw? a).map fun _ => .unevaluated := by
  unfold slot? forgetValues raw?
  rw [Grid.get?_map, Option.map_map, Option.map_map]
  rfl

end Reading

end Sheet

end SoundSheet
