import SoundSheet.Proofs.Sheet.Requests
import SoundSheet.Proofs.Sheet.Termination

/-!
# Operations on sheets

A sheet is made, edited, asked for values and evaluated in any order, and some
of this fails. `Operation` lists all that can be done to it.

The evaluation of all cells is the one operation that changes raw texts while
values belong to the old ones: between two passes it stores what scripts have
asked for. But it ends with a pass, over a sheet that comes of the first one by
passes whose writes are stored (`Rewritten`). So what holds after every pass,
and is not touched by the storing of texts, holds after the evaluation of all
cells. The shape of the grid is the first example: it is that of the last
operation that sets one (`rowLengths_apply`).
-/

namespace SoundSheet

open SoundSheet.Script SoundSheet.Formula

/-! ## Shapes -/

/-- The lengths of the rows of a grid. -/
def Grid.rowLengths {α : Type} (g : Grid α) : List Nat :=
  g.toRows.map List.length

namespace Grid

variable {α β : Type}

theorem rowLengths_eq_replicate (g : Grid α) : g.rowLengths = List.replicate g.rows g.cols := by
  refine List.eq_replicate_iff.mpr ⟨List.length_map _, fun n hn => ?_⟩
  obtain ⟨row, hrow, rfl⟩ := List.mem_map.mp hn
  obtain ⟨i, hi⟩ := List.mem_iff_getElem?.mp hrow
  exact length_of_getElem? hi

/-- Grids with as many rows and columns have the same shape. -/
theorem rowLengths_congr {g : Grid α} {h : Grid β} (hrows : g.rows = h.rows)
    (hcols : g.cols = h.cols) : g.rowLengths = h.rowLengths := by
  rw [rowLengths_eq_replicate, rowLengths_eq_replicate, hrows, hcols]

theorem rowLengths_map (g : Grid α) (f : α → β) : (g.map f).rowLengths = g.rowLengths :=
  rowLengths_congr (g.rows_map f) (g.cols_map f)

theorem rowLengths_modify (g : Grid α) (a : Address) (f : α → α) :
    (g.modify a f).rowLengths = g.rowLengths :=
  rowLengths_congr (g.rows_modify a f) (g.cols_modify a f)

theorem rowLengths_fill (rows cols : Nat) (x : α) :
    (fill rows cols x).rowLengths = List.replicate rows cols := by
  rw [rowLengths, fill, List.map_replicate, List.length_replicate]

/-- Short rows are filled up to the longest. -/
theorem rowLengths_ofRows (x : α) (rows : List (List α)) :
    (ofRows x rows).rowLengths = List.replicate rows.length (width rows) := by
  refine List.eq_replicate_iff.mpr ⟨by simp [rowLengths, ofRows], fun n hn => ?_⟩
  obtain ⟨row, hrow, rfl⟩ := List.mem_map.mp hn
  obtain ⟨short, hshort, rfl⟩ := List.mem_map.mp hrow
  exact length_pad (length_le_width hshort)

end Grid

namespace Sheet

/-- What is known of the values, row by row. -/
def slotRows (s : Sheet) : List (List Slot) :=
  (s.grid.map Cell.slot).toRows

/-! ## Operations -/

/-- **What can be done to a sheet**. -/
inductive Operation where
  /-- Make it an empty sheet of a shape. -/
  | reset (rows cols : Nat)
  /-- Put other raw texts in place of the grid, and evaluate them or not. -/
  | setRows (rows : List (List String)) (evaluate : Bool)
  /-- Put a raw text into a cell. -/
  | enter (a : Address) (text : String)
  /-- Set the tempo. -/
  | setTempo (bpm : Float)
  /-- Set the playback time. -/
  | setTime (time : Float)
  /-- Let another host run the scripts. -/
  | setHost (host : Host)
  /-- Evaluate a cell, whether or not it was evaluated already. -/
  | evaluateCell (a : Address)
  /-- Ask for the value of a cell, for a region, or for a formula that is in no
  cell. -/
  | ask (q : Request)
  /-- Evaluate all cells. -/
  | evaluateAll
  /-- Take the audio events. -/
  | takeEvents
  /-- Subscribe a listener to a bus. -/
  | subscribe (bus : BusId) (l : Listener)
  /-- Trigger a bus. -/
  | trigger (bus : BusId) (value : Bool)

/-- **The sheet after an operation**, whether it succeeds or fails. -/
def Operation.apply : Operation → Sheet → Sheet
  | reset rows cols, s => s.reset rows cols
  | setRows rows false, s => s.setRows rows
  | setRows rows true, s => s.replaceRows rows
  | enter a text, s => (s.enter a text).toOption.getD s
  | setTempo bpm, s => { s with tempo := bpm }
  | setTime time, s => { s with time := time }
  | setHost host, s => { s with host := host }
  | evaluateCell a, s => (s.evaluateCell a).2
  | ask q, s => s.answer q
  | evaluateAll, s => s.evaluateAll
  | takeEvents, s => s.takeEvents.2
  | subscribe bus l, s => { s with board := s.board.subscribe bus l }
  | trigger bus value, s => { s with board := (s.board.trigger bus value).2 }

/-- **The sheet after some operations in order**. -/
def operateAll (s : Sheet) (ops : List Operation) : Sheet :=
  ops.foldl (fun s op => op.apply s) s

/-- **The shape after an operation**: the number of rows, and the length of
each. -/
def Operation.shape : Operation → Nat × Nat → Nat × Nat
  | reset rows cols, _ => (rows, cols)
  | setRows rows _, _ => (rows.length, Grid.width rows)
  | _, shape => shape

/-- The shape after some operations in order. -/
def shapeAfter (shape : Nat × Nat) (ops : List Operation) : Nat × Nat :=
  ops.foldl (fun shape op => op.shape shape) shape

/-! ## Evaluating all cells -/

/-- **A sheet that comes of another one by passes whose writes are stored**. -/
inductive Rewritten (s : Sheet) : Sheet → Prop
  /-- Before the first pass. -/
  | refl : Rewritten s s
  /-- After one more pass. -/
  | pass {u : Sheet} (h : Rewritten s u) : Rewritten s u.pass.storeWrites.2

/-- Passes may be put in front. -/
theorem Rewritten.head {s u : Sheet} (h : Rewritten s.pass.storeWrites.2 u) : Rewritten s u := by
  induction h with
  | refl => exact .pass .refl
  | pass _ ih => exact .pass ih

/-- **However often passes are repeated, they end with one** over a sheet that
comes of the first by passes whose writes are stored. -/
theorem exists_rewritten_settle (n : Nat) :
    ∀ s : Sheet, ∃ u, Rewritten s u ∧ settle n s = { u.pass with writes := [] } := by
  induction n with
  | zero => exact fun s => ⟨s, .refl, rfl⟩
  | succ n ih =>
    intro s
    rw [settle]
    cases hstore : s.pass.storeWrites with
    | mk changed t =>
      cases changed with
      | false => exact ⟨s, .refl, storeAll_eq_of_unchanged hstore⟩
      | true =>
        obtain ⟨u, hu, hsettle⟩ := ih t
        refine ⟨u, .head ?_, hsettle⟩
        rwa [hstore]

theorem exists_rewritten_evaluateAll (s : Sheet) :
    ∃ u, Rewritten s u ∧ s.evaluateAll = { u.pass with writes := [] } :=
  exists_rewritten_settle maxPasses s

/-- A pass is a run that asks for every cell. -/
theorem runs_pass (s : Sheet) :
    Runs (Plan.visit s.grid.addresses) s.forgetValues (.ok ()) s.pass :=
  runs_visit s.grid.addresses s.forgetValues

/-! ## Shapes of sheets -/

theorem rowLengths_pass (s : Sheet) : s.pass.grid.rowLengths = s.grid.rowLengths :=
  (Grid.rowLengths_congr s.fills_pass.rows s.fills_pass.cols).trans
    (s.grid.rowLengths_map fun cell => Cell.ofRaw cell.raw)

theorem rowLengths_storeAll (writes : List Write) :
    ∀ s : Sheet, (storeAll writes s).2.grid.rowLengths = s.grid.rowLengths := by
  induction writes with
  | nil => exact fun _ => rfl
  | cons w writes ih =>
    intro s
    rw [storeAll_cons]
    refine (ih _).trans ?_
    rcases s.store_eq_or w with hstore | hstore
    · rw [hstore]
    · rw [hstore]
      exact s.grid.rowLengths_modify _ _

theorem Rewritten.rowLengths {s u : Sheet} (h : Rewritten s u) :
    u.grid.rowLengths = s.grid.rowLengths := by
  induction h with
  | refl => rfl
  | @pass u _ ih =>
    have hstore := rowLengths_storeAll u.pass.writes { u.pass with writes := [] }
    exact hstore.trans (u.rowLengths_pass.trans ih)

theorem rowLengths_evaluateAll (s : Sheet) :
    s.evaluateAll.grid.rowLengths = s.grid.rowLengths := by
  obtain ⟨u, hu, heq⟩ := s.exists_rewritten_evaluateAll
  rw [heq]
  exact u.rowLengths_pass.trans hu.rowLengths

theorem rowLengths_answer (s : Sheet) (q : Request) :
    (s.answer q).grid.rowLengths = s.grid.rowLengths := by
  obtain ⟨α, p, r, t, writes, hrun, heq⟩ := s.exists_runs_answer q
  rw [heq]
  exact Grid.rowLengths_congr hrun.fills.rows hrun.fills.cols

/-- **What computing a cell does**: nothing outside the grid, and else a run of
its raw text while the cell is marked, whose value is stored. -/
theorem evaluateCell_cases (a : Address) (s : Sheet) :
    (s.evaluateCell a).2 = s
      ∨ ∃ raw slot r₁ s₁, s.raw? a = some raw ∧ s.slot? a = some slot
        ∧ Runs (runRaw s.setting a raw) (s.setSlot a .evaluating) r₁ s₁
        ∧ (s.evaluateCell a).2 = s₁.setSlot a (.evaluated (valueOf r₁)) := by
  rw [evaluateCell]
  cases hget : s.grid.get? a with
  | none => exact .inl rfl
  | some cell =>
    obtain ⟨r₁, s₁, hformula, hcompute⟩ := exists_runs_computeWith a cell.raw s
    refine .inr ⟨cell.raw, cell.slot, r₁, s₁, ?_, ?_, hformula, ?_⟩
    · rw [raw?, hget]
      rfl
    · rw [slot?, hget]
      rfl
    · dsimp only
      rw [hcompute]

theorem rowLengths_evaluateCell (a : Address) (s : Sheet) :
    (s.evaluateCell a).2.grid.rowLengths = s.grid.rowLengths := by
  rcases s.evaluateCell_cases a with hsame | ⟨raw, slot, r₁, s₁, -, -, hformula, hstore⟩
  · rw [hsame]
  · have hs₁ := hformula.fills
    refine Grid.rowLengths_congr ?_ ?_
    · rw [hstore, rows_setSlot, hs₁.rows, rows_setSlot]
    · rw [hstore, cols_setSlot, hs₁.cols, cols_setSlot]

/-- **What entering a raw text does**: nothing outside the grid, and else the
cell holds the text and is not evaluated. -/
theorem enter_cases (s : Sheet) (a : Address) (text : String) :
    s.enter a text = .error (.outOfBounds a)
      ∨ s.enter a text
        = .ok { s with grid := s.grid.modify a fun _ => Cell.ofRaw text } := by
  rw [enter]
  cases s.grid.get? a with
  | none => exact .inl rfl
  | some cell => exact .inr rfl

/-- After a text has been entered, a cell is not evaluated or as before. -/
theorem unevaluated_or_get?_of_enter {s : Sheet} {a b : Address} {text : String} {cell : Cell}
    (h : (s.grid.modify a fun _ => Cell.ofRaw text).get? b = some cell) :
    cell.slot = .unevaluated ∨ s.grid.get? b = some cell := by
  rw [Grid.get?_modify] at h
  by_cases hab : a = b
  · rw [if_pos hab] at h
    obtain ⟨-, -, rfl⟩ := Option.map_eq_some_iff.mp h
    exact .inl rfl
  · rw [if_neg hab] at h
    exact .inr h

/-- **An operation gives a sheet its shape.** -/
theorem rowLengths_apply (op : Operation) {s : Sheet} {shape : Nat × Nat}
    (h : s.grid.rowLengths = List.replicate shape.1 shape.2) :
    (op.apply s).grid.rowLengths
      = List.replicate (op.shape shape).1 (op.shape shape).2 := by
  cases op with
  | reset rows cols => exact Grid.rowLengths_fill _ _ _
  | setRows rows evaluate =>
    have hrows : (s.setRows rows).grid.rowLengths
        = List.replicate rows.length (Grid.width rows) :=
      (Grid.rowLengths_map _ _).trans (Grid.rowLengths_ofRows "" rows)
    cases evaluate with
    | false => exact hrows
    | true => exact (rowLengths_evaluateAll _).trans hrows
  | enter a text =>
    show ((s.enter a text).toOption.getD s).grid.rowLengths = _
    rcases s.enter_cases a text with hout | hin
    · rw [hout]
      exact h
    · rw [hin]
      exact (s.grid.rowLengths_modify _ _).trans h
  | evaluateCell a => exact (rowLengths_evaluateCell a s).trans h
  | ask q => exact (s.rowLengths_answer q).trans h
  | evaluateAll => exact (rowLengths_evaluateAll s).trans h
  | setTempo _ | setTime _ | setHost _ | takeEvents | subscribe _ _ | trigger _ _ => exact h

theorem rowLengths_operateAll (ops : List Operation) : ∀ {s : Sheet} {shape : Nat × Nat},
    s.grid.rowLengths = List.replicate shape.1 shape.2 →
      (s.operateAll ops).grid.rowLengths
        = List.replicate (shapeAfter shape ops).1 (shapeAfter shape ops).2 := by
  induction ops with
  | nil => exact fun h => h
  | cons op ops ih => exact fun h => ih (rowLengths_apply op h)

end Sheet

end SoundSheet
