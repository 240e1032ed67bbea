import SoundSheet.Proofs.Formula.Raw
import SoundSheet.Proofs.Sheet.Operations

/-!
# Sheets between operations

Between operations a sheet is in good order (`Orderly`): no cell is marked, and
a cell whose raw text is no formula holds that text, or nothing if the text is
empty, as soon as it holds anything.

An evaluation breaks both while it is under way. It marks cells; and the raw
texts that scripts have asked for are stored under values which belong to the
old texts. The marks are gone when the run is over (`Fills.atRest`), and the
last pass of an evaluation of all cells is followed by no text that would change
anything (`Rewritten`).
-/

namespace SoundSheet

open SoundSheet.Script SoundSheet.Formula

namespace Sheet

/-! ## Cells that hold no formula -/

/-- **The cells that hold no formula hold their raw texts**, as far as they are
evaluated. -/
def Literal (s : Sheet) : Prop :=
  ∀ a raw v, s.raw? a = some raw → s.slot? a = some (.evaluated v) → body? raw = none →
    v = literal raw

/-- Marking a cell does not matter to the others. -/
theorem Literal.mark {s : Sheet} (h : s.Literal) (a : Address) :
    (s.setSlot a .evaluating).Literal := by
  intro b raw v hraw hslot
  rw [raw?_setSlot] at hraw
  exact h b raw v hraw (slot?_evaluated_of_mark hslot)

/-- The value of a run of the raw text of a cell may be stored for the cell. -/
theorem Literal.store {s s₁ : Sheet} {a : Address} {raw : String}
    {r₁ : Except FormulaError CellValue} {setting : Setting} (h : s₁.Literal)
    (hraw : s₁.raw? a = some raw) (hformula : Runs (runRaw setting a raw) s r₁ s₁) :
    (s₁.setSlot a (.evaluated (valueOf r₁))).Literal := by
  intro b raw' v hraw' hslot hliteral
  rw [raw?_setSlot] at hraw'
  rcases slot?_evaluated_of_store hslot with ⟨rfl, rfl⟩ | ⟨-, hslot⟩
  · obtain rfl : raw = raw' := Option.some.inj (hraw.symm.trans hraw')
    rw [runRaw_of_body?_eq_none setting a hliteral] at hformula
    cases hformula
    rfl
  · exact h b raw' v hraw' hslot hliteral

end Sheet

/-- **A run keeps them so.** -/
theorem Runs.literal {α : Type} {p : Plan α} {s t : Sheet} {r : Except FormulaError α}
    (h : Runs p s r t) (hs : s.Literal) : t.Literal := by
  induction h with
  | done a s => exact hs
  | fail e s => exact hs
  | outside _ _ ih => exact ih hs
  | marked _ _ ih => exact ih hs
  | known _ _ ih => exact ih hs
  | @fresh _ cell _ s s₁ _ _ raw r₁ _ hraw hformula _ ihformula ihnext =>
    have hraw₁ : s₁.raw? cell = some raw := by
      rw [hformula.fills.raw, Sheet.raw?_setSlot]
      exact hraw
    exact ihnext ((ihformula (hs.mark cell)).store hraw₁ hformula)
  | openBus _ ih => exact ih hs
  | emit _ ih => exact ih hs

namespace Sheet

/-! ## Good order -/

/-- **A sheet in good order**: no cell is marked, and the cells that hold no
formula hold their raw texts. -/
structure Orderly (s : Sheet) : Prop where
  /-- No cell is marked. -/
  atRest : s.AtRest
  /-- The cells that hold no formula hold their raw texts. -/
  literal : s.Literal

/-- Good order is a matter of the grid. -/
theorem Orderly.congr {s t : Sheet} (h : s.Orderly) (hgrid : t.grid = s.grid) : t.Orderly := by
  refine ⟨fun a => ?_, fun a => ?_⟩
  · rw [slot?_congr hgrid]
    exact h.atRest a
  · rw [slot?_congr hgrid, raw?_congr hgrid]
    exact h.literal a

theorem AllUnevaluated.orderly {s : Sheet} (h : s.AllUnevaluated) : s.Orderly :=
  ⟨h.atRest, fun a _ _ _ hslot => nomatch h a _ hslot⟩

theorem allUnevaluated_forgetValues (s : Sheet) : s.forgetValues.AllUnevaluated := by
  intro a slot h
  rw [slot?_forgetValues] at h
  obtain ⟨-, -, rfl⟩ := Option.map_eq_some_iff.mp h
  rfl

theorem allUnevaluated_reset (s : Sheet) (rows cols : Nat) :
    (s.reset rows cols).AllUnevaluated := by
  intro a slot h
  obtain ⟨cell, hcell, rfl⟩ := Option.map_eq_some_iff.mp h
  obtain ⟨row, hrow, hget⟩ := Option.bind_eq_some_iff.mp hcell
  have hrow : row = List.replicate cols (Cell.ofRaw "") :=
    List.eq_of_mem_replicate (List.mem_of_getElem? hrow)
  rw [hrow] at hget
  rw [List.eq_of_mem_replicate (List.mem_of_getElem? hget)]
  rfl

/-- **A run leaves a sheet in good order.** -/
theorem Orderly.runs {α : Type} {p : Plan α} {s t : Sheet} {r : Except FormulaError α}
    (hs : s.Orderly) (h : Runs p s r t) : t.Orderly :=
  ⟨h.fills.atRest hs.atRest, h.literal hs.literal⟩

/-- **A pass puts a sheet in good order**, whatever it was like before. -/
theorem orderly_pass (s : Sheet) : s.pass.Orderly :=
  s.allUnevaluated_forgetValues.orderly.runs s.runs_pass

/-- **So does the evaluation of all cells**, whatever scripts write. -/
theorem orderly_evaluateAll (s : Sheet) : s.evaluateAll.Orderly := by
  obtain ⟨u, -, heq⟩ := s.exists_rewritten_evaluateAll
  rw [heq]
  exact u.orderly_pass.congr rfl

theorem Orderly.answer {s : Sheet} (h : s.Orderly) (q : Request) : (s.answer q).Orderly := by
  obtain ⟨α, p, r, t, writes, hrun, heq⟩ := s.exists_runs_answer q
  rw [heq]
  exact (h.runs hrun).congr rfl

/-- A cell that is computed loses its mark again. -/
theorem Orderly.evaluateCell {s : Sheet} (h : s.Orderly) (a : Address) :
    (s.evaluateCell a).2.Orderly := by
  rcases s.evaluateCell_cases a with hsame | ⟨raw, slot, r₁, s₁, hraw, hslot, hformula, hstore⟩
  · rw [hsame]
    exact h
  rw [hstore]
  refine ⟨fun b hb => ?_, ?_⟩
  · -- the mark of the cell is gone, and the others were never there
    rw [slot?_setSlot] at hb
    by_cases hab : a = b
    · rw [if_pos hab] at hb
      obtain ⟨-, -, heq⟩ := Option.map_eq_some_iff.mp hb
      exact nomatch heq
    · rw [if_neg hab, hformula.fills.slot?_evaluating_iff, slot?_setSlot_of_ne _ hab] at hb
      exact h.atRest b hb
  · refine (hformula.literal (h.literal.mark a)).store ?_ hformula
    rw [hformula.fills.raw, raw?_setSlot]
    exact hraw

/-- A text that is entered is not evaluated yet. -/
theorem Orderly.enter {s : Sheet} (h : s.Orderly) (a : Address) (text : String) :
    Orderly { s with grid := s.grid.modify a fun _ => Cell.ofRaw text } := by
  refine ⟨fun b hb => ?_, fun b raw v hraw hslot => ?_⟩
  · obtain ⟨cell, hcell, hslot⟩ := Option.map_eq_some_iff.mp hb
    rcases unevaluated_or_get?_of_enter hcell with hnew | hold
    · rw [hnew] at hslot
      exact nomatch hslot
    · exact h.atRest b (Option.map_eq_some_iff.mpr ⟨cell, hold, hslot⟩)
  · obtain ⟨cell, hcell, heval⟩ := Option.map_eq_some_iff.mp hslot
    rcases unevaluated_or_get?_of_enter hcell with hnew | hold
    · rw [hnew] at heval
      exact nomatch heval
    · have hraw : cell.raw = raw := by
        rw [raw?, hcell] at hraw
        exact Option.some.inj hraw
      exact h.literal b raw v (Option.map_eq_some_iff.mpr ⟨cell, hold, hraw⟩)
        (Option.map_eq_some_iff.mpr ⟨cell, hold, heval⟩)

/-- **Every operation leaves a sheet in good order.** -/
theorem Orderly.apply {s : Sheet} (h : s.Orderly) (op : Operation) : (op.apply s).Orderly := by
  cases op with
  | reset rows cols => exact (s.allUnevaluated_reset rows cols).orderly
  | setRows rows evaluate =>
    cases evaluate with
    | false => exact (s.allUnevaluated_setRows rows).orderly
    | true => exact orderly_evaluateAll _
  | enter a text =>
    show ((s.enter a text).toOption.getD s).Orderly
    rcases s.enter_cases a text with hout | hin
    · rw [hout]
      exact h
    · rw [hin]
      exact h.enter a text
  | evaluateCell a => exact h.evaluateCell a
  | ask q => exact h.answer q
  | evaluateAll => exact s.orderly_evaluateAll
  | setTempo _ | setTime _ | setHost _ | takeEvents | subscribe _ _ | trigger _ _ =>
    exact h.congr rfl

theorem Orderly.operateAll (ops : List Operation) :
    ∀ {s : Sheet}, s.Orderly → (s.operateAll ops).Orderly := by
  induction ops with
  | nil => exact fun h => h
  | cons op ops ih => exact fun h => ih (h.apply op)

theorem orderly_new (rows cols : Nat) (host : Host) : (Sheet.new rows cols host).Orderly :=
  (allUnevaluated_reset (Sheet.new rows cols host) rows cols).orderly

/-- **What holds of a sheet between operations.** After any operations on a new
sheet, whether they succeed or fail and whatever scripts write: the raw texts
are a rectangle of the shape that was last asked for, and so is what is known of
the values; no cell is marked; and a cell that is evaluated and holds no formula
holds nothing if its raw text is empty, and else exactly that text. -/
theorem representation_operateAll (rows cols : Nat) (host : Host) (ops : List Operation) :
    (((Sheet.new rows cols host).operateAll ops).rawRows.map List.length
        = List.replicate (shapeAfter (rows, cols) ops).1 (shapeAfter (rows, cols) ops).2)
      ∧ (((Sheet.new rows cols host).operateAll ops).slotRows.map List.length
        = List.replicate (shapeAfter (rows, cols) ops).1 (shapeAfter (rows, cols) ops).2)
      ∧ (∀ row ∈ ((Sheet.new rows cols host).operateAll ops).slotRows, .evaluating ∉ row)
      ∧ ∀ a raw v, ((Sheet.new rows cols host).operateAll ops).raw? a = some raw →
          ((Sheet.new rows cols host).operateAll ops).value? a = some v →
            raw.toList.head? ≠ some '=' → v = if raw = "" then .empty else .text raw := by
  have hnew : (Sheet.new rows cols host).grid.rowLengths
      = List.replicate (rows, cols).1 (rows, cols).2 := Grid.rowLengths_fill rows cols _
  have hshape := rowLengths_operateAll ops hnew
  have horderly := Orderly.operateAll ops (orderly_new rows cols host)
  generalize (Sheet.new rows cols host).operateAll ops = s at hshape horderly
  refine ⟨(s.grid.rowLengths_map Cell.raw).trans hshape,
    (s.grid.rowLengths_map Cell.slot).trans hshape, fun row hrow hmark => ?_,
    fun a raw v hraw hvalue hliteral => ?_⟩
  · obtain ⟨i, hi⟩ := List.mem_iff_getElem?.mp hrow
    obtain ⟨j, hj⟩ := List.mem_iff_getElem?.mp hmark
    refine horderly.atRest ⟨i, j⟩ ?_
    rw [slot?, ← Grid.get?_map, Grid.get?]
    exact Option.bind_eq_some_iff.mpr ⟨row, hi, hj⟩
  · exact horderly.literal a raw v hraw (value?_eq_some_iff.mp hvalue)
      (body?_eq_none_of_head? hliteral)

end Sheet

end SoundSheet
