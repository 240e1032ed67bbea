import SoundSheet.Proofs.Sheet.Renaming

/-!
# Sheets whose values are current

Values are current if they are those of a single pass from scratch over the raw
texts that the sheet has now, at the time of the last pass (`Current`). After
`evaluateAll` they are (`current_evaluateAll`), however often scripts have
changed raw texts in between and whether or not they would go on. They stay
current as long as raw texts, tempo and host stay: a formula that is in no cell
finds every cell evaluated and changes none, and neither the playback time nor
the events are read off a stored value.
-/

namespace SoundSheet

open SoundSheet.Script SoundSheet.Formula

namespace Sheet

/-- **The sheet before a pass from scratch**: the raw texts in the tempo and
with the host of a sheet, at a time and among any buses, and nothing else. -/
def fromScratch (s : Sheet) (time : Float) (board : Switchboard) : Sheet where
  grid := s.forgetValues.grid
  tempo := s.tempo
  time := time
  host := s.host
  writes := []
  events := []
  board := board

/-- **A sheet whose values are current** as of a time: every cell has a value,
no write is left, and a single pass from scratch at that time yields the same
values, whatever buses there were before. -/
structure Current (s : Sheet) (time : Float) : Prop where
  /-- Every cell of the grid is evaluated. -/
  hasValue : ∀ a, (s.raw? a).isSome → s.HasValue a
  /-- No write is left. -/
  writes_eq : s.writes = []
  /-- The values are those of a pass from scratch. -/
  sameValues : ∀ board, s.SameValues (s.fromScratch time board).pass

variable {s t : Sheet} {time : Float}

/-- **What is not read off the stored values may change**: time, events and
buses. -/
theorem Current.congr (h : s.Current time) (hgrid : t.grid = s.grid)
    (htempo : t.tempo = s.tempo) (hhost : t.host = s.host) (hwrites : t.writes = []) :
    t.Current time := by
  have hscratch : ∀ board, t.fromScratch time board = s.fromScratch time board := by
    intro board
    rw [fromScratch, fromScratch, forgetValues, forgetValues, hgrid, htempo, hhost]
  have hslot : t.slot? = s.slot? := funext fun a => by rw [slot?, slot?, hgrid]
  have hraw : t.raw? = s.raw? := funext fun a => by rw [raw?, raw?, hgrid]
  refine ⟨fun a ha => ?_, hwrites, fun board => ?_⟩
  · rw [HasValue, hslot]
    exact h.hasValue a (hraw ▸ ha)
  · rw [hscratch]
    obtain ⟨R, hR, hvalues⟩ := h.sameValues board
    refine ⟨R, hR, fun a => ?_⟩
    rw [value?, hslot]
    exact hvalues a

/-! ## After all cells are evaluated -/

theorem rows_forgetValues (s : Sheet) : s.forgetValues.grid.rows = s.grid.rows :=
  Grid.rows_map _ _

theorem cols_forgetValues (s : Sheet) : s.forgetValues.grid.cols = s.grid.cols :=
  Grid.cols_map _ _

/-- A pass from scratch over the sheet of a pass repeats that pass. -/
theorem sameTexts_fromScratch (u : Sheet) (board : Switchboard) :
    u.SameTexts (u.pass.fromScratch u.time board) := by
  have hsetting : u.pass.setting = u.setting := u.fills_pass.setting
  refine ⟨fun a => ?_, ?_, ?_, ?_⟩
  · show u.pass.forgetValues.raw? a = u.raw? a
    rw [raw?_forgetValues, raw?_pass]
  · show u.pass.forgetValues.grid.rows = u.grid.rows
    rw [rows_forgetValues, u.fills_pass.rows, rows_forgetValues]
  · show u.pass.forgetValues.grid.cols = u.grid.cols
    rw [cols_forgetValues, u.fills_pass.cols, cols_forgetValues]
  · show Setting.mk u.pass.tempo u.time u.pass.host = u.setting
    rw [show u.pass.tempo = u.tempo from congrArg Setting.tempo hsetting, u.fills_pass.host]
    rfl

/-- **The values of a pass are current.** -/
theorem current_pass {u : Sheet} (hhost : u.host.RespectsRenaming) :
    Current { u.pass with writes := [] } u.time := by
  refine ⟨fun a ha => ?_, rfl, fun board => ?_⟩
  · refine hasValue_pass ?_
    rw [← raw?_pass]
    exact ha
  · exact sameValues_pass (u.sameTexts_fromScratch board) hhost

/-- **After all cells are evaluated their values are current**, whether or not
the writes of scripts have settled. -/
theorem current_evaluateAll {s : Sheet} (hhost : s.host.RespectsRenaming) :
    s.evaluateAll.Current s.time := by
  obtain ⟨u, hsetting, hu⟩ := exists_pass_of_settle maxPasses s
  have hu_host : u.host = s.host := congrArg Setting.host hsetting
  have hu_time : u.time = s.time := congrArg Setting.time hsetting
  rw [evaluateAll, hu, ← hu_time]
  exact current_pass (hu_host ▸ hhost)

/-- Tempo, time and host stay when all cells are evaluated. -/
theorem setting_evaluateAll (s : Sheet) : s.evaluateAll.setting = s.setting := by
  obtain ⟨u, hsetting, hu⟩ := exists_pass_of_settle maxPasses s
  rw [evaluateAll, hu]
  exact u.fills_pass.setting.trans hsetting

theorem tempo_evaluateAll (s : Sheet) : s.evaluateAll.tempo = s.tempo :=
  congrArg Setting.tempo s.setting_evaluateAll

theorem host_evaluateAll (s : Sheet) : s.evaluateAll.host = s.host :=
  congrArg Setting.host s.setting_evaluateAll

/-- No write is left when all cells are evaluated. -/
theorem writes_evaluateAll (s : Sheet) : s.evaluateAll.writes = [] := by
  obtain ⟨u, -, hu⟩ := exists_pass_of_settle maxPasses s
  rw [evaluateAll, hu]

/-! ## Formulas that are in no cell -/

/-- **On a sheet where every cell has a value a run leaves the grid as it
is.** -/
theorem grid_eq_of_runs {α : Type} {p : Plan α} {r : Except FormulaError α}
    (h : Runs p s r t) (hvalues : ∀ a, (s.raw? a).isSome → s.HasValue a) : t.grid = s.grid := by
  induction h with
  | done a s => rfl
  | fail e s => rfl
  | outside _ _ ih => exact ih hvalues
  | marked _ _ ih => exact ih hvalues
  | known _ _ ih => exact ih hvalues
  | @fresh _ cell _ _ _ _ _ _ _ hcell hraw _ _ _ _ =>
    -- no cell is left to be computed
    obtain ⟨v, hv⟩ := hvalues cell (by rw [hraw]; rfl)
    rw [hcell] at hv
    exact nomatch hv
  | openBus _ ih => exact ih hvalues
  | emit _ ih => exact ih hvalues

/-- **A formula that is in no cell leaves the values current.** -/
theorem Current.evaluateFormula (h : s.Current time) (text : List Char) :
    (s.evaluateFormula text).2.Current time := by
  have hrun := runs_perform (run s.setting ⟨0, 0⟩ (formulaBody text)) s
  have hgrid := grid_eq_of_runs hrun h.hasValue
  exact h.congr hgrid (congrArg Setting.tempo hrun.fills.setting) hrun.fills.host rfl

/-- It fills the sheet up like any run. -/
theorem fills_evaluateFormula (s : Sheet) (text : List Char) : Fills s (s.evaluateFormula text).2 :=
  have hfills := (runs_perform (run s.setting ⟨0, 0⟩ (formulaBody text)) s).fills
  ⟨hfills.raw, hfills.rows, hfills.cols, hfills.setting, hfills.slot⟩

theorem setting_evaluateFormula (s : Sheet) (text : List Char) :
    (s.evaluateFormula text).2.setting = s.setting :=
  (s.fills_evaluateFormula text).setting

/-- No write of its scripts is left. -/
theorem writes_evaluateFormula (s : Sheet) (text : List Char) :
    (s.evaluateFormula text).2.writes = [] :=
  rfl

end Sheet

end SoundSheet
