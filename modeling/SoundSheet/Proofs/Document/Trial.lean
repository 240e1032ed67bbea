import SoundSheet.Proofs.Document.Operations
import SoundSheet.Proofs.Sheet.Cycles
import SoundSheet.Proofs.Sheet.Lookups
import SoundSheet.Proofs.Sheet.Trial

/-!
# Trying a formula out before it is stored

A formula can be evaluated for a document without being put into a cell. This
leaves no trace in the document but audio events, whatever scripts the formula
calls and whether or not it fails (`exists_evaluate_eq`). If the formula is then
stored in an empty cell that nothing reads, the cell gets the value that was
shown before, and no other cell changes its value, up to a renaming of buses
(`evaluate_agrees_setCell`).

That the document has come about by its operations matters in one way: its sheet
shows a pass (`Sheet.ShowsPass`), the one at the time of the last evaluation,
which is the present time unless the playback time has been set since
(`storesAsShown_runAll`). So each operation is asked only what it does to the
sheet, and there are few answers. Either it ends with the evaluation of all
cells, or it sets the time, takes the audio events, evaluates a formula that is
in no cell, or does nothing (`Operation.sheetAfter`).
-/

namespace SoundSheet

open SoundSheet.Script SoundSheet.Formula SoundSheet.Text

namespace Document

/-! ## What operations do to the sheet -/

/-- The playback time that an operation sets. -/
def Operation.newTime : Operation → Option Float
  | setTime time => some time
  | _ => none

/-- **What an operation that does not evaluate all cells does to the sheet**, by
the playback time that it sets. -/
inductive Idles : Option Float → Sheet → Sheet → Prop
  /-- The sheet is left alone. -/
  | same (s : Sheet) : Idles none s s
  /-- The playback time is set. -/
  | setTime (s : Sheet) (time : Float) : Idles (some time) s { s with time := time }
  /-- The audio events are taken. -/
  | takeEvents (s : Sheet) : Idles none s s.takeEvents.2
  /-- A formula that is in no cell is evaluated. -/
  | evaluate (s : Sheet) (text : List Char) : Idles none s (s.evaluateFormula text).2

/-- **The sheet after an operation**: all its cells have been evaluated, or it
idles. -/
inductive SheetAfter (newTime : Option Float) (s : Sheet) : Bool → Sheet → Prop
  /-- All cells of some sheet have been evaluated. -/
  | evaluated (t : Sheet) : SheetAfter newTime s true t.evaluateAll
  /-- The values are as before. -/
  | idle {t : Sheet} (h : Idles newTime s t) : SheetAfter newTime s false t

variable {hosts : Hosts} {d : Document}

/-- Only an operation that sets the playback time changes it. -/
theorem Idles.time_eq {s t : Sheet} (h : Idles none s t) : t.time = s.time := by
  cases h with
  | same => rfl
  | takeEvents => rfl
  | evaluate => exact congrArg Setting.time (s.setting_evaluateFormula _)

theorem sheetAfter_setCell (d : Document) (a : Address) (text : String) :
    SheetAfter none d.sheet (d.raw? a).isSome (d.setCell a text).2.sheet := by
  rw [setCell, Sheet.enter, raw?, Sheet.raw?, Option.isSome_map]
  cases d.sheet.grid.get? a with
  | none => exact .idle (.same _)
  | some cell => exact .evaluated _

theorem sheetAfter_clearCell (d : Document) (a : Address) :
    SheetAfter none d.sheet ((d.raw? a).any (· ≠ "")) (d.clearCell a).2.sheet := by
  have hset := sheetAfter_setCell d a ""
  rw [clearCell]
  cases hraw : d.raw? a with
  | none =>
    rw [hraw] at hset
    exact hset
  | some raw =>
    rw [hraw] at hset
    by_cases hempty : raw = ""
    · rw [hempty]
      exact .idle (.same _)
    · have hne : some raw ≠ some "" := fun heq => hempty (Option.some.inj heq)
      rw [if_neg hne, Option.any_some, decide_eq_true hempty]
      exact hset

theorem sheetAfter_loadFunctions (hosts : Hosts) (d : Document) (files : Files) (path : String) :
    SheetAfter none d.sheet (d.addsFunctions hosts files path)
      (Document.loadFunctions hosts d files path).2.sheet := by
  rw [addsFunctions]
  rcases loadFunctions_cases hosts d files path with hsame | ⟨place, text, host, -, hnew⟩
  · rw [hsame, decide_eq_false (Nat.lt_irrefl _)]
    exact .idle (.same _)
  · have hmore : d.functionFiles.length < (d.functionFiles ++ [place]).length := by simp
    rw [hnew, decide_eq_true hmore]
    exact .evaluated _

theorem sheetAfter_load (d : Document) (files : Files) (path : String) :
    SheetAfter none d.sheet (readStored files path).isOk (d.load files path).2.sheet := by
  rw [load]
  cases readStored files path with
  | error e => exact .idle (.same _)
  | ok stored => exact .evaluated _

theorem evaluate_fst (d : Document) (text : String) :
    (d.evaluate text).1 = (d.sheet.evaluateFormula (trim text.toList)).1 := by
  rw [evaluate]

/-- All cells of a document that is opened have been evaluated. -/
theorem exists_sheet_opened {files : Files} {path : Option String} {functionPaths : List String}
    (h : opened hosts files path functionPaths = .ok d) : ∃ s : Sheet, d.sheet = s.evaluateAll := by
  have hfunctions : ∃ s : Sheet,
      (loadAllFunctions hosts files functionPaths (new hosts)).2.sheet = s.evaluateAll := by
    refine loadAllFunctions_induction (P := fun d => ∃ s : Sheet, d.sheet = s.evaluateAll)
      (fun path d hd => ?_) functionPaths ⟨_, sheet_new hosts⟩
    rcases loadFunctions_cases hosts d files path with hsame | ⟨place, text, host, -, hnew⟩
    · rw [hsame]
      exact hd
    · rw [hnew]
      exact ⟨_, rfl⟩
  rcases opened_cases h with ⟨-, rfl⟩ | ⟨file, stored, -, hstored, rfl⟩ | ⟨file, -, -, rfl⟩
  · exact hfunctions
  · rw [load, hstored]
    exact ⟨_, rfl⟩
  · exact hfunctions

/-- **Every operation evaluates all cells or idles.** -/
theorem Operation.sheetAfter (hosts : Hosts) (op : Operation) (d : Document) :
    SheetAfter op.newTime d.sheet (op.evaluates hosts d) (op.apply hosts d).sheet := by
  cases op with
  | openFile files path functionPaths =>
    rw [evaluates, apply]
    cases hopened : opened hosts files path functionPaths with
    | error e => exact .idle (.same _)
    | ok d' =>
      obtain ⟨s, hs⟩ := exists_sheet_opened hopened
      show SheetAfter none d.sheet true d'.sheet
      rw [hs]
      exact .evaluated s
  | setCell a text => exact sheetAfter_setCell d a text
  | clearCell a => exact sheetAfter_clearCell d a
  | setTempo bpm =>
    show SheetAfter none d.sheet (isTempo bpm) (d.setTempo bpm).2.sheet
    rw [Document.setTempo]
    cases isTempo bpm with
    | true => exact .evaluated _
    | false => exact .idle (.same _)
  | setTime time => exact .idle (.setTime _ time)
  | recalculate => exact .evaluated _
  | replaceRows rows =>
    show SheetAfter none d.sheet (!rows.all List.isEmpty) (d.replaceRows rows).2.sheet
    rw [Document.replaceRows]
    cases rows.all List.isEmpty with
    | true => exact .idle (.same _)
    | false => exact .evaluated _
  | loadFunctions files path => exact sheetAfter_loadFunctions hosts d files path
  | load files path => exact sheetAfter_load d files path
  | save files =>
    rw [evaluates, apply, sheet_save]
    exact .idle (.same _)
  | saveAs files path =>
    rw [evaluates, apply, sheet_saveAs]
    exact .idle (.same _)
  | evaluate text =>
    rw [evaluates, apply, sheet_evaluate]
    exact .idle (.evaluate d.sheet (trim text.toList))
  | exportTable files path => exact .idle (.same _)
  | takeEvents => exact .idle (.takeEvents _)

/-- **What holds of every sheet whose cells have all been evaluated, and is kept
while it idles,** holds of the sheet of every document that can be reached. -/
theorem sheet_induction {P : Sheet → Float → Prop}
    (hevaluated : ∀ s : Sheet, P s.evaluateAll s.evaluateAll.time)
    (hidle : ∀ newTime s t time, Idles newTime s t → P s time → P t time) (ops : List Operation) :
    P (runAll hosts ops).1.sheet (runAll hosts ops).2 := by
  refine runAll_induction (P := fun d time => P d.sheet time) ?_ (fun op d time h => ?_) ops
  · rw [sheet_new]
    exact hevaluated _
  · have hafter := op.sheetAfter hosts d
    rw [Operation.passTime]
    generalize op.evaluates hosts d = evaluates at hafter ⊢
    generalize (op.apply hosts d).sheet = t at hafter ⊢
    cases hafter with
    | evaluated s => exact hevaluated s
    | idle hidles => exact hidle _ _ _ _ hidles h

/-- **The sheet of a document shows the pass at the time of the last
evaluation.** -/
theorem exists_showsPass_runAll (ops : List Operation) : ∃ u : Sheet,
    u.time = (runAll hosts ops).2 ∧ (runAll hosts ops).1.sheet.ShowsPass u := by
  refine sheet_induction (P := fun s time => ∃ u : Sheet, u.time = time ∧ s.ShowsPass u)
    (fun s => ?_) (fun newTime s t time hidles h => ?_) ops
  · obtain ⟨u, htime, hu⟩ := s.exists_showsPass_evaluateAll
    exact ⟨u, htime.trans (congrArg Setting.time s.setting_evaluateAll).symm, hu⟩
  · obtain ⟨u, htime, hu⟩ := h
    refine ⟨u, htime, ?_⟩
    cases hidles with
    | same => exact hu
    | setTime => exact ⟨hu.grid, hu.tempo, hu.host, hu.fresh_le, hu.writes⟩
    | takeEvents => exact ⟨hu.grid, hu.tempo, hu.host, hu.fresh_le, hu.writes⟩
    | evaluate => exact hu.evaluateFormula _

/-! ## No trace -/

/-- **Evaluating a formula that is in no cell does not disturb the document**,
after any operations and whatever the formula is: every cell has a value
already, so none is computed, and what scripts want to be stored is dropped. All
that is added are audio events, and buses behind those that are there. No write
is queued before or after. -/
theorem exists_evaluate_eq (hosts : Hosts) (ops : List Operation) (text : String) :
    ∃ events board,
      ((runAll hosts ops).1.evaluate text).2
          = { (runAll hosts ops).1 with
              sheet := { (runAll hosts ops).1.sheet with
                writes := []
                events := (runAll hosts ops).1.sheet.events ++ events
                board := board } }
        ∧ (∀ bus, board.listeners bus = (runAll hosts ops).1.sheet.board.listeners bus)
        ∧ (runAll hosts ops).1.sheet.writes = [] := by
  obtain ⟨u, -, hpass⟩ : ∃ u : Sheet,
      u.time = (runAll hosts ops).2 ∧ (runAll hosts ops).1.sheet.ShowsPass u :=
    exists_showsPass_runAll ops
  obtain ⟨events, board, heq, hlisteners⟩ := Sheet.exists_evaluateFormula_eq
    (fun a ha => hpass.hasValue ha) (trim text.toList)
  refine ⟨events, board, ?_, hlisteners, hpass.writes⟩
  rw [evaluate, ← heq]

/-! ## The time of the last evaluation -/

theorem runAll_concat (ops : List Operation) (op : Operation) :
    runAll hosts (ops ++ [op]) = (op.apply hosts (runAll hosts ops).1,
      op.passTime hosts (runAll hosts ops).1 (runAll hosts ops).2) := by
  rw [runAll, List.foldl_append]
  rfl

/-- After an operation that evaluates all cells, the last evaluation was at the
present time. -/
theorem time_runAll_concat (ops : List Operation) {op : Operation}
    (hop : op.evaluates hosts (runAll hosts ops).1 = true) :
    (runAll hosts (ops ++ [op])).2 = (runAll hosts (ops ++ [op])).1.sheet.time := by
  rw [runAll_concat, Operation.passTime, if_pos hop]

/-- An operation that does not set the playback time evaluates all cells at the
present time, or leaves the time alone. -/
theorem Operation.passTime_eq {op : Operation} (hop : op.newTime = none) (d : Document) :
    op.passTime hosts d d.sheet.time = (op.apply hosts d).sheet.time := by
  have hafter := op.sheetAfter hosts d
  rw [hop] at hafter
  rw [Operation.passTime]
  generalize op.evaluates hosts d = evaluates at hafter ⊢
  generalize (op.apply hosts d).sheet = t at hafter ⊢
  cases hafter with
  | evaluated s => rfl
  | idle hidles => exact hidles.time_eq.symm

/-- **The last evaluation stays at the present time** until the playback time is
set. -/
theorem time_runAll_append {rest : List Operation} (hrest : ∀ op ∈ rest, op.newTime = none) :
    ∀ {ops : List Operation}, (runAll hosts ops).2 = (runAll hosts ops).1.sheet.time →
      (runAll hosts (ops ++ rest)).2 = (runAll hosts (ops ++ rest)).1.sheet.time := by
  induction rest with
  | nil =>
    intro ops h
    rwa [List.append_nil]
  | cons op rest ih =>
    intro ops h
    obtain ⟨hop, hrest⟩ := List.forall_mem_cons.mp hrest
    have hstep : (runAll hosts (ops ++ [op])).2 = (runAll hosts (ops ++ [op])).1.sheet.time := by
      rw [runAll_concat, h]
      exact Operation.passTime_eq hop _
    rw [List.append_cons]
    exact ih hrest hstep

/-! ## Trying a formula out -/

/-- **A formula can be stored in a cell with the value that it is shown to
have**: the cell gets that value, and all other cells keep theirs, up to one
renaming of buses. -/
def StoresAsShown (d : Document) (c : Address) (f : String) : Prop :=
  (d.setCell c ("=" ++ f)).1 = .ok ()
    ∧ ∃ R, Relator.BiUnique R
      ∧ (∀ a, a ≠ c → Option.Rel (CellValue.Matches R) (d.value? a)
          ((d.setCell c ("=" ++ f)).2.value? a))
      ∧ ∃ w, (d.setCell c ("=" ++ f)).2.value? c = some w
          ∧ (d.evaluate f).1.Matches R w

section Trial

variable {c : Address} {f : String} (hsign : (trim f.toList).head? ≠ some '=')

include hsign

/-- It can be if the sheet of the document shows a pass at the present time and
the formula may be tried out there. -/
theorem storesAsShown_of_trial {u : Sheet} (hpass : d.sheet.ShowsPass u)
    (htime : u.time = d.sheet.time) (htrial : d.sheet.Trial c f) : d.StoresAsShown c f := by
  have henter : d.sheet.enter c ("=" ++ f) = .ok (d.sheet.entered c ("=" ++ f)) := by
    obtain ⟨cell, hcell, -⟩ := Option.map_eq_some_iff.mp htrial.empty
    rw [Sheet.enter, hcell]
    rfl
  have hset : d.setCell c ("=" ++ f) = (.ok (), ({ d with
      sheet := d.sheet.entered c ("=" ++ f), modified := true } : Document).recalculate) := by
    rw [setCell, henter]
  have hvalue : (d.evaluate f).1
      = Sheet.valueOf (d.sheet.perform (run d.sheet.setting ⟨0, 0⟩ (trim f.toList))).1 := by
    rw [evaluate_fst, Sheet.evaluateFormula_fst, Sheet.formulaBody_of_head? hsign]
  rw [StoresAsShown, hset, hvalue]
  exact ⟨rfl, htrial.exists_renaming hpass htime⟩

/-- **It can be as long as the playback time has not been set** since some
operation evaluated all cells. -/
theorem storesAsShown_runAll {ops rest : List Operation} {op : Operation}
    (hop : op.evaluates hosts (runAll hosts ops).1 = true)
    (hrest : ∀ op ∈ rest, op.newTime = none)
    (htrial : (runAll hosts (ops ++ [op] ++ rest)).1.sheet.Trial c f) :
    (runAll hosts (ops ++ [op] ++ rest)).1.StoresAsShown c f := by
  obtain ⟨u, htime, hpass⟩ := exists_showsPass_runAll (ops ++ [op] ++ rest)
  have hpresent := time_runAll_append hrest (time_runAll_concat ops hop)
  exact storesAsShown_of_trial hsign hpass (htime.trans hpresent) htrial

end Trial

/-- **A formula that is stored has the value that it was shown to have.** Take a
document after any operations whose last evaluation was at the present time; how
it comes to be so is another matter (`storesAsShown_runAll`). Let no cell call a
script, and let the pass over its cells refuse no lookup as a circular
reference. Let `f` be a formula that calls no script and does not begin with an
equals sign when it is trimmed, and `c` an empty cell that neither the formula
nor any cell reads, not even through other cells. Then `f` can be stored in `c`
behind an equals sign; the cell gets the value that evaluating `f` gives before,
and all other cells keep their values, up to one renaming of buses. -/
theorem evaluate_agrees_setCell {hosts : Hosts} {ops : List Operation} {d : Document}
    (hd : runAll hosts ops = (d, d.sheet.time))
    (hfree : ∀ a raw, d.raw? a = some raw → ScriptFree raw) {board : Switchboard}
    (hclean : ∀ e x, Descent.Steps (Descent.ofPass (d.sheet.fromScratch d.sheet.time board)) e →
      ¬e.Refuses x)
    {f : String} (hscript : ¬CallsScript f.toList) (hsign : (trim f.toList).head? ≠ some '=')
    {c : Address} (hempty : d.raw? c = some "")
    (hunread : ∀ a raw, d.raw? a = some raw →
      ¬d.sheet.Reaches (runRaw d.sheet.setting a raw) c)
    (hunread' : ¬d.sheet.Reaches (run d.sheet.setting ⟨0, 0⟩ (trim f.toList)) c) :
    (d.setCell c ("=" ++ f)).1 = .ok ()
      ∧ ∃ R, Relator.BiUnique R
        ∧ (∀ a, a ≠ c → Option.Rel (CellValue.Matches R) (d.value? a)
            ((d.setCell c ("=" ++ f)).2.value? a))
        ∧ ∃ w, (d.setCell c ("=" ++ f)).2.value? c = some w
            ∧ (d.evaluate f).1.Matches R w := by
  obtain ⟨u, htime, hpass⟩ : ∃ u : Sheet, u.time = (runAll hosts ops).2
      ∧ (runAll hosts ops).1.sheet.ShowsPass u := exists_showsPass_runAll ops
  rw [hd] at htime hpass
  have htrial : d.sheet.Trial c f :=
    ⟨hfree, (Sheet.not_refuses_fromScratch_iff hfree board).mp hclean, hscript, hempty, hunread,
      hunread'⟩
  exact storesAsShown_of_trial hsign hpass htime htrial

/-- A document with a beat and an empty cell next to it. -/
def beatDocument : Document :=
  (runAll Script.hosts [.replaceRows [["=BEAT(120, x)", ""]]]).1

/-- A voice of the beat is tried out and stored in the empty cell. The beat has
got another bus by then, and the voice is bound to that one. -/
theorem evaluate_agrees_setCell_voice :
    runAll Script.hosts [.replaceRows [["=BEAT(120, x)", ""]]]
        = (beatDocument, beatDocument.sheet.time)
      ∧ (beatDocument.evaluate " AUDIO(440, A1)").1 = .music (.audio ⟨440, "sine", 0⟩)
      ∧ (beatDocument.setCell ⟨0, 1⟩ ("=" ++ " AUDIO(440, A1)")).2.value? ⟨0, 1⟩
        = some (.music (.audio ⟨440, "sine", 1⟩))
      ∧ (beatDocument.setCell ⟨0, 1⟩ ("=" ++ " AUDIO(440, A1)")).1 = .ok ()
      ∧ ∃ R, Relator.BiUnique R
        ∧ (∀ a, a ≠ ⟨0, 1⟩ → Option.Rel (CellValue.Matches R) (beatDocument.value? a)
            ((beatDocument.setCell ⟨0, 1⟩ ("=" ++ " AUDIO(440, A1)")).2.value? a))
        ∧ ∃ w, (beatDocument.setCell ⟨0, 1⟩ ("=" ++ " AUDIO(440, A1)")).2.value? ⟨0, 1⟩ = some w
            ∧ (beatDocument.evaluate " AUDIO(440, A1)").1.Matches R w := by
  have hd : runAll Script.hosts [.replaceRows [["=BEAT(120, x)", ""]]]
      = (beatDocument, beatDocument.sheet.time) := Prod.ext rfl (time_runAll_concat [] rfl)
  have hfree : ∀ a raw, beatDocument.raw? a = some raw → ScriptFree raw :=
    Sheet.scriptFree_of_rawRows (by decide +kernel)
  have hscript : ¬CallsScript " AUDIO(440, A1)".toList := by
    have hargs : ∀ t ∈ operandTexts " AUDIO(440, A1)".toList, isCall t = false := by
      decide +kernel
    refine not_callsScript (by decide) fun t ht source hcall => ?_
    exact Bool.false_ne_true ((hargs t ht).symm.trans (Argument.isCall_of_ofText_eq_call hcall))
  -- neither of the two cells reads any, and the voice reads the beat
  have hbeat : ∀ setting texts a, ∃ r,
      Evaluates setting texts (runRaw setting a "=BEAT(120, x)") r [] :=
    fun _ _ _ => ⟨_, .openBus 0 (.done _)⟩
  have hvoice : ∀ setting texts, texts ⟨0, 0⟩ = some "=BEAT(120, x)" → ∃ r,
      Evaluates setting texts (run setting ⟨0, 0⟩ " AUDIO(440, A1)".toList) r [⟨0, 0⟩] :=
    fun _ _ hread => ⟨_, .inside hread (.openBus 0 (.done _)) (.done _)⟩
  have hcells : ∀ a raw, beatDocument.raw? a = some raw → ∃ r,
      Evaluates beatDocument.sheet.setting beatDocument.sheet.raw?
        (runRaw beatDocument.sheet.setting a raw) r [] := by
    intro a raw hraw
    obtain ⟨row, hrow, hmem⟩ := Sheet.exists_mem_rawRows hraw
    have hrows : ∀ row ∈ beatDocument.sheet.rawRows, ∀ raw ∈ row,
        raw = "=BEAT(120, x)" ∨ raw = "" := by decide +kernel
    rcases hrows row hrow raw hmem with rfl | rfl
    · exact hbeat _ _ a
    · exact ⟨_, .done _⟩
  have hbuses : IgnoreBuses beatDocument.sheet.setting beatDocument.sheet.raw? :=
    ignoreBuses_of_scriptFree hfree
  have hclean := (Sheet.not_refuses_fromScratch_iff hfree .empty).mpr fun a ha => by
    obtain ⟨raw, hraw⟩ := Option.isSome_iff_exists.mp ha
    obtain ⟨r, hr⟩ := hcells a raw hraw
    exact ⟨_, _, raw, r, hraw, hr, rfl⟩
  refine ⟨hd, by decide +kernel, by decide +kernel, ?_⟩
  refine evaluate_agrees_setCell hd hfree hclean hscript (by decide) (by decide +kernel)
    (fun a raw hraw => ?_) ?_
  · obtain ⟨r, hr⟩ := hcells a raw hraw
    exact Sheet.not_reaches_of_evaluates hbuses (hbuses a raw hraw) hr List.not_mem_nil
  · obtain ⟨r, hr⟩ := hvoice beatDocument.sheet.setting beatDocument.sheet.raw?
      (by decide +kernel)
    rw [run_trim rfl rfl ⟨0, 0⟩ ⟨0, 0⟩ hscript]
    exact Sheet.not_reaches_of_evaluates hbuses (matches_run_of_not_callsScript _ _ hscript) hr
      (by decide)

end Document

end SoundSheet
