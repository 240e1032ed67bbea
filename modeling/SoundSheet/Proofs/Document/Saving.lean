import SoundSheet.Proofs.Document.Operations
import SoundSheet.Proofs.Document.SheetFile
import SoundSheet.Proofs.Files
import SoundSheet.Proofs.Sheet.Cycles
import SoundSheet.Proofs.Sheet.ScriptFree

/-!
# A document that is saved can be loaded

A document has a row of cells and a tempo, whatever is done to it
(`sound_runAll`). So what it is saved as passes the check of a sheet file.
Reading the file gives the raw texts and the tempo back, and loading it puts
them into any document, which then has them and no other; nothing of what that
document was before is left but its functions. If there is no script among the
texts these do not matter, and the values come out as on the sheet that was
saved, evaluated at the start (`load_saveAs`).

That the tempo is read back from its digits is a hypothesis: numbers are read
with less care than they are written.
-/

namespace SoundSheet.Document

open SoundSheet.Script SoundSheet.Formula SoundSheet.Json

/-! ## What every document keeps -/

/-- **A document that can be saved and loaded**. -/
structure Sound (d : Document) : Prop where
  /-- The grid has a row. -/
  rows : d.sheet.grid.rows ≠ 0
  /-- The tempo is finite and positive. -/
  tempo : isTempo d.sheet.tempo = true
  /-- No write is queued. -/
  writes : d.sheet.writes = []

section Steps

variable {hosts : Hosts} {d d' : Document}

/-- **An evaluation of all cells** leaves such a document. -/
theorem sound_of_evaluateAll {s : Sheet} (hrows : s.grid.rows ≠ 0) (htempo : isTempo s.tempo = true)
    (hsheet : d.sheet = s.evaluateAll) : d.Sound := by
  have hlength : s.evaluateAll.grid.rows = s.grid.rows := by
    have hlengths := congrArg List.length s.rowLengths_evaluateAll
    rwa [Grid.rowLengths, Grid.rowLengths, List.length_map, List.length_map] at hlengths
  refine ⟨?_, ?_, ?_⟩
  · rwa [hsheet, hlength]
  · rwa [hsheet, s.tempo_evaluateAll]
  · rw [hsheet, s.writes_evaluateAll]

theorem sound_new (hosts : Hosts) : (new hosts).Sound := by
  refine sound_of_evaluateAll ?_ ?_ (sheet_new hosts)
  · show (List.replicate defaultRows (List.replicate defaultCols (Cell.ofRaw ""))).length ≠ 0
    rw [List.length_replicate]
    decide
  · exact (by decide : isTempo defaultTempo = true)

/-! ## Edits -/

theorem Sound.setCell (h : d.Sound) (a : Address) (text : String) : (d.setCell a text).2.Sound := by
  rw [Document.setCell, Sheet.enter]
  cases d.sheet.grid.get? a with
  | none => exact h
  | some cell =>
    refine sound_of_evaluateAll ?_ ?_ rfl
    · exact (d.sheet.grid.rows_modify a _).trans_ne h.rows
    · exact h.tempo

theorem Sound.clearCell (h : d.Sound) (a : Address) : (d.clearCell a).2.Sound := by
  rw [Document.clearCell]
  split
  · exact h
  · exact h.setCell a ""

theorem Sound.setTempo (h : d.Sound) (bpm : Float) : (d.setTempo bpm).2.Sound := by
  rw [Document.setTempo]
  split
  · next htempo => exact sound_of_evaluateAll (s := { d.sheet with tempo := bpm }) h.rows htempo rfl
  · exact h

theorem Sound.setTime (h : d.Sound) (time : Float) : (d.setTime time).Sound :=
  ⟨h.rows, h.tempo, h.writes⟩

theorem Sound.recalculate (h : d.Sound) : d.recalculate.Sound :=
  sound_of_evaluateAll h.rows h.tempo rfl

theorem rows_setRows_ne_zero (s : Sheet) {rows : List (List String)} (h : rows ≠ []) :
    (s.setRows rows).grid.rows ≠ 0 := by
  show ((Grid.ofRows "" rows).map Cell.ofRaw).rows ≠ 0
  rw [Grid.rows_map, Grid.rows, Grid.ofRows, List.length_map]
  exact fun hlength => h (List.eq_nil_of_length_eq_zero hlength)

theorem Sound.replaceRows (h : d.Sound) (rows : List (List String)) :
    (d.replaceRows rows).2.Sound := by
  rw [Document.replaceRows]
  split
  · exact h
  · next hcells =>
    have hne : rows ≠ [] := by
      rintro rfl
      exact hcells rfl
    exact sound_of_evaluateAll (s := d.sheet.setRows rows) (rows_setRows_ne_zero _ hne) h.tempo rfl

theorem Sound.takeEvents (h : d.Sound) : d.takeEvents.2.Sound :=
  ⟨h.rows, h.tempo, h.writes⟩

theorem Sound.evaluate (h : d.Sound) (text : String) : (d.evaluate text).2.Sound := by
  have hfills := d.sheet.fills_evaluateFormula (Text.trim text.toList)
  have hwrites := d.sheet.writes_evaluateFormula (Text.trim text.toList)
  rw [Document.evaluate]
  generalize d.sheet.evaluateFormula (Text.trim text.toList) = answer at hfills hwrites
  obtain ⟨v, sheet⟩ := answer
  have htempo : sheet.tempo = d.sheet.tempo := congrArg Setting.tempo hfills.setting
  exact ⟨hfills.rows.trans_ne h.rows, htempo ▸ h.tempo, hwrites⟩

/-! ## Files -/

theorem Sound.save (h : d.Sound) (files : Files) : (d.save files).2.Sound := by
  rw [Document.save]
  cases d.file with
  | none => exact h
  | some path =>
    dsimp only
    cases files.writeText path d.stored.write with
    | ok files => exact ⟨h.rows, h.tempo, h.writes⟩
    | error e => exact h

theorem Sound.saveAs (h : d.Sound) (files : Files) (path : String) :
    (d.saveAs files path).2.Sound :=
  have hnamed : Sound { d with file := some path } := ⟨h.rows, h.tempo, h.writes⟩
  hnamed.save files

theorem Sound.load (h : d.Sound) (files : Files) (path : String) : (d.load files path).2.Sound := by
  rw [Document.load]
  cases hstored : readStored files path with
  | error e => exact h
  | ok stored =>
    obtain ⟨hrows, htempo⟩ := holdable_of_readStored hstored
    let s : Sheet := { d.sheet with tempo := stored.tempo }
    have hkept : isTempo (s.setRows stored.rows).tempo = true := by
      rw [Sheet.setRows]
      exact htempo
    exact sound_of_evaluateAll (rows_setRows_ne_zero s hrows) hkept rfl

theorem Sound.loadFunctions (h : d.Sound) (files : Files) (path : String) :
    (Document.loadFunctions hosts d files path).2.Sound := by
  rcases loadFunctions_cases hosts d files path with hsame | ⟨place, text, host, -, hnew⟩
  · rw [hsame]
    exact h
  · rw [hnew]
    exact sound_of_evaluateAll (s := { d.sheet with host := host }) h.rows h.tempo rfl

/-- **A document that is opened** can be saved and loaded. -/
theorem sound_opened {files : Files} {path : Option String} {functionPaths : List String}
    (h : opened hosts files path functionPaths = .ok d) : d.Sound := by
  have hfunctions : (loadAllFunctions hosts files functionPaths (new hosts)).2.Sound :=
    loadAllFunctions_induction (P := Sound) (fun path _ h => h.loadFunctions files path)
      functionPaths (sound_new hosts)
  rcases opened_cases h with ⟨-, hd⟩ | ⟨file, stored, -, -, hd⟩ | ⟨file, -, -, hd⟩
  · exact hd ▸ hfunctions
  · exact hd ▸ hfunctions.load files file
  · rw [hd]
    exact ⟨hfunctions.rows, hfunctions.tempo, hfunctions.writes⟩

/-! ## All operations -/

/-- **What every operation keeps.** -/
theorem Sound.apply (h : d.Sound) (op : Operation) : (op.apply hosts d).Sound := by
  cases op with
  | openFile files path functionPaths =>
    rw [Operation.apply]
    cases hopened : opened hosts files path functionPaths with
    | error e => exact h
    | ok d' => exact sound_opened hopened
  | setCell a text => exact h.setCell a text
  | clearCell a => exact h.clearCell a
  | setTempo bpm => exact h.setTempo bpm
  | setTime t => exact h.setTime t
  | recalculate => exact h.recalculate
  | replaceRows rows => exact h.replaceRows rows
  | loadFunctions files path => exact h.loadFunctions files path
  | load files path => exact h.load files path
  | save files => exact h.save files
  | saveAs files path => exact h.saveAs files path
  | evaluate text => exact h.evaluate text
  | exportTable files path => exact h
  | takeEvents => exact h.takeEvents

end Steps

/-- **Every document that can be reached** can be saved and loaded. -/
theorem sound_runAll (hosts : Hosts) (ops : List Operation) : (runAll hosts ops).1.Sound :=
  runAll_induction (P := fun d _ => d.Sound) (sound_new hosts) (fun op _ _ h => h.apply op) ops

/-! ## Saving and loading -/

section Saving

variable {d saved : Document} {files files' : Files} {path : String}

/-- **The file of a document that is saved** holds what is written for the
document. -/
theorem readText_saveAs (h : d.saveAs files path = (.ok files', saved)) :
    files'.readText path = .ok d.stored.write := by
  rw [saveAs, save] at h
  have hstored : stored { d with file := some path } = d.stored := rfl
  dsimp only at h
  rw [hstored] at h
  cases hwrite : files.writeText path d.stored.write with
  | error e =>
    rw [hwrite] at h
    cases h
  | ok written =>
    rw [hwrite] at h
    obtain rfl : written = files' := Except.ok.inj (Prod.mk.inj h).1
    exact Files.readText_writeText hwrite

/-- What is written for a document is read as its raw texts and its tempo. -/
theorem read_write_stored (hd : d.Sound)
    (htempo : readNumber (Decimal.stored.write d.sheet.tempo) = some (d.sheet.tempo, [])) :
    SheetFile.read d.stored.write = .ok ⟨d.sheet.rawRows, d.sheet.tempo⟩ := by
  have hrows : d.sheet.rawRows ≠ [] := by
    intro hnil
    have hlength : (d.sheet.grid.map Cell.raw).rows = 0 := congrArg List.length hnil
    rw [Grid.rows_map] at hlength
    exact hd.rows hlength
  exact SheetFile.read_write htempo hrows hd.tempo

/-- **A sheet file without scripts** is loaded into any document: the document
then has the raw texts and the tempo of the file, at the start, and shows what
any other sheet with these shows. -/
theorem load_of_readStored {s : Sheet} (hread : readStored files path = .ok ⟨s.rawRows, s.tempo⟩)
    (hfree : ∀ a raw, s.raw? a = some raw → ScriptFree raw) (htime : s.time = 0)
    (hwrites : s.writes = []) (d : Document) :
    ∃ loaded, d.load files path = (.ok (), loaded) ∧ loaded.sheet.rawRows = s.rawRows
      ∧ loaded.sheet.tempo = s.tempo ∧ loaded.sheet.time = 0 ∧ loaded.modified = false
      ∧ s.evaluateAll.SameValues loaded.sheet := by
  let t : Sheet := { d.sheet with tempo := s.tempo }.setRows s.rawRows
  have hraw : t.rawRows = s.rawRows :=
    (Sheet.rawRows_setRows _ _).trans (Grid.toRows_ofRows "" (s.grid.map Cell.raw))
  have hfree' : ∀ a raw, t.raw? a = some raw → ScriptFree raw := fun a raw ha =>
    hfree a raw ((Sheet.raw?_of_rawRows_eq hraw a).symm.trans ha)
  have hsetting : t.evaluateAll.setting = t.setting := t.setting_evaluateAll
  refine ⟨{ d with sheet := t.evaluateAll, file := some path, modified := false }, ?_, ?_, ?_, ?_,
    rfl, ?_⟩
  · rw [load, hread]
    dsimp only
    rw [Sheet.replaceRows]
  · exact (Sheet.rawRows_evaluateAll_of_scriptFree hfree' rfl).trans hraw
  · exact congrArg Setting.tempo hsetting
  · exact congrArg Setting.time hsetting
  · exact Sheet.sameValues_evaluateAll hfree hraw rfl htime.symm hwrites rfl

end Saving

/-- **Saving and loading keep a sheet**, whatever has been done to the document
and whatever its texts are, if its tempo is read back from its digits. When it
has been saved, its file is read as its raw texts and its tempo. If no text is a
script, the file can then be loaded into any document, with whatever host: that
document has these raw texts and this tempo, is at the start and is not marked
as modified, and it shows what the saved document shows at the start, up to a
renaming of buses. -/
theorem load_saveAs (hosts : Hosts) (ops : List Operation) {files files' : Files} {path : String}
    {saved : Document}
    (htempo : readNumber (Decimal.stored.write (runAll hosts ops).1.sheet.tempo)
      = some ((runAll hosts ops).1.sheet.tempo, []))
    (hsaved : (runAll hosts ops).1.saveAs files path = (.ok files', saved)) :
    (∃ text, files'.readText path = .ok text
        ∧ SheetFile.read text
          = .ok ⟨(runAll hosts ops).1.sheet.rawRows, (runAll hosts ops).1.sheet.tempo⟩)
      ∧ ((∀ a raw, (runAll hosts ops).1.raw? a = some raw → ScriptFree raw) →
          ∀ d : Document, ∃ loaded, d.load files' path = (.ok (), loaded)
            ∧ loaded.sheet.rawRows = (runAll hosts ops).1.sheet.rawRows
            ∧ loaded.sheet.tempo = (runAll hosts ops).1.sheet.tempo
            ∧ loaded.sheet.time = 0
            ∧ loaded.modified = false
            ∧ ((runAll hosts ops).1.setTime 0).recalculate.sheet.SameValues loaded.sheet) := by
  have hsound := sound_runAll hosts ops
  generalize (runAll hosts ops).1 = d at htempo hsaved hsound ⊢
  have htext := readText_saveAs hsaved
  have hread := read_write_stored hsound htempo
  refine ⟨⟨d.stored.write, htext, hread⟩, fun hfree other => ?_⟩
  have hfile : readStored files' path = .ok ⟨d.sheet.rawRows, d.sheet.tempo⟩ := by
    rw [readStored, htext]
    show (Except.ok d.stored.write).bind SheetFile.read = _
    rw [Except.bind, hread]
  exact load_of_readStored (s := (d.setTime 0).sheet) hfile hfree rfl hsound.writes other

/-- A document with a beat, and with a text that has to be escaped. -/
def quoting : Document :=
  (runAll Script.hosts [.replaceRows [["=BEAT(120, x)"], ["a", "\"\\\t😀"]], .setTime 2]).1

/-- It is saved, and its file is read back and loaded into any other document,
with the row that was short filled up. -/
theorem load_saveAs_quoting : ∃ files saved, quoting.saveAs .bare "song.json" = (.ok files, saved)
    ∧ (∃ text, files.readText "song.json" = .ok text
        ∧ SheetFile.read text = .ok ⟨[["=BEAT(120, x)", ""], ["a", "\"\\\t😀"]], 120⟩)
    ∧ ∀ d : Document, ∃ loaded, d.load files "song.json" = (.ok (), loaded)
        ∧ loaded.sheet.rawRows = [["=BEAT(120, x)", ""], ["a", "\"\\\t😀"]]
        ∧ (quoting.setTime 0).recalculate.sheet.SameValues loaded.sheet := by
  have hrows : quoting.sheet.rawRows = [["=BEAT(120, x)", ""], ["a", "\"\\\t😀"]] := by
    decide +kernel
  have htempo : quoting.sheet.tempo = 120 := by decide +kernel
  have hnumber : readNumber (Decimal.stored.write quoting.sheet.tempo)
      = some (quoting.sheet.tempo, []) := by
    rw [htempo]
    decide +kernel
  have hfree : ∀ a raw, quoting.raw? a = some raw → ScriptFree raw :=
    Sheet.scriptFree_of_rawRows (by rw [hrows]; decide +kernel)
  have hok : (quoting.saveAs .bare "song.json").1.isOk = true := by decide +kernel
  rcases hsaved : quoting.saveAs .bare "song.json" with ⟨outcome, saved⟩
  rw [hsaved] at hok
  cases outcome with
  | error e => exact nomatch hok
  | ok files =>
    obtain ⟨hread, hload⟩ := load_saveAs Script.hosts _ hnumber hsaved
    refine ⟨files, saved, rfl, ?_, fun d => ?_⟩
    · rw [← hrows, ← htempo]
      exact hread
    · obtain ⟨loaded, hloaded, hraw, -, -, -, hvalues⟩ := hload hfree d
      exact ⟨loaded, hloaded, hraw.trans hrows, hvalues⟩

end SoundSheet.Document
