import SoundSheet.Proofs.Document.Operations
import SoundSheet.Proofs.Files
import SoundSheet.Proofs.Sheet.Cycles
import SoundSheet.Proofs.Sheet.ScriptFree

/-!
# Whether a document has been modified

A document that is not marked as modified should be what it was last loaded from
or saved as, or a new one. So a *baseline* is carried along beside the document:
the rows and the tempo that were read or written last, and whether an evaluation
since then – that of loading included – was one in which scripts rewrote texts.
No operation reads it.

For the tempo the mark is true, and for the raw texts it is true unless scripts
have rewritten some (`unmodified_runAll`). An edit sets the mark, and all other
operations leave raw texts and tempo alone, but for the evaluation that they may
end with. Such an evaluation stores what scripts write and does not set the
mark. So a document can have other texts than its file and not be marked
(`rewritten_recalculate`).
-/

namespace SoundSheet

open SoundSheet.Script SoundSheet.Formula

/-! ## Sheets -/

namespace Sheet

/-- **Whether scripts rewrite the texts** of a sheet when all cells are
evaluated: a write of the first pass changes a text. -/
def rewrites (s : Sheet) : Bool :=
  s.pass.storeWrites.1

/-- **An evaluation in which scripts rewrite nothing** leaves the raw texts
alone. -/
theorem rawRows_evaluateAll_of_rewrites {s : Sheet} (h : s.rewrites = false) :
    s.evaluateAll.rawRows = s.rawRows := by
  have hstore : s.pass.storeWrites = (false, s.pass.storeWrites.2) := Prod.ext h rfl
  have hend : s.pass.storeWrites.2 = { s.pass with writes := [] } := storeAll_eq_of_unchanged hstore
  rw [evaluateAll, maxPasses, settle, hstore, hend]
  exact (SameTexts.self_end s).rawRows_eq

/-- A formula that is in no cell changes no raw text. -/
theorem rawRows_evaluateFormula (s : Sheet) (text : List Char) :
    (s.evaluateFormula text).2.rawRows = s.rawRows :=
  (s.fills_evaluateFormula text).sameTexts.rawRows_eq

end Sheet

namespace Document

/-! ## Baselines -/

/-- **What a document was last loaded from or saved as**. -/
structure Baseline where
  /-- The rows, filled up to one length, and the tempo. -/
  file : SheetFile
  /-- Whether scripts have rewritten texts in an evaluation since. -/
  rewritten : Bool

/-- The baseline of a document with the file that it is loaded from, if that can
be read. -/
def Baseline.loaded (d : Document) (files : Files) (path : String) (b : Baseline) : Baseline :=
  match readStored files path with
  | .error _ => b
  | .ok stored =>
    ⟨⟨(Grid.ofRows "" stored.rows).toRows, stored.tempo⟩,
      ({ d.sheet with tempo := stored.tempo }.setRows stored.rows).rewrites⟩

/-- The baseline of a document that has been saved, if it could be. -/
def Baseline.saved (d : Document) (attempt : Except DocumentError Files × Document)
    (b : Baseline) : Baseline :=
  if attempt.1.isOk then ⟨d.stored, false⟩ else b

/-- The baseline of a new document. -/
def Baseline.new (hosts : Hosts) : Baseline :=
  ⟨(Document.new hosts).stored, false⟩

/-- The baseline after a document has been opened, if it could be. -/
def Baseline.opened (hosts : Hosts) (files : Files) (path : Option String)
    (functionPaths : List String) (b : Baseline) : Baseline :=
  if (Document.opened hosts files path functionPaths).isOk then
    match path with
    | none => .new hosts
    | some path =>
      .loaded (loadAllFunctions hosts files functionPaths (Document.new hosts)).2 files path
        (.new hosts)
  else b

/-- The baseline after functions have been loaded, if they could be. -/
def Baseline.withFunctions (hosts : Hosts) (d : Document) (files : Files) (path : String)
    (b : Baseline) : Baseline :=
  let host := (loadFunctions hosts d files path).2.sheet.host
  { b with
    rewritten := b.rewritten
      || d.addsFunctions hosts files path && { d.sheet with host := host }.rewrites }

/-- **The baseline after an operation**. -/
def Operation.baseline (hosts : Hosts) : Operation → Document → Baseline → Baseline
  | openFile files path functionPaths, _, b => b.opened hosts files path functionPaths
  | recalculate, d, b => { b with rewritten := b.rewritten || d.sheet.rewrites }
  | loadFunctions files path, d, b => b.withFunctions hosts d files path
  | load files path, d, b => b.loaded d files path
  | save files, d, b => b.saved d (d.save files)
  | saveAs files path, d, b => b.saved d (d.saveAs files path)
  | setCell _ _, _, b | clearCell _, _, b | setTempo _, _, b | setTime _, _, b
  | replaceRows _, _, b | evaluate _, _, b | exportTable _ _, _, b | takeEvents, _, b => b

/-- The baseline after operations in order. -/
def baselineAfter (hosts : Hosts) : List Operation → Document → Baseline → Baseline
  | [], _, b => b
  | op :: ops, d, b => baselineAfter hosts ops (op.apply hosts d) (op.baseline hosts d b)

/-- **The baseline of a document after operations on a new one**. -/
def baseline (hosts : Hosts) (ops : List Operation) : Baseline :=
  baselineAfter hosts ops (new hosts) (.new hosts)

/-! ## The invariant -/

/-- **A document whose mark is true to a baseline**: if it is not marked as
modified, its tempo is that of the baseline, and so are its raw texts if scripts
have rewritten none. -/
structure Tracks (d : Document) (b : Baseline) : Prop where
  /-- The tempo. -/
  tempo : d.modified = false → d.sheet.tempo = b.file.tempo
  /-- The raw texts. -/
  rows : d.modified = false → b.rewritten = false → d.sheet.rawRows = b.file.rows

section Steps

variable {hosts : Hosts} {d d' : Document} {b : Baseline}

/-- A document that is marked may be anything. -/
theorem tracks_of_modified (h : d.modified = true) : d.Tracks b :=
  ⟨fun hmark => Bool.noConfusion (h.symm.trans hmark),
    fun hmark => Bool.noConfusion (h.symm.trans hmark)⟩

/-- Nothing but raw texts, tempo and mark matters. -/
theorem Tracks.congr (h : d.Tracks b) (hrows : d'.sheet.rawRows = d.sheet.rawRows)
    (htempo : d'.sheet.tempo = d.sheet.tempo) (hmark : d'.modified = d.modified) :
    d'.Tracks b :=
  ⟨fun hd' => htempo.trans (h.tempo (hmark ▸ hd')),
    fun hd' hb => hrows.trans (h.rows (hmark ▸ hd') hb)⟩

/-- **An evaluation of all cells**, for which the baseline notes whether scripts
rewrite texts. -/
theorem Tracks.evaluateAll (h : d.Tracks b) {s : Sheet} (hsheet : d'.sheet = s.evaluateAll)
    (hrows : s.rawRows = d.sheet.rawRows) (htempo : s.tempo = d.sheet.tempo)
    (hmark : d'.modified = d.modified) :
    d'.Tracks { b with rewritten := b.rewritten || s.rewrites } := by
  refine ⟨fun hd' => ?_, fun hd' hb => ?_⟩
  · rw [hsheet, s.tempo_evaluateAll, htempo]
    exact h.tempo (hmark ▸ hd')
  · obtain ⟨hbefore, hnow⟩ := Bool.or_eq_false_iff.mp hb
    rw [hsheet, Sheet.rawRows_evaluateAll_of_rewrites hnow, hrows]
    exact h.rows (hmark ▸ hd') hbefore

/-! ## Edits -/

theorem Tracks.setCell (h : d.Tracks b) (a : Address) (text : String) :
    (d.setCell a text).2.Tracks b := by
  rw [Document.setCell]
  cases d.sheet.enter a text with
  | ok sheet => exact tracks_of_modified rfl
  | error e => exact h

theorem Tracks.clearCell (h : d.Tracks b) (a : Address) : (d.clearCell a).2.Tracks b := by
  rw [Document.clearCell]
  split
  · exact h
  · exact h.setCell a ""

theorem Tracks.setTempo (h : d.Tracks b) (bpm : Float) : (d.setTempo bpm).2.Tracks b := by
  rw [Document.setTempo]
  split
  · exact tracks_of_modified rfl
  · exact h

theorem Tracks.replaceRows (h : d.Tracks b) (rows : List (List String)) :
    (d.replaceRows rows).2.Tracks b := by
  rw [Document.replaceRows]
  split
  · exact h
  · exact tracks_of_modified rfl

theorem Tracks.setTime (h : d.Tracks b) (time : Float) : (d.setTime time).Tracks b :=
  h.congr rfl rfl rfl

theorem Tracks.recalculate (h : d.Tracks b) :
    d.recalculate.Tracks { b with rewritten := b.rewritten || d.sheet.rewrites } :=
  h.evaluateAll rfl rfl rfl rfl

theorem Tracks.takeEvents (h : d.Tracks b) : d.takeEvents.2.Tracks b :=
  h.congr rfl rfl rfl

theorem Tracks.evaluate (h : d.Tracks b) (text : String) : (d.evaluate text).2.Tracks b := by
  have hrows := d.sheet.rawRows_evaluateFormula (Text.trim text.toList)
  have hsetting := d.sheet.setting_evaluateFormula (Text.trim text.toList)
  rw [Document.evaluate]
  generalize d.sheet.evaluateFormula (Text.trim text.toList) = answer at hrows hsetting
  exact h.congr hrows (congrArg Setting.tempo hsetting) rfl

/-! ## Files -/

theorem Tracks.save (h : d.Tracks b) (files : Files) :
    (d.save files).2.Tracks (b.saved d (d.save files)) := by
  rw [Document.save]
  cases d.file with
  | none => exact h
  | some path =>
    dsimp only
    cases files.writeText path d.stored.write with
    | ok files => exact ⟨fun _ => rfl, fun _ _ => rfl⟩
    | error e => exact h

theorem Tracks.saveAs (h : d.Tracks b) (files : Files) (path : String) :
    (d.saveAs files path).2.Tracks (b.saved d (d.saveAs files path)) :=
  have hnamed : Tracks { d with file := some path } b := h.congr rfl rfl rfl
  hnamed.save files

/-- **A document is what it is loaded from**, unless scripts rewrite that at
once. -/
theorem Tracks.load (h : d.Tracks b) (files : Files) (path : String) :
    (d.load files path).2.Tracks (b.loaded d files path) := by
  rw [Document.load, Baseline.loaded]
  cases readStored files path with
  | error e => exact h
  | ok stored =>
    refine ⟨fun _ => Sheet.tempo_evaluateAll _, fun _ hb => ?_⟩
    exact (Sheet.rawRows_evaluateAll_of_rewrites hb).trans (Sheet.rawRows_setRows _ _)

theorem Tracks.loadFunctions (h : d.Tracks b) (files : Files) (path : String) :
    (Document.loadFunctions hosts d files path).2.Tracks (b.withFunctions hosts d files path) := by
  rw [Baseline.withFunctions, addsFunctions]
  rcases loadFunctions_cases hosts d files path with hsame | ⟨place, text, host, -, hnew⟩
  · rw [hsame, decide_eq_false (Nat.lt_irrefl _), Bool.false_and, Bool.or_false]
    exact h
  · have hmore : d.functionFiles.length < (d.functionFiles ++ [place]).length := by simp
    have hhost : { d.sheet with host := host }.evaluateAll.host = host :=
      congrArg Setting.host (Sheet.setting_evaluateAll _)
    rw [hnew, decide_eq_true hmore, Bool.true_and]
    dsimp only
    rw [hhost]
    exact h.evaluateAll (s := { d.sheet with host := host }) rfl rfl rfl rfl

/-! ## Opening -/

/-- **A document without texts**: every raw text is empty, the tempo is the
default one and no write is queued. -/
structure Empty (d : Document) : Prop where
  /-- The raw texts are empty, and as many as in a new document. -/
  rows : d.sheet.rawRows = List.replicate defaultRows (List.replicate defaultCols "")
  /-- The tempo is the default one. -/
  tempo : d.sheet.tempo = defaultTempo
  /-- No write is queued. -/
  writes : d.sheet.writes = []

/-- **Evaluating all cells** finds nothing to do where every raw text is
empty. -/
theorem empty_of_evaluateAll {s : Sheet}
    (hrows : s.rawRows = List.replicate defaultRows (List.replicate defaultCols ""))
    (htempo : s.tempo = defaultTempo) (hwrites : s.writes = [])
    (hsheet : d.sheet = s.evaluateAll) : d.Empty := by
  have hfree := Sheet.scriptFree_of_rawRows (s := s) fun row hrow raw hraw body hbody => by
    rw [hrows] at hrow
    rw [List.eq_of_mem_replicate hrow] at hraw
    rw [List.eq_of_mem_replicate hraw] at hbody
    exact nomatch hbody
  refine ⟨?_, ?_, ?_⟩
  · rw [hsheet, Sheet.rawRows_evaluateAll_of_scriptFree hfree hwrites, hrows]
  · rw [hsheet, s.tempo_evaluateAll, htempo]
  · rw [hsheet, s.writes_evaluateAll]

/-- **A new document has no texts**. -/
theorem empty_new (hosts : Hosts) : (new hosts).Empty := by
  have hrows (host : Host) : (Sheet.new defaultRows defaultCols host).rawRows
      = List.replicate defaultRows (List.replicate defaultCols "") := by
    show (List.replicate defaultRows (List.replicate defaultCols (Cell.ofRaw ""))).map
        (List.map Cell.raw) = _
    rw [List.map_replicate, List.map_replicate, Cell.ofRaw]
  exact empty_of_evaluateAll (hrows hosts.plain) rfl rfl (sheet_new hosts)

/-- Functions alone do not bring in any. -/
theorem Empty.loadFunctions (h : d.Empty) (hosts : Hosts) (files : Files) (path : String) :
    (Document.loadFunctions hosts d files path).2.Empty := by
  rcases loadFunctions_cases hosts d files path with hsame | ⟨place, text, host, -, hnew⟩
  · rw [hsame]
    exact h
  · rw [hnew]
    exact empty_of_evaluateAll (s := { d.sheet with host := host }) h.rows h.tempo h.writes rfl

/-- Documents without texts are alike. -/
theorem Empty.tracks (h : d.Empty) (h' : d'.Empty) : d.Tracks ⟨d'.stored, false⟩ :=
  ⟨fun _ => h.tempo.trans h'.tempo.symm, fun _ _ => h.rows.trans h'.rows.symm⟩

/-- Where there is no file, the baseline stays. -/
theorem Baseline.loaded_of_not_has {files : Files} {path : String} (h : ¬files.has path = true) :
    b.loaded d files path = b := by
  obtain ⟨e, he⟩ := exists_readStored_eq_error h
  rw [Baseline.loaded, he]

/-- **A document that is opened** is what its file holds, or like a new one. -/
theorem tracks_opened {files : Files} {path : Option String} {functionPaths : List String}
    (h : opened hosts files path functionPaths = .ok d) :
    d.Tracks (b.opened hosts files path functionPaths) := by
  have hempty : (loadAllFunctions hosts files functionPaths (new hosts)).2.Empty :=
    loadAllFunctions_induction (P := Empty) (fun path _ h => h.loadFunctions hosts files path)
      functionPaths (empty_new hosts)
  unfold Baseline.opened
  rw [h, if_pos (show (Except.ok d : Except DocumentError Document).isOk = true from rfl)]
  rcases opened_cases h with ⟨rfl, hd⟩ | ⟨file, stored, rfl, -, hd⟩ | ⟨file, rfl, hhas, hd⟩
  · rw [hd]
    exact hempty.tracks (empty_new hosts)
  · rw [hd]
    exact (hempty.tracks (empty_new hosts)).load files file
  · dsimp only
    rw [Baseline.loaded_of_not_has hhas, hd]
    exact Empty.tracks ⟨hempty.rows, hempty.tempo, hempty.writes⟩ (empty_new hosts)

theorem Tracks.openFile (h : d.Tracks b) (files : Files) (path : Option String)
    (functionPaths : List String) :
    ((opened hosts files path functionPaths).toOption.getD d).Tracks
      (b.opened hosts files path functionPaths) := by
  cases hopened : opened hosts files path functionPaths with
  | error e =>
    unfold Baseline.opened
    rw [hopened]
    exact h
  | ok d' => exact tracks_opened hopened

/-! ## All operations -/

/-- **What every operation keeps**: the mark stays true to the baseline. -/
theorem Tracks.apply (h : d.Tracks b) (op : Operation) :
    (op.apply hosts d).Tracks (op.baseline hosts d b) := by
  cases op with
  | openFile files path functionPaths => exact h.openFile files path functionPaths
  | setCell a text => exact h.setCell a text
  | clearCell a => exact h.clearCell a
  | setTempo bpm => exact h.setTempo bpm
  | setTime t => exact h.setTime t
  | recalculate => exact h.recalculate
  | replaceRows rows => exact h.replaceRows rows
  | loadFunctions files path => exact h.loadFunctions files path
  | load files path => exact h.load files path
  | save files => exact h.save files
  | saveAs files path => exact h.saveAs files path
  | evaluate text => exact h.evaluate text
  | exportTable files path => exact h
  | takeEvents => exact h.takeEvents

end Steps

/-- So do operations in order. -/
theorem Tracks.runAll {hosts : Hosts} (ops : List Operation) : ∀ {d : Document} {time : Float}
    {b : Baseline}, d.Tracks b →
      (ops.foldl (fun (d, time) op => (op.apply hosts d, op.passTime hosts d time))
        (d, time)).1.Tracks (baselineAfter hosts ops d b) := by
  induction ops with
  | nil => exact fun h => h
  | cons op ops ih => exact fun h => ih (h.apply op)

/-- **A document that is not marked as modified** has the tempo that was last
read or written, and the raw texts too unless scripts have rewritten some in an
evaluation since: whatever has been done to it, with whatever host. -/
theorem unmodified_runAll (hosts : Hosts) (ops : List Operation)
    (h : (runAll hosts ops).1.modified = false) :
    (runAll hosts ops).1.sheet.tempo = (baseline hosts ops).file.tempo
      ∧ ((baseline hosts ops).rewritten = false →
          (runAll hosts ops).1.sheet.rawRows = (baseline hosts ops).file.rows) := by
  have htracks : (runAll hosts ops).1.Tracks (baseline hosts ops) :=
    .runAll ops ((empty_new hosts).tracks (empty_new hosts))
  exact ⟨htracks.tempo h, htracks.rows h⟩

/-- A script is entered and saved, and runs again at another time. -/
def runAgain (script : String) : List Operation :=
  [.replaceRows [[script, ""]], .saveAs .bare "song.json", .setTime 4, .recalculate]

/-- The script writes the same text again, and the file holds what it wrote at
first. -/
theorem unmodified_runAgain :
    let ops := runAgain "=JS(setValue(\"B1\", \"x\"))"
    (runAll Script.hosts ops).1.modified = false
      ∧ (baseline Script.hosts ops).rewritten = false
      ∧ (baseline Script.hosts ops).file.rows = [["=JS(setValue(\"B1\", \"x\"))", "x"]]
      ∧ (runAll Script.hosts ops).1.sheet.tempo = (baseline Script.hosts ops).file.tempo
      ∧ (runAll Script.hosts ops).1.sheet.rawRows = (baseline Script.hosts ops).file.rows := by
  intro ops
  obtain ⟨hmark, hsettled, hfile⟩ : (runAll Script.hosts ops).1.modified = false
      ∧ (baseline Script.hosts ops).rewritten = false
      ∧ (baseline Script.hosts ops).file.rows = [["=JS(setValue(\"B1\", \"x\"))", "x"]] := by
    decide +kernel
  obtain ⟨htempo, hrows⟩ := unmodified_runAll Script.hosts ops hmark
  exact ⟨hmark, hsettled, hfile, htempo, hrows hsettled⟩

/-- **A script can write another text** than the file holds, and the document is
not marked as modified. -/
theorem rewritten_recalculate :
    let ops := runAgain "=JS(setValue(\"B1\", getCurrentTime()))"
    (runAll Script.hosts ops).1.modified = false
      ∧ (baseline Script.hosts ops).file.rows = [["=JS(setValue(\"B1\", getCurrentTime()))", "0"]]
      ∧ (runAll Script.hosts ops).1.sheet.rawRows
        = [["=JS(setValue(\"B1\", getCurrentTime()))", "4"]] :=
  by decide +kernel

end Document

end SoundSheet
