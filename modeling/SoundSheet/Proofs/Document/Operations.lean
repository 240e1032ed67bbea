import SoundSheet.Document.Storage
import SoundSheet.Proofs.Sheet.Current

/-!
# Documents show current values

A document is edited, saved, loaded, and asked for formulas in any order, and
some of this fails. Whatever is done to it, its values are current: they are
those of one pass from scratch over the raw texts it has now, with the functions
and the tempo it has now, as of the time of the last pass (`current_runAll`).
The playback time is the only thing that may have changed since.

Every operation does one of two things to the sheet. Either it ends with the
evaluation of all cells, or it leaves raw texts, tempo and functions alone;
`Operation.evaluates` says which. That operations fail makes no difference,
since one that fails belongs to the second kind.
-/

namespace SoundSheet

open SoundSheet.Script SoundSheet.Formula

/-! ## Hosts of functions -/

/-- **The host for the functions of a document**. -/
def Script.Hosts.forFunctions (hosts : Hosts) : Option String → Except String Host
  | none => .ok hosts.plain
  | some text => hosts.withPrelude text

/-- **Hosts that treat buses as mere names**, with whatever functions. -/
def Script.Hosts.RespectRenaming (hosts : Hosts) : Prop :=
  ∀ functions host, hosts.forFunctions functions = .ok host → host.RespectsRenaming

/-- The hosts of the script language do. -/
theorem Script.respectRenaming_hostsDrawing (draws : Address → Draws) :
    (hostsDrawing draws).RespectRenaming := by
  intro functions host h R _
  cases functions with
  | none =>
    obtain rfl : hostDrawing draws = host := Except.ok.inj h
    exact respects_hostDrawing draws R
  | some prelude =>
    have h : (compile draws prelude).mapError ParseFault.describe = .ok host := h
    rw [compile] at h
    cases hparse : Program.parse prelude.toList with
    | error fault => rw [hparse] at h; exact nomatch h
    | ok program =>
      rw [hparse] at h
      obtain rfl : hostWith draws prelude = host := Except.ok.inj h
      exact respects_hostWith draws R prelude

/-! ## The tempo -/

/-- **A tempo is finite and positive.** -/
theorem isFinite_and_pos_of_isTempo {bpm : Float} (h : isTempo bpm = true) :
    bpm.isFinite = true ∧ 0 < bpm := by
  obtain ⟨hfinite, hpos⟩ := Bool.and_eq_true_iff.mp h
  refine ⟨hfinite, ?_⟩
  -- a tempo is asked not to be at most zero, which for a finite number is to be positive
  have hle : ¬bpm.toModel.unpack.le (.zero .positive) = true := by
    intro hle
    have hbpm : bpm ≤ 0 := decide_eq_true hle
    rw [decide_eq_true hbpm] at hpos
    exact nomatch hpos
  have hfin : bpm.toModel.unpack.isFinite = true := hfinite
  suffices hlt : Float.Model.UnpackedFloat.lt (.zero .positive) bpm.toModel.unpack = true from
    decide_eq_true hlt
  generalize bpm.toModel.unpack = x at hle hfin
  cases x with
  | notANumber => exact nomatch hfin
  | infinity sign => exact nomatch hfin
  | zero sign => exact absurd rfl hle
  | finite sign m e hm =>
    cases sign with
    | positive => rfl
    | negative => exact absurd rfl hle

namespace Document

/-! ## Operations -/

/-- **What can be done to a document**. An operation on files is given the files
as they are at the time. -/
inductive Operation where
  /-- Open another document with files of functions. -/
  | openFile (files : Files) (path : Option String) (functionPaths : List String)
  /-- Put a raw text into a cell. -/
  | setCell (a : Address) (text : String)
  /-- Clear a cell. -/
  | clearCell (a : Address)
  /-- Set the tempo. -/
  | setTempo (bpm : Float)
  /-- Set the playback time. -/
  | setTime (time : Float)
  /-- Evaluate all cells. -/
  | recalculate
  /-- Put other raw texts in place of the grid. -/
  | replaceRows (rows : List (List String))
  /-- Load a file of functions. -/
  | loadFunctions (files : Files) (path : String)
  /-- Load a sheet file. -/
  | load (files : Files) (path : String)
  /-- Save to the file of the document. -/
  | save (files : Files)
  /-- Save to a path. -/
  | saveAs (files : Files) (path : String)
  /-- Evaluate a formula that is in no cell. -/
  | evaluate (text : String)
  /-- Export the table. -/
  | exportTable (files : Files) (path : String)
  /-- Take the audio events. -/
  | takeEvents

/-- **The document after an operation**, whether it succeeds or fails. -/
def Operation.apply (hosts : Hosts) : Operation → Document → Document
  | openFile files path functionPaths, d => (opened hosts files path functionPaths).toOption.getD d
  | setCell a text, d => (d.setCell a text).2
  | clearCell a, d => (d.clearCell a).2
  | setTempo bpm, d => (d.setTempo bpm).2
  | setTime time, d => d.setTime time
  | recalculate, d => d.recalculate
  | replaceRows rows, d => (d.replaceRows rows).2
  | loadFunctions files path, d => (Document.loadFunctions hosts d files path).2
  | load files path, d => (d.load files path).2
  | save files, d => (d.save files).2
  | saveAs files path, d => (d.saveAs files path).2
  | evaluate text, d => (d.evaluate text).2
  | exportTable _ _, d => d
  | takeEvents, d => d.takeEvents.2

/-- Whether a file of functions is added to those of the document when it is
loaded, as it is unless it is there already or something is wrong with it. -/
def addsFunctions (hosts : Hosts) (d : Document) (files : Files) (path : String) : Bool :=
  d.functionFiles.length < (loadFunctions hosts d files path).2.functionFiles.length

/-- **Whether an operation evaluates all cells**: if it changes anything that
values are made from, and if it is asked to. -/
def Operation.evaluates (hosts : Hosts) : Operation → Document → Bool
  | openFile files path functionPaths, _ => (opened hosts files path functionPaths).isOk
  | setCell a _, d => (d.raw? a).isSome
  | clearCell a, d => (d.raw? a).any (· ≠ "")
  | setTempo bpm, _ => isTempo bpm
  | recalculate, _ => true
  | replaceRows rows, _ => !rows.all List.isEmpty
  | loadFunctions files path, d => d.addsFunctions hosts files path
  | load files path, _ => (readStored files path).isOk
  | setTime _, _ | save _, _ | saveAs _ _, _ | evaluate _, _ | exportTable _ _, _
  | takeEvents, _ => false

/-- **The time of the last pass** after an operation: that of the sheet if all
cells were evaluated, and else as before. -/
def Operation.passTime (hosts : Hosts) (op : Operation) (d : Document) (time : Float) : Float :=
  if op.evaluates hosts d then (op.apply hosts d).sheet.time else time

/-- **A new document after some operations in order**, and the time of the last
pass. -/
def runAll (hosts : Hosts) (ops : List Operation) : Document × Float :=
  ops.foldl (fun (d, time) op => (op.apply hosts d, op.passTime hosts d time))
    (new hosts, (new hosts).sheet.time)

/-- **What holds of a new document and is kept by every operation** holds of
every document that can be reached. -/
theorem runAll_induction {hosts : Hosts} {P : Document → Float → Prop}
    (hnew : P (new hosts) (new hosts).sheet.time)
    (hstep : ∀ op d time, P d time → P (Operation.apply hosts op d) (op.passTime hosts d time))
    (ops : List Operation) : P (runAll hosts ops).1 (runAll hosts ops).2 := by
  have hfold : ∀ {d : Document} {time : Float}, P d time →
      P (ops.foldl (fun (d, time) op => (op.apply hosts d, op.passTime hosts d time)) (d, time)).1
        (ops.foldl (fun (d, time) op => (op.apply hosts d, op.passTime hosts d time))
          (d, time)).2 := by
    induction ops with
    | nil => exact fun h => h
    | cons op ops ih => exact fun h => ih (hstep op _ _ h)
  exact hfold hnew

/-- A run is gone on with from where it is. -/
theorem runAll_append (hosts : Hosts) (before after : List Operation) :
    runAll hosts (before ++ after)
      = after.foldl (fun (d, time) op => (op.apply hosts d, op.passTime hosts d time))
          (runAll hosts before) :=
  List.foldl_append

/-- A document goes on from where it is. -/
theorem fst_runAll_append (hosts : Hosts) (before after : List Operation) :
    (runAll hosts (before ++ after)).1
      = after.foldl (fun d op => op.apply hosts d) (runAll hosts before).1 := by
  rw [runAll_append]
  generalize runAll hosts before = start
  induction after generalizing start with
  | nil => rfl
  | cons op after ih => exact ih _

/-! ## Sheets of documents -/

/-- The sheet of a new document is an empty one. -/
theorem sheet_new (hosts : Hosts) : (new hosts).sheet
    = (Sheet.new defaultRows defaultCols hosts.plain).evaluateAll := by
  rw [new]

/-- A formula that is in no cell is trimmed and evaluated on the sheet. -/
theorem sheet_evaluate (d : Document) (text : String) :
    (d.evaluate text).2.sheet = (d.sheet.evaluateFormula (Text.trim text.toList)).2 := by
  rw [evaluate]

/-- Saving leaves the sheet alone. -/
theorem sheet_save (d : Document) (files : Files) : (d.save files).2.sheet = d.sheet := by
  rw [save]
  cases d.file with
  | none => rfl
  | some path =>
    dsimp only
    cases files.writeText path d.stored.write <;> rfl

theorem sheet_saveAs (d : Document) (files : Files) (path : String) :
    (d.saveAs files path).2.sheet = d.sheet := by
  rw [saveAs, sheet_save]

/-! ## The invariant -/

/-- **A document whose values are current** as of a time: those of the sheet
are, with a tempo that is one and with the host for the functions of the
document. -/
structure Current (hosts : Hosts) (d : Document) (time : Float) : Prop where
  /-- The values of the sheet are current. -/
  sheet : d.sheet.Current time
  /-- The tempo is finite and positive. -/
  tempo : isTempo d.sheet.tempo = true
  /-- Scripts can call the functions of the document. -/
  host : hosts.forFunctions d.functions = .ok d.sheet.host

section Steps

variable {hosts : Hosts} {d : Document} {time : Float}

/-- **A document whose cells have all been evaluated** is current as of now. -/
theorem current_of_evaluateAll (hhosts : hosts.RespectRenaming) {s : Sheet}
    (hsheet : d.sheet = s.evaluateAll) (htempo : isTempo s.tempo = true)
    (hhost : hosts.forFunctions d.functions = .ok s.host) : d.Current hosts d.sheet.time := by
  have hsetting : s.evaluateAll.setting = s.setting := s.setting_evaluateAll
  have htime : s.evaluateAll.time = s.time := congrArg Setting.time hsetting
  refine ⟨?_, ?_, ?_⟩
  · rw [hsheet, htime]
    exact Sheet.current_evaluateAll (hhosts _ _ hhost)
  · rw [hsheet, show s.evaluateAll.tempo = s.tempo from congrArg Setting.tempo hsetting]
    exact htempo
  · rw [hsheet, show s.evaluateAll.host = s.host from congrArg Setting.host hsetting]
    exact hhost

/-- **A new document is current.** -/
theorem current_new (hhosts : hosts.RespectRenaming) :
    (new hosts).Current hosts (new hosts).sheet.time := by
  have htempo : isTempo defaultTempo = true := by decide
  exact current_of_evaluateAll hhosts (sheet_new hosts) htempo rfl

/-- **A document after an operation that evaluates all cells, or does not**: it
is current as of now, or as of the time before. -/
inductive CurrentAfter (hosts : Hosts) (d : Document) (time : Float) : Bool → Prop
  /-- All cells have been evaluated. -/
  | evaluated (h : d.Current hosts d.sheet.time) : CurrentAfter hosts d time true
  /-- The values are as before. -/
  | kept (h : d.Current hosts time) : CurrentAfter hosts d time false

/-! ## Edits -/

theorem Current.setCell (hhosts : hosts.RespectRenaming) (h : d.Current hosts time)
    (a : Address) (text : String) :
    (d.setCell a text).2.CurrentAfter hosts time (d.raw? a).isSome := by
  rw [Document.setCell, Sheet.enter, raw?, Sheet.raw?, Option.isSome_map]
  cases d.sheet.grid.get? a with
  | none => exact .kept h
  | some cell => exact .evaluated (current_of_evaluateAll hhosts rfl h.tempo h.host)

theorem Current.clearCell (hhosts : hosts.RespectRenaming) (h : d.Current hosts time)
    (a : Address) :
    (d.clearCell a).2.CurrentAfter hosts time ((d.raw? a).any (· ≠ "")) := by
  have hset := h.setCell hhosts a ""
  rw [Document.clearCell]
  cases hraw : d.raw? a with
  | none =>
    rw [hraw] at hset
    exact hset
  | some raw =>
    rw [hraw] at hset
    by_cases hempty : raw = ""
    · rw [hempty]
      exact .kept h
    · have hne : some raw ≠ some "" := fun heq => hempty (Option.some.inj heq)
      rw [if_neg hne, Option.any_some, decide_eq_true hempty]
      exact hset

theorem Current.setTempo (hhosts : hosts.RespectRenaming) (h : d.Current hosts time)
    (bpm : Float) : (d.setTempo bpm).2.CurrentAfter hosts time (isTempo bpm) := by
  rw [Document.setTempo]
  cases htempo : isTempo bpm with
  | true => exact .evaluated (current_of_evaluateAll hhosts rfl htempo h.host)
  | false => exact .kept h

theorem Current.setTime (h : d.Current hosts time) (t : Float) :
    (d.setTime t).Current hosts time :=
  ⟨h.sheet.congr rfl rfl rfl h.sheet.writes_eq, h.tempo, h.host⟩

theorem Current.recalculate (hhosts : hosts.RespectRenaming) (h : d.Current hosts time) :
    d.recalculate.Current hosts d.recalculate.sheet.time :=
  current_of_evaluateAll hhosts rfl h.tempo h.host

theorem Current.replaceRows (hhosts : hosts.RespectRenaming) (h : d.Current hosts time)
    (rows : List (List String)) :
    (d.replaceRows rows).2.CurrentAfter hosts time (!rows.all List.isEmpty) := by
  rw [Document.replaceRows]
  cases rows.all List.isEmpty with
  | true => exact .kept h
  | false =>
    rw [Sheet.replaceRows]
    exact .evaluated (current_of_evaluateAll hhosts rfl h.tempo h.host)

theorem Current.takeEvents (h : d.Current hosts time) : d.takeEvents.2.Current hosts time :=
  ⟨h.sheet.congr rfl rfl rfl h.sheet.writes_eq, h.tempo, h.host⟩

/-- A formula that is in no cell is evaluated without a trace. -/
theorem Current.evaluate (h : d.Current hosts time) (text : String) :
    (d.evaluate text).2.Current hosts time := by
  have hsheet := h.sheet.evaluateFormula (Text.trim text.toList)
  have hsetting := d.sheet.setting_evaluateFormula (Text.trim text.toList)
  rw [Document.evaluate]
  generalize d.sheet.evaluateFormula (Text.trim text.toList) = answer at hsheet hsetting
  obtain ⟨v, sheet⟩ := answer
  have htempo : sheet.tempo = d.sheet.tempo := congrArg Setting.tempo hsetting
  have hhost : sheet.host = d.sheet.host := congrArg Setting.host hsetting
  exact ⟨hsheet, htempo ▸ h.tempo, hhost ▸ h.host⟩

/-! ## Files -/

theorem Current.save (h : d.Current hosts time) (files : Files) :
    (d.save files).2.Current hosts time := by
  rw [Document.save]
  cases d.file with
  | none => exact h
  | some path =>
    dsimp only
    cases files.writeText path d.stored.write with
    | ok files => exact ⟨h.sheet, h.tempo, h.host⟩
    | error e => exact h

theorem Current.saveAs (h : d.Current hosts time) (files : Files) (path : String) :
    (d.saveAs files path).2.Current hosts time := by
  have hnamed : Current hosts { d with file := some path } time := ⟨h.sheet, h.tempo, h.host⟩
  rw [Document.saveAs]
  exact hnamed.save files

/-- **A sheet file passes the check** if it has a row and its tempo is one. -/
theorem check_eq_ok_iff {file stored : SheetFile} :
    file.check = .ok stored ↔ file.rows ≠ [] ∧ isTempo file.tempo = true ∧ file = stored := by
  rw [SheetFile.check]
  by_cases hrows : file.rows = []
  · rw [if_pos hrows]
    exact iff_of_false nofun fun h => h.1 hrows
  rw [if_neg hrows]
  cases isTempo file.tempo <;> simp [hrows]

/-- A sheet file that is read has both. -/
theorem holdable_of_readStored {files : Files} {path : String} {stored : SheetFile}
    (h : readStored files path = .ok stored) : stored.rows ≠ [] ∧ isTempo stored.tempo = true := by
  rw [readStored] at h
  cases htext : onFile (files.readText path) with
  | error e => rw [htext] at h; exact nomatch h
  | ok text =>
    rw [htext] at h
    have hread : SheetFile.read text = .ok stored := h
    rw [SheetFile.read] at hread
    cases hdecode : SheetFile.decode? text.toList with
    | none => rw [hdecode] at hread; exact nomatch hread
    | some file =>
      rw [hdecode] at hread
      obtain ⟨hrows, htempo, rfl⟩ := check_eq_ok_iff.mp hread
      exact ⟨hrows, htempo⟩

/-- There is no sheet file to be read where there is no file. -/
theorem exists_readStored_eq_error {files : Files} {path : String}
    (h : ¬files.has path = true) : ∃ e, readStored files path = .error e := by
  rw [readStored, Files.readText]
  rw [Files.has] at h
  cases hplace : files.resolve path with
  | ok place =>
    rw [hplace] at h
    exact absurd rfl h
  | error e => exact ⟨_, rfl⟩

theorem Current.load (hhosts : hosts.RespectRenaming) (h : d.Current hosts time)
    (files : Files) (path : String) :
    (d.load files path).2.CurrentAfter hosts time (readStored files path).isOk := by
  rw [Document.load]
  cases hstored : readStored files path with
  | error e => exact .kept h
  | ok stored =>
    dsimp only
    rw [Sheet.replaceRows]
    exact .evaluated
      (current_of_evaluateAll hhosts rfl (holdable_of_readStored hstored).2 h.host)

/-- **What loading functions can do**: it leaves the document as it is, or it
adds a file and evaluates all cells with the host for all functions. -/
theorem loadFunctions_cases (hosts : Hosts) (d : Document) (files : Files) (path : String) :
    (Document.loadFunctions hosts d files path).2 = d
      ∨ ∃ place text host, hosts.withPrelude text = .ok host
          ∧ (Document.loadFunctions hosts d files path).2
            = { d with
                sheet := { d.sheet with host := host }.evaluateAll
                functionFiles := d.functionFiles ++ [place]
                functions := some text } := by
  rw [Document.loadFunctions]
  cases readFunctions files path with
  | error e => exact .inl rfl
  | ok found =>
    obtain ⟨place, text⟩ := found
    dsimp only
    by_cases hplace : place ∈ d.functionFiles
    · rw [if_pos hplace]
      exact .inl rfl
    · rw [if_neg hplace]
      cases hhost : hosts.withPrelude (d.mergedFunctions text) with
      | error message => exact .inl rfl
      | ok host => exact .inr ⟨place, _, host, hhost, rfl⟩

theorem Current.loadFunctions (hhosts : hosts.RespectRenaming) (h : d.Current hosts time)
    (files : Files) (path : String) : (Document.loadFunctions hosts d files path).2.CurrentAfter
      hosts time (d.addsFunctions hosts files path) := by
  rw [addsFunctions]
  rcases loadFunctions_cases hosts d files path with hsame | ⟨place, text, host, hhost, hnew⟩
  · rw [hsame, decide_eq_false (Nat.lt_irrefl _)]
    exact .kept h
  · have hmore : d.functionFiles.length < (d.functionFiles ++ [place]).length := by simp
    rw [hnew, decide_eq_true hmore]
    exact .evaluated (current_of_evaluateAll hhosts rfl h.tempo hhost)

/-- Loading functions does not touch the playback time. -/
theorem time_loadFunctions (hosts : Hosts) (d : Document) (files : Files) (path : String) :
    (Document.loadFunctions hosts d files path).2.sheet.time = d.sheet.time := by
  rcases loadFunctions_cases hosts d files path with hsame | ⟨place, text, host, -, hnew⟩
  · rw [hsame]
  · have hsetting := Sheet.setting_evaluateAll { d.sheet with host := host }
    rw [hnew]
    exact congrArg Setting.time hsetting

/-- What loading a file of functions keeps, loading several keeps. -/
theorem loadAllFunctions_induction {P : Document → Prop} {files : Files}
    (hstep : ∀ path d, P d → P (Document.loadFunctions hosts d files path).2)
    (paths : List String) : ∀ {d : Document}, P d → P (loadAllFunctions hosts files paths d).2 := by
  induction paths with
  | nil => exact fun h => h
  | cons path paths ih =>
    intro d h
    have hnext := hstep path d h
    rw [loadAllFunctions]
    generalize Document.loadFunctions hosts d files path = attempt at hnext
    obtain ⟨outcome, d'⟩ := attempt
    cases outcome with
    | ok _ => exact ih hnext
    | error e => exact hnext

/-- **What a document is when it is opened**: what comes of a new one when the
functions are loaded, and then the file if it is there. A path where there is no
file is kept for saving. -/
theorem opened_cases {files : Files} {path : Option String} {functionPaths : List String}
    (h : opened hosts files path functionPaths = .ok d) :
    (path = none ∧ d = (loadAllFunctions hosts files functionPaths (new hosts)).2)
      ∨ (∃ file stored, path = some file ∧ readStored files file = .ok stored
          ∧ d = ((loadAllFunctions hosts files functionPaths (new hosts)).2.load files file).2)
      ∨ ∃ file, path = some file ∧ ¬files.has file = true
          ∧ d = { (loadAllFunctions hosts files functionPaths (new hosts)).2 with
            file := some file, modified := false } := by
  rw [opened] at h
  generalize loadAllFunctions hosts files functionPaths (new hosts) = attempt at h ⊢
  obtain ⟨outcome, d'⟩ := attempt
  cases outcome with
  | error e => exact nomatch h
  | ok _ =>
    cases path with
    | none => exact .inl ⟨rfl, (Except.ok.inj h).symm⟩
    | some file =>
      dsimp only at h
      rw [loadOrName] at h
      by_cases hhas : files.has file = true
      · rw [if_pos hhas, load] at h
        cases hstored : readStored files file with
        | error e =>
          rw [hstored] at h
          exact nomatch h
        | ok stored =>
          rw [hstored] at h
          refine .inr (.inl ⟨file, stored, rfl, hstored, ?_⟩)
          rw [load, hstored]
          exact (Except.ok.inj h).symm
      · rw [if_neg hhas] at h
        exact .inr (.inr ⟨file, rfl, hhas, (Except.ok.inj h).symm⟩)

/-- **Files of functions that are loaded one after the other** leave a document
that is current as of now. -/
theorem current_loadAllFunctions (hhosts : hosts.RespectRenaming) (files : Files)
    (paths : List String) (h : d.Current hosts d.sheet.time) :
    (loadAllFunctions hosts files paths d).2.Current hosts
      (loadAllFunctions hosts files paths d).2.sheet.time := by
  refine loadAllFunctions_induction (P := fun d => d.Current hosts d.sheet.time)
    (fun path d h => ?_) paths h
  have hafter := h.loadFunctions hhosts files path
  -- a file that adds nothing leaves the time of the last pass, which is still now
  rw [← time_loadFunctions hosts d files path] at hafter
  generalize d.addsFunctions hosts files path = adds at hafter
  cases hafter with
  | evaluated hnext => exact hnext
  | kept hnext => exact hnext

/-- **A document that is opened is current as of now.** -/
theorem current_opened (hhosts : hosts.RespectRenaming) {files : Files} {path : Option String}
    {functionPaths : List String} (h : opened hosts files path functionPaths = .ok d) :
    d.Current hosts d.sheet.time := by
  have hfunctions := current_loadAllFunctions hhosts files functionPaths (current_new hhosts)
  rcases opened_cases h with ⟨-, hd⟩ | ⟨file, stored, -, hstored, hd⟩ | ⟨file, -, -, hd⟩
  · exact hd ▸ hfunctions
  · have hafter := hfunctions.load hhosts files file
    rw [← hd, hstored] at hafter
    cases hafter with
    | evaluated hnow => exact hnow
  · rw [hd]
    exact ⟨hfunctions.sheet, hfunctions.tempo, hfunctions.host⟩

/-! ## All operations -/

/-- **Every operation leaves a document that is current**, as of now if it
evaluates all cells. -/
theorem Current.after (hhosts : hosts.RespectRenaming) (h : d.Current hosts time)
    (op : Operation) : (op.apply hosts d).CurrentAfter hosts time (op.evaluates hosts d) := by
  cases op with
  | openFile files path functionPaths =>
    rw [Operation.evaluates, Operation.apply]
    cases hopened : opened hosts files path functionPaths with
    | error e => exact .kept h
    | ok d' => exact .evaluated (current_opened hhosts hopened)
  | setCell a text => exact h.setCell hhosts a text
  | clearCell a => exact h.clearCell hhosts a
  | setTempo bpm => exact h.setTempo hhosts bpm
  | setTime t => exact .kept (h.setTime t)
  | recalculate => exact .evaluated (h.recalculate hhosts)
  | replaceRows rows => exact h.replaceRows hhosts rows
  | loadFunctions files path => exact h.loadFunctions hhosts files path
  | load files path => exact h.load hhosts files path
  | save files => exact .kept (h.save files)
  | saveAs files path => exact .kept (h.saveAs files path)
  | evaluate text => exact .kept (h.evaluate text)
  | exportTable files path => exact .kept h
  | takeEvents => exact .kept h.takeEvents

/-- So it is current as of the time of the last pass. -/
theorem Current.apply (hhosts : hosts.RespectRenaming) (h : d.Current hosts time)
    (op : Operation) : (op.apply hosts d).Current hosts (op.passTime hosts d time) := by
  have hafter := h.after hhosts op
  rw [Operation.passTime]
  generalize op.evaluates hosts d = evaluates at hafter
  cases hafter with
  | evaluated hnow => exact hnow
  | kept hbefore => exact hbefore

end Steps

/-- **Every document that can be reached is current.** -/
theorem current_runAll {hosts : Hosts} (hhosts : hosts.RespectRenaming) (ops : List Operation) :
    (runAll hosts ops).1.Current hosts (runAll hosts ops).2 :=
  runAll_induction (P := fun d time => d.Current hosts time) (current_new hhosts)
    (fun op _ _ h => h.apply hhosts op) ops

/-- **A document shows current values, whatever is done to it.** After any
operations, whether they succeed or fail: every cell of the grid is evaluated,
no write of a script is left, the tempo is finite and positive, scripts run with
the functions of the document, and the values are those that a single pass from
scratch over the raw texts, at the tempo and with the host of the sheet and at
the time of the last pass, yields among any buses, up to a renaming of buses. -/
theorem showsCurrentValues_runAll {hosts : Hosts} (hhosts : hosts.RespectRenaming)
    (ops : List Operation) :
    (∀ a, ((runAll hosts ops).1.raw? a).isSome → ∃ v, (runAll hosts ops).1.value? a = some v)
      ∧ (runAll hosts ops).1.sheet.writes = []
      ∧ (runAll hosts ops).1.sheet.tempo.isFinite = true
      ∧ 0 < (runAll hosts ops).1.sheet.tempo
      ∧ hosts.forFunctions (runAll hosts ops).1.functions = .ok (runAll hosts ops).1.sheet.host
      ∧ ∀ board, (runAll hosts ops).1.sheet.SameValues
          ((runAll hosts ops).1.sheet.fromScratch (runAll hosts ops).2 board).pass := by
  have hcurrent := current_runAll hhosts ops
  obtain ⟨hfinite, hpos⟩ := isFinite_and_pos_of_isTempo hcurrent.tempo
  refine ⟨fun a ha => ?_, hcurrent.sheet.writes_eq, hfinite, hpos, hcurrent.host,
    hcurrent.sheet.sameValues⟩
  obtain ⟨v, hv⟩ := hcurrent.sheet.hasValue a ha
  exact ⟨v, by rw [value?, Sheet.value?, hv]; rfl⟩

/-- A beat is entered, the time goes on, and the beat is asked for: the beat
that the document shows is that of the pass before the time went on. -/
theorem showsCurrentValues_beat :
    Script.hosts.RespectRenaming
      ∧ ∀ board, (runAll Script.hosts [.setCell ⟨0, 0⟩ "=BEAT(120, x)", .setTime 3,
            .evaluate "=A1"]).1.sheet.SameValues
          ((runAll Script.hosts [.setCell ⟨0, 0⟩ "=BEAT(120, x)", .setTime 3,
            .evaluate "=A1"]).1.sheet.fromScratch
          (runAll Script.hosts [.setCell ⟨0, 0⟩ "=BEAT(120, x)", .setTime 3,
            .evaluate "=A1"]).2 board).pass :=
  ⟨Script.respectRenaming_hostsDrawing evenDraws,
    (showsCurrentValues_runAll (Script.respectRenaming_hostsDrawing evenDraws) _).2.2.2.2.2⟩

end Document

end SoundSheet
