import SoundSheet.Proofs.Document.Operations

/-!
# Operations that fail

An operation on a document may be refused: a cell lies outside the grid, a tempo
is no tempo, a grid has no cells, a file is not there, is a directory, is no
text, is too large or does not hold what it should, or a file of functions is no
script. In all these cases the document is left as it was, with its values, its
events and all else (`apply_eq_of_fails`), and no cell is evaluated. An
operation that fails can therefore be left out of a run, and nothing that comes
after it goes another way (`runAll_append_failed`).

Saving to a path is apart. The document takes the path for that of its file
before it is written, and keeps it if it cannot be.
-/

namespace SoundSheet.Document

open SoundSheet.Script

/-- **How an operation ends**: well, or with an error. -/
def Operation.outcome (hosts : Hosts) : Operation → Document → Except DocumentError Unit
  | openFile files path functionPaths, _ =>
    (opened hosts files path functionPaths).map fun _ => ()
  | setCell a text, d => (d.setCell a text).1
  | clearCell a, d => (d.clearCell a).1
  | setTempo bpm, d => (d.setTempo bpm).1
  | replaceRows rows, d => (d.replaceRows rows).1
  | loadFunctions files path, d => (Document.loadFunctions hosts d files path).1
  | load files path, d => (d.load files path).1
  | save files, d => (d.save files).1.map fun _ => ()
  | saveAs files path, d => (d.saveAs files path).1.map fun _ => ()
  | exportTable files path, d => (d.exportTable files path).map fun _ => ()
  | setTime _, _ | recalculate, _ | evaluate _, _ | takeEvents, _ => .ok ()

/-- **A document that an operation leaves alone if it fails**: then the document
afterwards is the one before. -/
def KeptOnError {α : Type} (d : Document) (attempt : Except DocumentError α × Document) : Prop :=
  ∀ e, attempt.1 = .error e → attempt.2 = d

section Attempts

variable (d : Document) {α : Type}

/-- An attempt that does not fail may do anything. -/
theorem keptOnError_ok (a : α) (d' : Document) : d.KeptOnError (.ok a, d') :=
  fun _ h => nomatch h

theorem keptOnError_error (e : DocumentError) : d.KeptOnError (α := α) (.error e, d) :=
  fun _ _ => rfl

/-! ## Edits -/

theorem keptOnError_setCell (a : Address) (text : String) : d.KeptOnError (d.setCell a text) := by
  rw [setCell]
  cases d.sheet.enter a text with
  | ok sheet => exact d.keptOnError_ok _ _
  | error e => exact d.keptOnError_error _

/-- Only a cell outside the grid cannot be changed. -/
theorem setCell_eq_error_iff (a : Address) (text : String) {e : DocumentError} :
    (d.setCell a text).1 = .error e ↔ d.raw? a = none ∧ .evaluation (.outOfBounds a) = e := by
  rw [setCell, Sheet.enter, raw?, Sheet.raw?, Option.map_eq_none_iff]
  cases d.sheet.grid.get? a <;> simp

theorem keptOnError_clearCell (a : Address) : d.KeptOnError (d.clearCell a) := by
  rw [clearCell]
  split
  · exact d.keptOnError_ok _ _
  · exact d.keptOnError_setCell a ""

theorem clearCell_eq_error_iff (a : Address) {e : DocumentError} :
    (d.clearCell a).1 = .error e ↔ d.raw? a = none ∧ .evaluation (.outOfBounds a) = e := by
  rw [clearCell]
  split
  · next hempty => simp [hempty]
  · exact d.setCell_eq_error_iff a ""

theorem keptOnError_setTempo (bpm : Float) : d.KeptOnError (d.setTempo bpm) := by
  rw [setTempo]
  split
  · exact d.keptOnError_ok _ _
  · exact d.keptOnError_error _

theorem setTempo_eq_error_iff (bpm : Float) {e : DocumentError} :
    (d.setTempo bpm).1 = .error e ↔ isTempo bpm = false ∧ .badTempo bpm = e := by
  rw [setTempo]
  cases isTempo bpm <;> simp

theorem keptOnError_replaceRows (rows : List (List String)) :
    d.KeptOnError (d.replaceRows rows) := by
  rw [replaceRows]
  split
  · exact d.keptOnError_error _
  · exact d.keptOnError_ok _ _

theorem replaceRows_eq_error_iff (rows : List (List String)) {e : DocumentError} :
    (d.replaceRows rows).1 = .error e ↔ rows.all List.isEmpty = true ∧ .badGrid .noCells = e := by
  rw [replaceRows]
  cases rows.all List.isEmpty <;> simp

/-! ## Files -/

theorem keptOnError_loadFunctions (hosts : Hosts) (files : Files) (path : String) :
    d.KeptOnError (loadFunctions hosts d files path) := by
  rw [loadFunctions]
  cases readFunctions files path with
  | error e => exact d.keptOnError_error e
  | ok found =>
    dsimp only
    split
    · exact d.keptOnError_ok _ _
    · -- the functions are made into a script before the document is given them
      cases hosts.withPrelude (d.mergedFunctions found.2) with
      | error message => exact d.keptOnError_error _
      | ok host => exact d.keptOnError_ok _ _

theorem keptOnError_load (files : Files) (path : String) : d.KeptOnError (d.load files path) := by
  rw [load]
  cases readStored files path with
  | error e => exact d.keptOnError_error e
  | ok stored => exact d.keptOnError_ok _ _

/-- A sheet file is loaded if it can be read. -/
theorem load_eq_error_iff (files : Files) (path : String) {e : DocumentError} :
    (d.load files path).1 = .error e ↔ readStored files path = .error e := by
  rw [load]
  cases readStored files path <;> simp

theorem keptOnError_save (files : Files) : d.KeptOnError (d.save files) := by
  rw [save]
  cases d.file with
  | none => exact d.keptOnError_error _
  | some path =>
    dsimp only
    cases files.writeText path d.stored.write with
    | ok files => exact d.keptOnError_ok _ _
    | error e => exact d.keptOnError_error _

end Attempts

/-! ## All operations -/

section Operations

variable {hosts : Hosts} {op : Operation} {d : Document} {e : DocumentError}

/-- The error of an operation whose answer is left out. -/
theorem eq_error_of_map {ε α : Type} {r : Except ε α} {e : ε}
    (h : r.map (fun _ => ()) = .error e) : r = .error e := by
  cases r with
  | ok a => exact nomatch h
  | error e' => exact congrArg Except.error (Except.error.inj h)

/-- **An operation that fails leaves the document as it is**, unless it was to
save to another path. -/
theorem apply_eq_of_fails (hop : ∀ files path, op ≠ .saveAs files path)
    (h : op.outcome hosts d = .error e) : op.apply hosts d = d := by
  cases op with
  | openFile files path functionPaths =>
    rw [Operation.apply, eq_error_of_map h]
    rfl
  | setCell a text => exact d.keptOnError_setCell a text e h
  | clearCell a => exact d.keptOnError_clearCell a e h
  | setTempo bpm => exact d.keptOnError_setTempo bpm e h
  | replaceRows rows => exact d.keptOnError_replaceRows rows e h
  | loadFunctions files path => exact d.keptOnError_loadFunctions hosts files path e h
  | load files path => exact d.keptOnError_load files path e h
  | save files => exact d.keptOnError_save files e (eq_error_of_map h)
  | saveAs files path => exact absurd rfl (hop files path)
  | exportTable files path => rfl
  | setTime _ | recalculate | evaluate _ | takeEvents => cases h

/-- **An operation that fails evaluates no cell.** -/
theorem evaluates_eq_false_of_fails (h : op.outcome hosts d = .error e) :
    op.evaluates hosts d = false := by
  cases op with
  | openFile files path functionPaths =>
    rw [Operation.evaluates, eq_error_of_map h]
    rfl
  | setCell a text =>
    obtain ⟨hraw, -⟩ := (d.setCell_eq_error_iff a text).mp h
    rw [Operation.evaluates, hraw, Option.isSome_none]
  | clearCell a =>
    obtain ⟨hraw, -⟩ := (d.clearCell_eq_error_iff a).mp h
    rw [Operation.evaluates, hraw, Option.any_none]
  | setTempo bpm =>
    obtain ⟨htempo, -⟩ := (d.setTempo_eq_error_iff bpm).mp h
    exact htempo
  | replaceRows rows =>
    obtain ⟨hrows, -⟩ := (d.replaceRows_eq_error_iff rows).mp h
    rw [Operation.evaluates, hrows, Bool.not_true]
  | loadFunctions files path =>
    have hsame : (loadFunctions hosts d files path).2 = d :=
      d.keptOnError_loadFunctions hosts files path e h
    rw [Operation.evaluates, addsFunctions, hsame]
    exact decide_eq_false (Nat.lt_irrefl _)
  | load files path =>
    have hread : readStored files path = .error e := (d.load_eq_error_iff files path).mp h
    rw [Operation.evaluates, hread]
    rfl
  | recalculate => cases h
  | setTime _ | save _ | saveAs _ _ | evaluate _ | exportTable _ _ | takeEvents => rfl

/-- **Operations that fail leave no trace.** Whatever has been done to a
document, an operation that ends with an error there – other than to save to
another path – leaves everything as it was: the raw texts and the values, the
tempo and the time, the file and whether the document has been modified, the
files of functions, their text and the host of the scripts, and the audio
events. And whatever is done afterwards comes out as if the operation had never
been tried. -/
theorem runAll_append_failed (before after : List Operation)
    (hop : ∀ files path, op ≠ .saveAs files path)
    (h : op.outcome hosts (runAll hosts before).1 = .error e) :
    op.apply hosts (runAll hosts before).1 = (runAll hosts before).1
      ∧ runAll hosts (before ++ op :: after) = runAll hosts (before ++ after) := by
  have hsame := apply_eq_of_fails hop h
  refine ⟨hsame, ?_⟩
  have htime : op.passTime hosts (runAll hosts before).1 (runAll hosts before).2
      = (runAll hosts before).2 := by
    rw [Operation.passTime, evaluates_eq_false_of_fails h]
    rfl
  have hstep : (op.apply hosts (runAll hosts before).1,
      op.passTime hosts (runAll hosts before).1 (runAll hosts before).2) = runAll hosts before :=
    Prod.ext hsame htime
  rw [runAll_append, runAll_append, List.foldl_cons]
  exact congrArg (fun start => List.foldl _ start after) hstep

end Operations

/-- A directory with a sheet file whose tempo is none. -/
def slowFiles : Files where
  here := ["home"]
  entries := [(["home", "slow"], .file "\x7b\"grid\":[[\"x\"]],\"globalTempo\":-1\x7d".toUTF8)]

/-- The file is refused for its tempo when all of it has been read. A document
with a beat and an event goes on as if it had not been tried. -/
theorem runAll_append_failed_slow :
    let before :=
      [Operation.setCell ⟨0, 0⟩ "=BEAT(120, x)", .setCell ⟨0, 1⟩ "=JS(playNote(440, 1))"]
    let after := [Operation.setTime 2, .setTempo 90]
    (Operation.load slowFiles "./slow").outcome Script.hosts (runAll Script.hosts before).1
        = .error (.badTempo (-1))
      ∧ (Operation.load slowFiles "./slow").apply Script.hosts (runAll Script.hosts before).1
        = (runAll Script.hosts before).1
      ∧ runAll Script.hosts (before ++ .load slowFiles "./slow" :: after)
        = runAll Script.hosts (before ++ after) := by
  intro before after
  have hread : readStored slowFiles "./slow" = .error (.badTempo (-1)) := by decide +kernel
  have houtcome := ((runAll Script.hosts before).1.load_eq_error_iff slowFiles "./slow").mpr hread
  exact ⟨houtcome, runAll_append_failed before after (fun _ _ h => nomatch h) houtcome⟩

end SoundSheet.Document
