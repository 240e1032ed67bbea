import SoundSheet.Proofs.Document.Failures
import SoundSheet.Proofs.Files

/-!
# Saving to a path that cannot be written

A document that is saved to another path takes the path for that of its file
first and writes the file then. If the file cannot be written – the path leads
to a directory, or there is no directory where it should be – the path stays. It
is the only trace: the sheet and its values, the mark of a modified document and
its functions are as before (`saveAs_of_unwritable`). But a save that follows
goes to the new path and not to the file that the document came from, and this
is so until another file is opened, loaded or named (`file_runAll_append`).

Apart from its file and its mark, a document goes the same way whether or not
the save has been tried, whatever is done to it (`SameButFile.apply`).
-/

namespace SoundSheet

namespace Files

/-- **Whether a path can be written does not depend on the text.** -/
theorem writeText_eq_error_iff {files : Files} {path : String} {e : FileError}
    (text text' : String) :
    files.writeText path text = .error e ↔ files.writeText path text' = .error e := by
  rw [writeText, writeText]
  cases files.locate (String.ofList (withoutSlashes path.toList)) with
  | error e' => rfl
  | ok p =>
    by_cases hway : withoutSlashes path.toList = path.toList
    · simp only [bind, Except.bind, if_neg (not_not_intro hway)]
      split
      · rfl
      · simp [pure, Except.pure]
    · simp only [bind, Except.bind, if_pos hway]
      rfl

end Files

namespace Document

open SoundSheet.Script

/-! ## Documents apart from their files -/

/-- **Documents that differ in their file and in their mark only**. -/
structure SameButFile (d d' : Document) : Prop where
  /-- The sheets are the same. -/
  sheet : d'.sheet = d.sheet
  /-- The files of functions are the same. -/
  functionFiles : d'.functionFiles = d.functionFiles
  /-- So are the functions. -/
  functions : d'.functions = d.functions

namespace SameButFile

variable {hosts : Hosts} {d d' : Document}

theorem refl (d : Document) : d.SameButFile d :=
  ⟨rfl, rfl, rfl⟩

theorem symm (h : d.SameButFile d') : d'.SameButFile d :=
  ⟨h.sheet.symm, h.functionFiles.symm, h.functions.symm⟩

theorem trans {d'' : Document} (h : d.SameButFile d') (h' : d'.SameButFile d'') :
    d.SameButFile d'' :=
  ⟨h'.sheet.trans h.sheet, h'.functionFiles.trans h.functionFiles,
    h'.functions.trans h.functions⟩

/-- The same sheet in place of theirs. -/
theorem withSheet (h : d.SameButFile d') (s : Sheet) (mark mark' : Bool) :
    SameButFile { d with sheet := s, modified := mark } { d' with sheet := s, modified := mark' } :=
  ⟨rfl, h.functionFiles, h.functions⟩

theorem setCell (h : d.SameButFile d') (a : Address) (text : String) :
    (d.setCell a text).2.SameButFile (d'.setCell a text).2 := by
  rw [Document.setCell, Document.setCell, h.sheet]
  cases d.sheet.enter a text with
  | ok s => exact h.withSheet _ true true
  | error e => exact h

theorem clearCell (h : d.SameButFile d') (a : Address) :
    (d.clearCell a).2.SameButFile (d'.clearCell a).2 := by
  have hraw : d'.raw? a = d.raw? a := by rw [raw?, raw?, h.sheet]
  rw [Document.clearCell, Document.clearCell, hraw]
  split
  · exact h
  · exact h.setCell a ""

theorem setTempo (h : d.SameButFile d') (bpm : Float) :
    (d.setTempo bpm).2.SameButFile (d'.setTempo bpm).2 := by
  rw [Document.setTempo, Document.setTempo, h.sheet]
  split
  · exact h.withSheet _ true true
  · exact h

theorem replaceRows (h : d.SameButFile d') (rows : List (List String)) :
    (d.replaceRows rows).2.SameButFile (d'.replaceRows rows).2 := by
  rw [Document.replaceRows, Document.replaceRows, h.sheet]
  split
  · exact h
  · exact h.withSheet _ true true

theorem loadFunctions (h : d.SameButFile d') (files : Files) (path : String) :
    (Document.loadFunctions hosts d files path).2.SameButFile
      (Document.loadFunctions hosts d' files path).2 := by
  have hmerged : d'.mergedFunctions = d.mergedFunctions := by
    funext text
    rw [mergedFunctions, mergedFunctions, h.functions]
  rw [Document.loadFunctions, Document.loadFunctions, h.functionFiles, hmerged, h.sheet]
  cases readFunctions files path with
  | error e => exact h
  | ok found =>
    dsimp only
    split
    · exact h
    · cases hosts.withPrelude (d.mergedFunctions found.2) with
      | error message => exact h
      | ok host => exact ⟨rfl, rfl, rfl⟩

theorem load (h : d.SameButFile d') (files : Files) (path : String) :
    (d.load files path).2.SameButFile (d'.load files path).2 := by
  rw [Document.load, Document.load, h.sheet]
  cases readStored files path with
  | error e => exact h
  | ok stored => exact ⟨rfl, h.functionFiles, h.functions⟩

/-- Saving changes the mark at most. -/
theorem of_save (d : Document) (files : Files) : d.SameButFile (d.save files).2 := by
  rw [Document.save]
  cases d.file with
  | none => exact refl d
  | some path =>
    dsimp only
    cases files.writeText path d.stored.write with
    | ok files => exact ⟨rfl, rfl, rfl⟩
    | error e => exact refl d

theorem save (h : d.SameButFile d') (files files' : Files) :
    (d.save files).2.SameButFile (d'.save files').2 :=
  (of_save d files).symm.trans (h.trans (of_save d' files'))

theorem evaluate (h : d.SameButFile d') (text : String) :
    (d.evaluate text).2.SameButFile (d'.evaluate text).2 := by
  rw [Document.evaluate, Document.evaluate, h.sheet]
  generalize d.sheet.evaluateFormula (Text.trim text.toList) = answer
  exact h.withSheet answer.2 d.modified d'.modified

/-- **Every operation does the same to both**, apart from their files and
marks. -/
theorem apply (h : d.SameButFile d') (op : Operation) :
    (op.apply hosts d).SameButFile (op.apply hosts d') := by
  cases op with
  | openFile files path functionPaths =>
    rw [Operation.apply, Operation.apply]
    cases opened hosts files path functionPaths with
    | ok d₁ => exact refl d₁
    | error e => exact h
  | setCell a text => exact h.setCell a text
  | clearCell a => exact h.clearCell a
  | setTempo bpm => exact h.setTempo bpm
  | setTime time =>
    rw [Operation.apply, Operation.apply, setTime, setTime, h.sheet]
    exact h.withSheet _ d.modified d'.modified
  | recalculate =>
    rw [Operation.apply, Operation.apply, recalculate, recalculate, h.sheet]
    exact h.withSheet _ d.modified d'.modified
  | replaceRows rows => exact h.replaceRows rows
  | loadFunctions files path => exact h.loadFunctions files path
  | load files path => exact h.load files path
  | save files => exact h.save files files
  | saveAs files path =>
    have hnamed : SameButFile { d with file := some path } { d' with file := some path } :=
      ⟨h.sheet, h.functionFiles, h.functions⟩
    exact hnamed.save files files
  | evaluate text => exact h.evaluate text
  | exportTable files path => exact h
  | takeEvents =>
    rw [Operation.apply, Operation.apply, takeEvents, takeEvents, h.sheet]
    exact h.withSheet _ d.modified d'.modified

end SameButFile

/-! ## The file of a document -/

/-- **An operation that leaves the file of a document where it is**: it neither
opens nor loads a file, nor saves to another path. -/
def Operation.keepsFile : Operation → Bool
  | openFile _ _ _ | load _ _ | saveAs _ _ => false
  | _ => true

section File

variable {hosts : Hosts}

theorem file_setCell (d : Document) (a : Address) (text : String) :
    (d.setCell a text).2.file = d.file := by
  rw [setCell]
  cases d.sheet.enter a text with
  | ok s => rfl
  | error e => rfl

theorem file_loadFunctions (d : Document) (files : Files) (path : String) :
    (loadFunctions hosts d files path).2.file = d.file := by
  rcases loadFunctions_cases hosts d files path with hsame | ⟨place, text, host, -, hnew⟩
  · rw [hsame]
  · rw [hnew]

theorem file_save (d : Document) (files : Files) : (d.save files).2.file = d.file := by
  rw [save]
  cases hfile : d.file with
  | none => exact hfile
  | some path =>
    dsimp only
    cases files.writeText path d.stored.write with
    | ok files => rfl
    | error e => exact hfile

/-- **Such an operation leaves it there**, whether or not it fails. -/
theorem file_apply {op : Operation} (h : op.keepsFile = true) (d : Document) :
    (op.apply hosts d).file = d.file := by
  cases op with
  | openFile files path functionPaths => exact nomatch h
  | load files path => exact nomatch h
  | saveAs files path => exact nomatch h
  | setCell a text => exact d.file_setCell a text
  | clearCell a =>
    rw [Operation.apply, clearCell]
    split
    · rfl
    · exact d.file_setCell a ""
  | setTempo bpm =>
    rw [Operation.apply, setTempo]
    split <;> rfl
  | setTime time => rfl
  | recalculate => rfl
  | replaceRows rows =>
    rw [Operation.apply, replaceRows]
    split <;> rfl
  | loadFunctions files path => exact d.file_loadFunctions files path
  | save files => exact d.file_save files
  | evaluate text => rfl
  | exportTable files path => rfl
  | takeEvents => rfl

/-! ## Runs -/

/-- **A document keeps its file** until another one is opened, loaded or
named. -/
theorem file_runAll_append {before after : List Operation}
    (h : ∀ op ∈ after, op.keepsFile = true) :
    (runAll hosts (before ++ after)).1.file = (runAll hosts before).1.file := by
  rw [fst_runAll_append]
  generalize (runAll hosts before).1 = d
  induction after generalizing d with
  | nil => rfl
  | cons op after ih =>
    obtain ⟨hop, hafter⟩ := List.forall_mem_cons.mp h
    exact (ih hafter _).trans (file_apply hop d)

theorem SameButFile.foldl_apply (ops : List Operation) : ∀ {d d' : Document}, d.SameButFile d' →
    SameButFile (ops.foldl (fun d op => op.apply hosts d) d)
      (ops.foldl (fun d op => op.apply hosts d) d') := by
  induction ops with
  | nil => exact fun h => h
  | cons op ops ih => exact fun h => ih (h.apply op)

/-! ## A path that cannot be written -/

/-- **What a document is when it has been saved to a path in vain**. The error
is that of the file. The path is that of the document's file from now on, and
all else is as it was, the mark too. A save that follows, with whatever files
there are then, is one to the new path. The path stays until another file is
opened, loaded or named, where the document would have kept the one it had.
Whatever is done, the sheet and the functions go the way they would have
gone. -/
theorem saveAs_of_unwritable (before : List Operation) {files : Files} {path : String}
    {e : FileError}
    (h : files.writeText path (runAll hosts before).1.stored.write = .error e) :
    (runAll hosts before).1.saveAs files path
        = (.error (.file e), { (runAll hosts before).1 with file := some path })
      ∧ (∀ later, save { (runAll hosts before).1 with file := some path } later
          = (runAll hosts before).1.saveAs later path)
      ∧ ∀ after,
        (runAll hosts (before ++ after)).1.SameButFile
            (runAll hosts (before ++ .saveAs files path :: after)).1
          ∧ ((∀ op ∈ after, op.keepsFile = true) →
            (runAll hosts (before ++ .saveAs files path :: after)).1.file = some path
              ∧ (runAll hosts (before ++ after)).1.file = (runAll hosts before).1.file) := by
  have hsave : (runAll hosts before).1.saveAs files path
      = (.error (.file e), { (runAll hosts before).1 with file := some path }) := by
    have hstored : files.writeText path
        (stored { (runAll hosts before).1 with file := some path }).write = .error e := h
    rw [saveAs, save]
    dsimp only
    rw [hstored]
  have happly : (runAll hosts (before ++ [.saveAs files path])).1
      = { (runAll hosts before).1 with file := some path } := by
    rw [fst_runAll_append]
    exact congrArg Prod.snd hsave
  refine ⟨hsave, fun later => rfl, fun after => ⟨?_, fun hafter => ⟨?_, file_runAll_append hafter⟩⟩⟩
  · rw [← List.singleton_append, ← List.append_assoc, fst_runAll_append, fst_runAll_append, happly]
    exact SameButFile.foldl_apply after ⟨rfl, rfl, rfl⟩
  · rw [← List.singleton_append, ← List.append_assoc, file_runAll_append hafter, happly]

/-- A song that is saved, and then saved to a directory that is not there. -/
def relocated : List Operation :=
  [.setCell ⟨0, 0⟩ "x", .saveAs .bare "song.json"]

/-- The document keeps its mark, and a cell that is set afterwards is there, but
in a document whose file is the one that could not be written. -/
theorem saveAs_of_unwritable_missing :
    Files.bare.writeText "attic/song.json" (runAll Script.hosts relocated).1.stored.write
        = .error .notFound
      ∧ (runAll Script.hosts (relocated ++ [.saveAs .bare "attic/song.json",
          .setCell ⟨0, 1⟩ "y"])).1.file = some "attic/song.json"
      ∧ (runAll Script.hosts (relocated ++ [.saveAs .bare "attic/song.json",
          .setCell ⟨0, 1⟩ "y"])).1.sheet
        = (runAll Script.hosts (relocated ++ [.setCell ⟨0, 1⟩ "y"])).1.sheet := by
  have hwrite : Files.bare.writeText "attic/song.json"
      (runAll Script.hosts relocated).1.stored.write = .error .notFound :=
    (Files.writeText_eq_error_iff "" _).mp rfl
  obtain ⟨-, -, hafter⟩ := @saveAs_of_unwritable Script.hosts relocated _ _ _ hwrite
  obtain ⟨hsame, hfile⟩ := hafter [.setCell ⟨0, 1⟩ "y"]
  have hkeeps : ∀ op ∈ [Operation.setCell ⟨0, 1⟩ "y"], op.keepsFile = true :=
    List.forall_mem_singleton.mpr rfl
  exact ⟨hwrite, (hfile hkeeps).1, hsame.sheet⟩

/-- **A save in vain moves the document.** Its file could be written as before,
but it is the file of the document no longer, and a save by itself fails now. -/
theorem file_saveAs_missing :
    let d := (runAll Script.hosts relocated).1
    d.file = some "song.json"
      ∧ (d.saveAs .bare "attic/song.json").1.toOption.isNone = true
      ∧ (d.saveAs .bare "attic/song.json").2.file = some "attic/song.json"
      ∧ (d.save .bare).1.toOption.isSome = true
      ∧ ((d.saveAs .bare "attic/song.json").2.save .bare).1.toOption.isNone = true := by
  decide +kernel

end File

end Document

end SoundSheet
