import SoundSheet.Proofs.Document.Operations
import SoundSheet.Proofs.Sheet.Operations

/-!
# Sheets that are loaded and sheets that are put in

A grid can be put into a document by an edit or from a file. An edit refuses
rows of which none has a cell, and a file is refused if it has no row at all.
For everything else, the tempo included, the two agree (`load_eq_ok_iff`): what
a file can hold beyond what an edit accepts are rows that are all empty.

Nothing else changes the shape of a grid (`Operation.rowLengths_apply`), so the
rows that were put in last decide whether a document has a cell
(`hasCell_runAll_iff`). A new document has some, and so there is none only if
the last rows have come from such a file (`not_hasCell_runAll_iff`).
-/

namespace SoundSheet

open SoundSheet.Script

/-! ## Grids with a cell -/

namespace Grid

variable {α : Type}

/-- A grid has a cell if it has rows and they are not empty. -/
theorem exists_isSome_get?_iff (g : Grid α) :
    (∃ a, (g.get? a).isSome) ↔ ∃ n ∈ g.rowLengths, n ≠ 0 := by
  rw [rowLengths_eq_replicate]
  constructor
  · rintro ⟨a, ha⟩
    obtain ⟨hrow, hcol⟩ := (g.isSome_get?_iff a).mp ha
    exact ⟨g.cols, List.mem_replicate.mpr ⟨Nat.ne_zero_of_lt hrow, rfl⟩, Nat.ne_zero_of_lt hcol⟩
  · rintro ⟨n, hn, hne⟩
    obtain ⟨hrows, rfl⟩ := List.mem_replicate.mp hn
    exact ⟨⟨0, 0⟩,
      (g.isSome_get?_iff _).mpr ⟨Nat.pos_of_ne_zero hrows, Nat.pos_of_ne_zero hne⟩⟩

/-- The grid of some rows has one if one of them has. -/
theorem exists_mem_rowLengths_ofRows_iff (x : α) (rows : List (List α)) :
    (∃ n ∈ (ofRows x rows).rowLengths, n ≠ 0) ↔ rows.all List.isEmpty = false := by
  rw [rowLengths_ofRows, List.all_eq_false]
  constructor
  · rintro ⟨n, hn, hne⟩
    obtain ⟨-, rfl⟩ := List.mem_replicate.mp hn
    by_contra hempty
    refine hne (Nat.le_zero.mp (width_le fun row hrow => ?_))
    rw [List.isEmpty_iff.mp (not_not.mp fun hrow' => hempty ⟨row, hrow, hrow'⟩)]
    exact Nat.le_refl 0
  · rintro ⟨row, hrow, hne⟩
    have hlength : 0 < row.length := List.length_pos_iff.mpr (mt List.isEmpty_iff.mpr hne)
    refine ⟨width rows, List.mem_replicate.mpr ⟨?_, rfl⟩, ?_⟩
    · exact Nat.ne_zero_of_lt (List.length_pos_of_mem hrow)
    · exact Nat.ne_zero_of_lt (hlength.trans_le (length_le_width hrow))

end Grid

namespace Document

/-- **A document that has a cell**. -/
def HasCell (d : Document) : Prop :=
  ∃ a, (d.raw? a).isSome = true

theorem hasCell_iff {d : Document} : d.HasCell ↔ ∃ n ∈ d.sheet.grid.rowLengths, n ≠ 0 := by
  rw [← Grid.exists_isSome_get?_iff, HasCell]
  simp only [raw?, Sheet.raw?, Option.isSome_map]

/-! ## What is accepted -/

/-- An edit of the grid is refused if no row has a cell. -/
theorem replaceRows_eq_ok_iff (d : Document) (rows : List (List String)) :
    (d.replaceRows rows).1 = .ok () ↔ rows.all List.isEmpty = false := by
  rw [replaceRows]
  cases rows.all List.isEmpty <;> simp

/-- A tempo is refused if it is none. -/
theorem setTempo_eq_ok_iff (d : Document) (bpm : Float) :
    (d.setTempo bpm).1 = .ok () ↔ isTempo bpm = true := by
  rw [setTempo]
  cases isTempo bpm <;> simp

/-- A sheet file is read if it can be taken apart and passes the check. -/
theorem readStored_of_decode? {files : Files} {path text : String} {file : SheetFile}
    (htext : files.readText path = .ok text) (hfile : SheetFile.decode? text.toList = some file) :
    readStored files path = file.check := by
  rw [readStored, htext]
  show SheetFile.read text = file.check
  rw [SheetFile.read, hfile]

/-- **Loading accepts what editing does, and rows without a cell.** -/
theorem load_eq_ok_iff {files : Files} {path text : String} {file : SheetFile}
    (htext : files.readText path = .ok text) (hfile : SheetFile.decode? text.toList = some file)
    (d d' d'' : Document) :
    (d.load files path).1 = .ok ()
      ↔ ((d'.replaceRows file.rows).1 = .ok ()
          ∨ (file.rows ≠ [] ∧ file.rows.all List.isEmpty = true))
        ∧ (d''.setTempo file.tempo).1 = .ok () := by
  have hload : (d.load files path).1 = .ok () ↔ ∃ stored, file.check = .ok stored := by
    rw [load, readStored_of_decode? htext hfile]
    cases file.check <;> simp
  have hcheck : (∃ stored, file.check = .ok stored)
      ↔ file.rows ≠ [] ∧ isTempo file.tempo = true := by
    simp only [check_eq_ok_iff, exists_and_left, exists_eq', and_true]
  have hrows : file.rows ≠ [] ↔ file.rows.all List.isEmpty = false
      ∨ (file.rows ≠ [] ∧ file.rows.all List.isEmpty = true) := by
    cases hall : file.rows.all List.isEmpty with
    | true => simp
    | false =>
      refine iff_of_true (fun hnil => ?_) (.inl rfl)
      rw [hnil] at hall
      exact absurd hall (by decide)
  rw [hload, hcheck, replaceRows_eq_ok_iff, setTempo_eq_ok_iff, ← hrows]

/-! ## The rows that are put in -/

/-- The rows of a new document. -/
def blankRows : List (List String) :=
  List.replicate defaultRows (List.replicate defaultCols "")

/-- **The rows that an operation puts in place of the grid**, if it does and
succeeds. A document that is opened without a file has blank ones. -/
def Operation.newRows (hosts : Hosts) : Operation → Option (List (List String))
  | openFile files path functionPaths =>
    if (opened hosts files path functionPaths).isOk then
      some ((path.bind fun file => (readStored files file).toOption.map SheetFile.rows).getD
        blankRows)
    else none
  | load files path => (readStored files path).toOption.map SheetFile.rows
  | replaceRows rows => if rows.all List.isEmpty then none else some rows
  | setCell _ _ | clearCell _ | setTempo _ | setTime _ | recalculate | loadFunctions _ _ | save _
  | saveAs _ _ | evaluate _ | exportTable _ _ | takeEvents => none

/-- The sheet file that an operation reads. -/
def Operation.sheetFile? : Operation → Option (Files × String)
  | openFile files path _ => path.map fun path => (files, path)
  | load files path => some (files, path)
  | _ => none

/-- **An edit puts in no rows without a cell**: such rows are those of a sheet
file. -/
theorem Operation.exists_readStored_of_newRows {hosts : Hosts} {op : Operation}
    {rows : List (List String)} (hrows : op.newRows hosts = some rows)
    (hempty : rows.all List.isEmpty = true) :
    ∃ files path stored, op.sheetFile? = some (files, path) ∧ readStored files path = .ok stored
      ∧ stored.rows = rows := by
  have hstored {files : Files} {path : String}
      (h : (readStored files path).toOption.map SheetFile.rows = some rows) :
      ∃ stored, readStored files path = .ok stored ∧ stored.rows = rows := by
    cases hread : readStored files path with
    | error e =>
      rw [hread] at h
      cases h
    | ok stored =>
      rw [hread] at h
      exact ⟨stored, rfl, Option.some.inj h⟩
  cases op with
  | openFile files path functionPaths =>
    rw [newRows] at hrows
    split at hrows
    · cases hfound : path.bind fun file => (readStored files file).toOption.map SheetFile.rows with
      | none =>
        rw [hfound] at hrows
        obtain rfl : blankRows = rows := Option.some.inj hrows
        exact absurd hempty (by decide)
      | some found =>
        rw [hfound] at hrows
        obtain rfl : found = rows := Option.some.inj hrows
        obtain ⟨file, rfl, hfile⟩ := Option.bind_eq_some_iff.mp hfound
        obtain ⟨stored, hread, hsame⟩ := hstored hfile
        exact ⟨files, file, stored, rfl, hread, hsame⟩
    · cases hrows
  | load files path =>
    obtain ⟨stored, hread, hsame⟩ := hstored hrows
    exact ⟨files, path, stored, rfl, hread, hsame⟩
  | replaceRows given =>
    rw [newRows] at hrows
    split at hrows
    · cases hrows
    · next hgiven =>
      obtain rfl : given = rows := Option.some.inj hrows
      exact absurd hempty hgiven
  | setCell _ _ | clearCell _ | setTempo _ | setTime _ | recalculate | loadFunctions _ _ | save _
  | saveAs _ _ | evaluate _ | exportTable _ _ | takeEvents => cases hrows

/-! ## The shape of the grid -/

section Shape

variable {hosts : Hosts} {d : Document}

theorem rowLengths_setCell (d : Document) (a : Address) (text : String) :
    (d.setCell a text).2.sheet.grid.rowLengths = d.sheet.grid.rowLengths := by
  rw [setCell]
  rcases d.sheet.enter_cases a text with hout | hin
  · rw [hout]
  · rw [hin]
    exact (Sheet.rowLengths_evaluateAll _).trans (Grid.rowLengths_modify _ _ _)

theorem rowLengths_clearCell (d : Document) (a : Address) :
    (d.clearCell a).2.sheet.grid.rowLengths = d.sheet.grid.rowLengths := by
  rw [clearCell]
  split
  · rfl
  · exact rowLengths_setCell d a ""

theorem rowLengths_setTempo (d : Document) (bpm : Float) :
    (d.setTempo bpm).2.sheet.grid.rowLengths = d.sheet.grid.rowLengths := by
  rw [setTempo]
  split
  · exact Sheet.rowLengths_evaluateAll _
  · rfl

theorem rowLengths_loadFunctions (hosts : Hosts) (d : Document) (files : Files) (path : String) :
    (loadFunctions hosts d files path).2.sheet.grid.rowLengths = d.sheet.grid.rowLengths := by
  rcases loadFunctions_cases hosts d files path with hsame | ⟨place, text, host, -, hnew⟩
  · rw [hsame]
  · rw [hnew]
    exact Sheet.rowLengths_evaluateAll _

theorem rowLengths_evaluate (d : Document) (text : String) :
    (d.evaluate text).2.sheet.grid.rowLengths = d.sheet.grid.rowLengths := by
  have hfills := d.sheet.fills_evaluateFormula (Text.trim text.toList)
  rw [sheet_evaluate]
  exact Grid.rowLengths_congr hfills.rows hfills.cols

/-- Rows that are put into a sheet give it their shape. -/
theorem rowLengths_putRows (s : Sheet) (rows : List (List String)) :
    (s.replaceRows rows).grid.rowLengths = (Grid.ofRows "" rows).rowLengths :=
  (Sheet.rowLengths_evaluateAll _).trans (Grid.rowLengths_map _ _)

theorem rowLengths_load {files : Files} {path : String} {stored : SheetFile}
    (h : readStored files path = .ok stored) (d : Document) :
    (d.load files path).2.sheet.grid.rowLengths = (Grid.ofRows "" stored.rows).rowLengths := by
  rw [load, h]
  exact rowLengths_putRows _ _

theorem rowLengths_new (hosts : Hosts) :
    (new hosts).sheet.grid.rowLengths = (Grid.ofRows "" blankRows).rowLengths := by
  rw [sheet_new, Sheet.rowLengths_evaluateAll]
  show (Grid.fill defaultRows defaultCols (Cell.ofRaw "")).rowLengths = _
  rw [Grid.rowLengths_fill]
  decide

/-- **A document that is opened** has the shape of its file, or that of a new
one. -/
theorem rowLengths_opened {files : Files} {path : Option String} {functionPaths : List String}
    (h : opened hosts files path functionPaths = .ok d) :
    d.sheet.grid.rowLengths = (Grid.ofRows ""
      ((path.bind fun file => (readStored files file).toOption.map SheetFile.rows).getD
        blankRows)).rowLengths := by
  have hfunctions :
      (loadAllFunctions hosts files functionPaths (new hosts)).2.sheet.grid.rowLengths
        = (Grid.ofRows "" blankRows).rowLengths :=
    loadAllFunctions_induction
      (P := fun d => d.sheet.grid.rowLengths = (Grid.ofRows "" blankRows).rowLengths)
      (fun path d h => (rowLengths_loadFunctions hosts d files path).trans h) functionPaths
      (rowLengths_new hosts)
  rcases opened_cases h with ⟨rfl, rfl⟩ | ⟨file, stored, rfl, hstored, rfl⟩ | ⟨file, rfl, hhas, rfl⟩
  · exact hfunctions
  · rw [rowLengths_load hstored, Option.bind_some, hstored]
    rfl
  · obtain ⟨e, he⟩ := exists_readStored_eq_error hhas
    rw [Option.bind_some, he]
    exact hfunctions

/-- **An operation gives a grid the shape of the rows that it puts in**, and
keeps it if it puts in none. -/
theorem Operation.rowLengths_apply (hosts : Hosts) (op : Operation) (d : Document) :
    (op.apply hosts d).sheet.grid.rowLengths
      = ((op.newRows hosts).map fun rows => (Grid.ofRows "" rows).rowLengths).getD
        d.sheet.grid.rowLengths := by
  cases op with
  | openFile files path functionPaths =>
    rw [newRows, apply]
    cases hopened : opened hosts files path functionPaths with
    | error e => rfl
    | ok d' => exact rowLengths_opened hopened
  | setCell a text => exact rowLengths_setCell d a text
  | clearCell a => exact rowLengths_clearCell d a
  | setTempo bpm => exact rowLengths_setTempo d bpm
  | replaceRows rows =>
    rw [newRows, apply, Document.replaceRows]
    split
    · rfl
    · exact rowLengths_putRows _ _
  | loadFunctions files path => exact rowLengths_loadFunctions hosts d files path
  | load files path =>
    rw [newRows, apply]
    cases hstored : readStored files path with
    | error e =>
      rw [Document.load, hstored]
      rfl
    | ok stored => exact rowLengths_load hstored d
  | save files =>
    rw [newRows, apply, sheet_save]
    rfl
  | saveAs files path =>
    rw [newRows, apply, sheet_saveAs]
    rfl
  | evaluate text =>
    rw [newRows, apply, rowLengths_evaluate]
    rfl
  | recalculate => exact Sheet.rowLengths_evaluateAll _
  | setTime _ | exportTable _ _ | takeEvents => rfl

/-- **The rows that have been put in last** by some operations on a new
document. -/
def lastRows (hosts : Hosts) (ops : List Operation) : List (List String) :=
  ((ops.filterMap (Operation.newRows hosts)).getLast?).getD blankRows

/-- **They give the document its shape.** -/
theorem rowLengths_runAll (hosts : Hosts) (ops : List Operation) :
    (runAll hosts ops).1.sheet.grid.rowLengths
      = (Grid.ofRows "" (lastRows hosts ops)).rowLengths := by
  induction ops using List.reverseRecOn with
  | nil => exact rowLengths_new hosts
  | append_singleton ops op ih =>
    rw [fst_runAll_append, List.foldl_cons, List.foldl_nil, Operation.rowLengths_apply, ih,
      lastRows, lastRows, List.filterMap_append]
    cases hrows : op.newRows hosts with
    | none =>
      rw [List.filterMap_cons_none hrows, List.filterMap_nil, List.append_nil]
      rfl
    | some rows =>
      rw [List.filterMap_cons_some hrows, List.filterMap_nil, List.getLast?_concat]
      rfl

end Shape

/-- **A document has a cell if the rows that have been put in last have
one.** -/
theorem hasCell_runAll_iff (hosts : Hosts) (ops : List Operation) :
    (runAll hosts ops).1.HasCell ↔ (lastRows hosts ops).all List.isEmpty = false := by
  rw [hasCell_iff, rowLengths_runAll, Grid.exists_mem_rowLengths_ofRows_iff]

/-- The last of the results is that of the last element that has one. -/
theorem getLast?_filterMap_eq_some_iff {α β : Type} {f : α → Option β} {l : List α} {b : β} :
    (l.filterMap f).getLast? = some b
      ↔ ∃ before a after, l = before ++ a :: after ∧ f a = some b ∧ ∀ x ∈ after, f x = none := by
  rw [List.getLast?_filterMap, List.findSome?_eq_some_iff]
  constructor
  · rintro ⟨after, a, before, hl, ha, hafter⟩
    refine ⟨before.reverse, a, after.reverse, ?_, ha,
      fun x hx => hafter x (List.mem_reverse.mp hx)⟩
    rw [← List.reverse_reverse l, hl, List.reverse_append, List.reverse_cons, List.append_assoc]
    rfl
  · rintro ⟨before, a, after, rfl, ha, hafter⟩
    refine ⟨after.reverse, a, before.reverse, ?_, ha,
      fun x hx => hafter x (List.mem_reverse.mp hx)⟩
    rw [List.reverse_append, List.reverse_cons, List.append_assoc]
    rfl

/-- **Operations that leave a hollow grid**: one of them loads or opens a sheet
file whose rows have no cell, and none after it puts other rows in their
place. -/
def LeavesHollow (hosts : Hosts) (ops : List Operation) : Prop :=
  ∃ before op after files path stored, ops = before ++ op :: after
    ∧ op.sheetFile? = some (files, path) ∧ readStored files path = .ok stored
    ∧ stored.rows.all List.isEmpty = true ∧ op.newRows hosts = some stored.rows
    ∧ ∀ op' ∈ after, op'.newRows hosts = none

/-- **Only these leave a document without a cell.** -/
theorem not_hasCell_runAll_iff (hosts : Hosts) (ops : List Operation) :
    ¬(runAll hosts ops).1.HasCell ↔ LeavesHollow hosts ops := by
  rw [hasCell_runAll_iff, Bool.not_eq_false, lastRows]
  constructor
  · intro hempty
    cases hlast : (ops.filterMap (Operation.newRows hosts)).getLast? with
    | none =>
      rw [hlast] at hempty
      exact absurd hempty (by decide)
    | some rows =>
      rw [hlast] at hempty
      obtain ⟨before, op, after, hops, hrows, hafter⟩ := getLast?_filterMap_eq_some_iff.mp hlast
      obtain ⟨files, path, stored, hfile, hstored, rfl⟩ :=
        Operation.exists_readStored_of_newRows hrows hempty
      exact ⟨before, op, after, files, path, stored, hops, hfile, hstored, hempty, hrows, hafter⟩
  · rintro ⟨before, op, after, files, path, stored, hops, -, -, hempty, hrows, hafter⟩
    rw [getLast?_filterMap_eq_some_iff.mpr ⟨before, op, after, hops, hrows, hafter⟩]
    exact hempty

/-- **Loading and editing, compared.** A file that can be taken apart into rows
and a tempo is loaded, into whatever document, exactly if these rows and this
tempo are accepted as edits, or if the tempo is and there are rows, but all of
them empty. And whatever is done to a new document, it is left without a cell
exactly if the rows of such a file have been put in last. -/
theorem load_accepts_iff {files : Files} {path text : String} {file : SheetFile}
    (htext : files.readText path = .ok text) (hfile : SheetFile.decode? text.toList = some file) :
    (∀ d d' d'' : Document, (d.load files path).1 = .ok ()
        ↔ ((d'.replaceRows file.rows).1 = .ok ()
            ∨ (file.rows ≠ [] ∧ file.rows.all List.isEmpty = true))
          ∧ (d''.setTempo file.tempo).1 = .ok ())
      ∧ ∀ (hosts : Hosts) (ops : List Operation),
        ¬(runAll hosts ops).1.HasCell ↔ LeavesHollow hosts ops :=
  ⟨load_eq_ok_iff htext hfile, not_hasCell_runAll_iff⟩

/-- A directory with a sheet file that has one row, and no cell in it. -/
def hollowFiles : Files where
  here := ["home"]
  entries := [(["home", "hollow"], .file "\x7b\"grid\":[[]]\x7d".toUTF8)]

/-- The file is loaded, and the document has no cell then. -/
theorem load_accepts_iff_hollow :
    hollowFiles.readText "hollow" = .ok "\x7b\"grid\":[[]]\x7d"
      ∧ SheetFile.decode? "\x7b\"grid\":[[]]\x7d".toList = some ⟨[[]], 120⟩
      ∧ ((new Script.hosts).load hollowFiles "hollow").1 = .ok ()
      ∧ ¬(runAll Script.hosts [.load hollowFiles "hollow", .setTempo 90]).1.HasCell := by
  have htext : hollowFiles.readText "hollow" = .ok "\x7b\"grid\":[[]]\x7d" := by decide +kernel
  have hfile : SheetFile.decode? "\x7b\"grid\":[[]]\x7d".toList = some ⟨[[]], 120⟩ := by
    decide +kernel
  have hstored : readStored hollowFiles "hollow" = .ok ⟨[[]], 120⟩ := by decide +kernel
  have hrows : (Operation.load hollowFiles "hollow").newRows Script.hosts = some [[]] := by
    rw [Operation.newRows, hstored]
    rfl
  have htempo : ((new Script.hosts).setTempo 120).1 = .ok () :=
    (setTempo_eq_ok_iff _ _).mpr (by decide +kernel)
  obtain ⟨hload, hcell⟩ := load_accepts_iff htext hfile
  refine ⟨htext, hfile, ?_, ?_⟩
  · exact (hload _ (new Script.hosts) _).mpr ⟨.inr ⟨List.cons_ne_nil _ _, rfl⟩, htempo⟩
  · exact (hcell _ _).mpr ⟨[], _, _, hollowFiles, "hollow", ⟨[[]], 120⟩, rfl, rfl, hstored, rfl,
      hrows, List.forall_mem_singleton.mpr rfl⟩

/-- **Loading accepts what editing refuses**: a grid with a row and no cell. -/
theorem load_hollow :
    ((new Script.hosts).load hollowFiles "hollow").1 = .ok ()
      ∧ ((new Script.hosts).replaceRows [[]]).1 = .error (.badGrid .noCells)
      ∧ ((new Script.hosts).setTempo 120).1 = .ok ()
      ∧ ¬(runAll Script.hosts [.load hollowFiles "hollow"]).1.HasCell := by
  have hshape : (runAll Script.hosts [.load hollowFiles "hollow"]).1.sheet.grid.rowLengths = [0] :=
    by decide +kernel
  refine ⟨by decide +kernel, by decide +kernel, by decide +kernel, ?_⟩
  rw [hasCell_iff, hshape]
  decide

end Document

end SoundSheet
