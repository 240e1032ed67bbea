import SoundSheet.Proofs.Document.Operations

/-!
# The functions of a document

Three things in a document belong together: the list of the files of functions,
the text of all of them, and the host that scripts are run by. Loading a file
changes them one after the other, when all that can fail is behind it. Files are
told apart by the places that paths lead to, and a file is read again each time,
whatever it holds by then.

So a record is carried along beside the document: the files that have been
loaded, each with the text that it had when that first went well (`loadings`).
It takes no note of what the document holds, only of which operations succeed.
The document is always in step with it (`functionsInStep_runAll`), whatever
texts the script language may accept, and a file that is in the list is never
loaded again.
-/

namespace SoundSheet.Document

open SoundSheet.Script

/-! ## The record -/

/-- **A record with one more file**, if that could be read and is not in it
yet. -/
def record (loaded : List (Place × String)) :
    Except DocumentError (Place × String) → List (Place × String)
  | .error _ => loaded
  | .ok found =>
    if (loaded.map Prod.fst).contains found.1 then loaded else loaded ++ [found]

/-- A record with more files. -/
def recordAll (files : Files) (paths : List String) (loaded : List (Place × String)) :
    List (Place × String) :=
  paths.foldl (fun loaded path => record loaded (readFunctions files path)) loaded

/-- **The record after an operation**. A document that is opened starts another
one. -/
def Operation.loadings (hosts : Hosts) :
    Operation → Document → List (Place × String) → List (Place × String)
  | openFile files path functionPaths, _, loaded =>
    if (opened hosts files path functionPaths).isOk then recordAll files functionPaths []
    else loaded
  | loadFunctions files path, d, loaded =>
    if (Document.loadFunctions hosts d files path).1.isOk then
      record loaded (readFunctions files path)
    else loaded
  | setCell _ _, _, loaded | clearCell _, _, loaded | setTempo _, _, loaded
  | setTime _, _, loaded | recalculate, _, loaded | replaceRows _, _, loaded
  | load _ _, _, loaded | save _, _, loaded | saveAs _ _, _, loaded | evaluate _, _, loaded
  | exportTable _ _, _, loaded | takeEvents, _, loaded => loaded

/-- The record after operations in order. -/
def loadingsAfter (hosts : Hosts) :
    List Operation → Document → List (Place × String) → List (Place × String)
  | [], _, loaded => loaded
  | op :: ops, d, loaded =>
    loadingsAfter hosts ops (op.apply hosts d) (op.loadings hosts d loaded)

/-- **The files of functions that are loaded by operations** on a new document,
each with the text that it had when it was. -/
def loadings (hosts : Hosts) (ops : List Operation) : List (Place × String) :=
  loadingsAfter hosts ops (new hosts) []

/-- **The texts of a record**, with an empty line between them. -/
def joinedFunctions (loaded : List (Place × String)) : Option String :=
  if loaded = [] then none else some (String.intercalate "\n\n" (loaded.map Prod.snd))

/-! ## The invariant -/

/-- **A document that is in step with a record**. -/
structure FunctionsInStep (hosts : Hosts) (d : Document) (loaded : List (Place × String)) :
    Prop where
  /-- The files are those of the record. -/
  files : d.functionFiles = loaded.map Prod.fst
  /-- No file is listed twice. -/
  nodup : d.functionFiles.Nodup
  /-- The functions are the texts of the record. -/
  functions : d.functions = joinedFunctions loaded
  /-- Scripts can call just these functions. -/
  host : hosts.forFunctions d.functions = .ok d.sheet.host

/-- **Documents with the same functions**. -/
structure SameFunctions (d d' : Document) : Prop where
  /-- The files. -/
  files : d'.functionFiles = d.functionFiles
  /-- The functions. -/
  functions : d'.functions = d.functions
  /-- The host. -/
  host : d'.sheet.host = d.sheet.host

section Steps

variable {hosts : Hosts} {d d' : Document} {loaded : List (Place × String)}

theorem FunctionsInStep.congr (h : d.FunctionsInStep hosts loaded) (hsame : d.SameFunctions d') :
    d'.FunctionsInStep hosts loaded := by
  refine ⟨hsame.files.trans h.files, ?_, hsame.functions.trans h.functions, ?_⟩
  · rw [hsame.files]
    exact h.nodup
  · rw [hsame.functions, hsame.host]
    exact h.host

/-! ## Operations that load no functions -/

theorem sameFunctions_refl (d : Document) : d.SameFunctions d :=
  ⟨rfl, rfl, rfl⟩

/-- **An evaluation of all cells** keeps the functions. -/
theorem sameFunctions_evaluateAll {s : Sheet} (hhost : s.host = d.sheet.host) (file : Option String)
    (modified : Bool) :
    d.SameFunctions { d with sheet := s.evaluateAll, file := file, modified := modified } :=
  ⟨rfl, rfl, s.host_evaluateAll.trans hhost⟩

theorem sameFunctions_setCell (d : Document) (a : Address) (text : String) :
    d.SameFunctions (d.setCell a text).2 := by
  rw [setCell, Sheet.enter]
  cases d.sheet.grid.get? a with
  | none => exact d.sameFunctions_refl
  | some cell => exact sameFunctions_evaluateAll (by rfl) d.file true

theorem sameFunctions_clearCell (d : Document) (a : Address) :
    d.SameFunctions (d.clearCell a).2 := by
  rw [clearCell]
  split
  · exact d.sameFunctions_refl
  · exact d.sameFunctions_setCell a ""

theorem sameFunctions_setTempo (d : Document) (bpm : Float) :
    d.SameFunctions (d.setTempo bpm).2 := by
  rw [setTempo]
  split
  · exact sameFunctions_evaluateAll (by rfl) d.file true
  · exact d.sameFunctions_refl

theorem sameFunctions_replaceRows (d : Document) (rows : List (List String)) :
    d.SameFunctions (d.replaceRows rows).2 := by
  rw [replaceRows]
  split
  · exact d.sameFunctions_refl
  · exact sameFunctions_evaluateAll (by rfl) d.file true

theorem sameFunctions_load (d : Document) (files : Files) (path : String) :
    d.SameFunctions (d.load files path).2 := by
  rw [load]
  cases readStored files path with
  | error e => exact d.sameFunctions_refl
  | ok stored => exact sameFunctions_evaluateAll (by rfl) (some path) false

theorem sameFunctions_save (d : Document) (files : Files) :
    d.SameFunctions (d.save files).2 := by
  rw [save]
  cases d.file with
  | none => exact d.sameFunctions_refl
  | some path =>
    dsimp only
    cases files.writeText path d.stored.write with
    | ok files => exact ⟨rfl, rfl, rfl⟩
    | error e => exact d.sameFunctions_refl

theorem sameFunctions_saveAs (d : Document) (files : Files) (path : String) :
    d.SameFunctions (d.saveAs files path).2 :=
  -- the path that is kept is no part of the functions
  have hsave := sameFunctions_save { d with file := some path } files
  ⟨hsave.files, hsave.functions, hsave.host⟩

theorem sameFunctions_evaluate (d : Document) (text : String) :
    d.SameFunctions (d.evaluate text).2 := by
  have hsetting := d.sheet.setting_evaluateFormula (Text.trim text.toList)
  rw [Document.evaluate]
  generalize d.sheet.evaluateFormula (Text.trim text.toList) = answer at hsetting
  exact ⟨rfl, rfl, congrArg Formula.Setting.host hsetting⟩

/-! ## Loading functions -/

/-- The functions of a document and those of one more file are the texts of the
record with that file. -/
theorem joinedFunctions_append (h : d.functions = joinedFunctions loaded)
    (found : Place × String) :
    joinedFunctions (loaded ++ [found]) = some (d.mergedFunctions found.2) := by
  rw [joinedFunctions, if_neg (List.append_ne_nil_of_right_ne_nil loaded (List.cons_ne_nil _ _)),
    mergedFunctions, h, joinedFunctions, List.map_append, List.map_singleton]
  by_cases hloaded : loaded = []
  · rw [if_pos hloaded, hloaded, List.map_nil, List.nil_append, String.intercalate_singleton]
  · have htexts : loaded.map Prod.snd ≠ [] := fun h => hloaded (List.map_eq_nil_iff.mp h)
    rw [if_neg hloaded,
      String.intercalate_append_of_ne_nil htexts (List.cons_ne_nil _ _),
      String.intercalate_singleton]

/-- **What can come of loading a file**: it cannot be read, it is listed
already, its functions are no script behind the others, or it joins the
document. -/
theorem loadFunctions_outcomes (hosts : Hosts) (d : Document) (files : Files) (path : String) :
    (∃ e, readFunctions files path = .error e
        ∧ Document.loadFunctions hosts d files path = (.error e, d))
      ∨ ∃ place text, readFunctions files path = .ok (place, text)
        ∧ (place ∈ d.functionFiles ∧ Document.loadFunctions hosts d files path = (.ok (), d)
          ∨ place ∉ d.functionFiles
            ∧ ((∃ message, Document.loadFunctions hosts d files path
                = (.error (.badFunctions message), d))
              ∨ ∃ host, hosts.withPrelude (d.mergedFunctions text) = .ok host
                ∧ Document.loadFunctions hosts d files path = (.ok (),
                  { d with
                    sheet := { d.sheet with host := host }.evaluateAll
                    functionFiles := d.functionFiles ++ [place]
                    functions := some (d.mergedFunctions text) }))) := by
  rw [Document.loadFunctions]
  cases readFunctions files path with
  | error e => exact .inl ⟨e, rfl, rfl⟩
  | ok found =>
    obtain ⟨place, text⟩ := found
    refine .inr ⟨place, text, rfl, ?_⟩
    dsimp only
    by_cases hplace : place ∈ d.functionFiles
    · exact .inl ⟨hplace, if_pos hplace⟩
    · rw [if_neg hplace]
      refine .inr ⟨hplace, ?_⟩
      cases hosts.withPrelude (d.mergedFunctions text) with
      | error message => exact .inl ⟨message, rfl⟩
      | ok host => exact .inr ⟨host, rfl, rfl⟩

/-- **A file that can be loaded joins the record with its text**, and one that
is listed already does not. -/
theorem FunctionsInStep.loadFunctions (h : d.FunctionsInStep hosts loaded) (files : Files)
    (path : String) :
    (Document.loadFunctions hosts d files path).2.FunctionsInStep hosts
      (if (Document.loadFunctions hosts d files path).1.isOk then
        record loaded (readFunctions files path)
      else loaded) := by
  rcases loadFunctions_outcomes hosts d files path with ⟨e, -, hload⟩ |
    ⟨place, text, hread, ⟨hplace, hload⟩ | ⟨hplace, ⟨message, hload⟩ | ⟨host, hhost, hload⟩⟩⟩
  · rw [hload]
    exact h
  · have hkept : record loaded (.ok (place, text)) = loaded :=
      if_pos (List.contains_iff_mem.mpr (h.files ▸ hplace))
    rw [hload, hread, hkept, ite_self]
    exact h
  · rw [hload]
    exact h
  · have hmore : record loaded (.ok (place, text)) = loaded ++ [(place, text)] :=
      if_neg (mt List.contains_iff_mem.mp (h.files ▸ hplace))
    have hkept : { d.sheet with host := host }.evaluateAll.host = host :=
      Sheet.host_evaluateAll _
    rw [hload, hread, hmore]
    refine ⟨?_, ?_, (joinedFunctions_append h.functions (place, text)).symm, ?_⟩
    · show d.functionFiles ++ [place] = (loaded ++ [(place, text)]).map Prod.fst
      rw [List.map_append, h.files, List.map_singleton]
    · exact List.nodup_append.mpr ⟨h.nodup, List.nodup_singleton place, fun a ha b hb hab =>
        hplace (List.mem_singleton.mp hb ▸ hab ▸ ha)⟩
    · exact hhost.trans (congrArg Except.ok hkept.symm)

/-- A file that fails to load ends the loading, so where that ends well all of
them do. -/
theorem FunctionsInStep.loadAllFunctions (files : Files) (paths : List String) :
    ∀ {d : Document} {loaded : List (Place × String)}, d.FunctionsInStep hosts loaded →
      (loadAllFunctions hosts files paths d).1 = .ok () →
      (loadAllFunctions hosts files paths d).2.FunctionsInStep hosts
        (recordAll files paths loaded) := by
  induction paths with
  | nil => exact fun h _ => h
  | cons path paths ih =>
    intro d loaded h hok
    have hnext := h.loadFunctions files path
    rw [Document.loadAllFunctions] at hok ⊢
    generalize Document.loadFunctions hosts d files path = attempt at hnext hok ⊢
    obtain ⟨outcome, d'⟩ := attempt
    cases outcome with
    | ok _ => exact ih hnext hok
    | error e => cases hok

/-- **A new document** has no functions. -/
theorem functionsInStep_new (hosts : Hosts) : (new hosts).FunctionsInStep hosts [] := by
  refine ⟨rfl, List.nodup_nil, rfl, ?_⟩
  rw [sheet_new, Sheet.host_evaluateAll]
  rfl

/-- **A document that is opened** has the functions of the files that it is
opened with. -/
theorem functionsInStep_opened {files : Files} {path : Option String}
    {functionPaths : List String} (h : opened hosts files path functionPaths = .ok d) :
    d.FunctionsInStep hosts (recordAll files functionPaths []) := by
  have hloaded : (Document.loadAllFunctions hosts files functionPaths (new hosts)).1 = .ok () := by
    rw [opened] at h
    generalize Document.loadAllFunctions hosts files functionPaths (new hosts) = attempt at h
    obtain ⟨outcome, d'⟩ := attempt
    cases outcome with
    | ok _ => rfl
    | error e => cases h
  have hstep := FunctionsInStep.loadAllFunctions files functionPaths (functionsInStep_new hosts)
    hloaded
  rcases opened_cases h with ⟨-, hd⟩ | ⟨file, stored, -, -, hd⟩ | ⟨file, -, -, hd⟩
  · exact hd ▸ hstep
  · rw [hd]
    exact hstep.congr (sameFunctions_load _ files file)
  · rw [hd]
    exact hstep.congr ⟨rfl, rfl, rfl⟩

/-! ## All operations -/

/-- **Every operation keeps a document in step**, whether it succeeds or
fails. -/
theorem FunctionsInStep.apply (h : d.FunctionsInStep hosts loaded) (op : Operation) :
    (op.apply hosts d).FunctionsInStep hosts (op.loadings hosts d loaded) := by
  cases op with
  | openFile files path functionPaths =>
    rw [Operation.apply, Operation.loadings]
    cases hopened : opened hosts files path functionPaths with
    | error e => exact h
    | ok d' => exact functionsInStep_opened hopened
  | setCell a text => exact h.congr (d.sameFunctions_setCell a text)
  | clearCell a => exact h.congr (d.sameFunctions_clearCell a)
  | setTempo bpm => exact h.congr (d.sameFunctions_setTempo bpm)
  | setTime time => exact h.congr ⟨rfl, rfl, rfl⟩
  | recalculate => exact h.congr (sameFunctions_evaluateAll (by rfl) d.file d.modified)
  | replaceRows rows => exact h.congr (d.sameFunctions_replaceRows rows)
  | loadFunctions files path => exact h.loadFunctions files path
  | load files path => exact h.congr (d.sameFunctions_load files path)
  | save files => exact h.congr (d.sameFunctions_save files)
  | saveAs files path => exact h.congr (d.sameFunctions_saveAs files path)
  | evaluate text => exact h.congr (d.sameFunctions_evaluate text)
  | exportTable files path => exact h
  | takeEvents => exact h.congr ⟨rfl, rfl, rfl⟩

end Steps

/-- So do operations in order. -/
theorem FunctionsInStep.runAll {hosts : Hosts} (ops : List Operation) :
    ∀ {d : Document} {time : Float} {loaded : List (Place × String)},
      d.FunctionsInStep hosts loaded →
      (ops.foldl (fun (d, time) op => (op.apply hosts d, op.passTime hosts d time))
        (d, time)).1.FunctionsInStep hosts (loadingsAfter hosts ops d loaded) := by
  induction ops with
  | nil => exact fun h => h
  | cons op ops ih => exact fun h => ih (h.apply op)

/-- The place of a file that is read is the one that its path leads to. -/
theorem place_eq_of_readFunctions {files : Files} {path : String} {place place' : Place}
    {text : String} (hpath : files.resolve path = .ok place)
    (hread : readFunctions files path = .ok (place', text)) : place' = place := by
  rw [readFunctions, hpath] at hread
  have hread : (onFile (files.readFunctions place)).bind (fun text => .ok (place, text))
      = .ok (place', text) := hread
  cases htext : onFile (files.readFunctions place) with
  | error e =>
    rw [htext] at hread
    exact nomatch hread
  | ok text' =>
    rw [htext] at hread
    exact (Prod.mk.inj (Except.ok.inj hread)).1.symm

/-- **A file that is listed is only read again**, and the document stays as it
is, even if the file cannot be read any more. -/
theorem loadFunctions_eq_of_mem (hosts : Hosts) {d : Document} {files : Files} {path : String}
    {place : Place} (hpath : files.resolve path = .ok place) (hplace : place ∈ d.functionFiles) :
    loadFunctions hosts d files path = ((readFunctions files path).map fun _ => (), d) := by
  rcases loadFunctions_outcomes hosts d files path with
    ⟨e, hread, hload⟩ | ⟨place', text, hread, ⟨-, hload⟩ | ⟨hplace', -⟩⟩
  · rw [hload, hread]
    rfl
  · rw [hload, hread]
    rfl
  · rw [place_eq_of_readFunctions hpath hread] at hplace'
    exact absurd hplace hplace'

/-- **Files, functions and host stay in step.** Whatever is done to a document,
with files that change in between, and whatever texts are functions: the list of
files holds each place once, in the order in which they were first loaded; the
functions are the texts that the files had then, with an empty line between
them; the host is the one for just these functions; and loading a file that is
listed does no more than read it. -/
theorem functionsInStep_runAll (hosts : Hosts) (ops : List Operation) :
    (runAll hosts ops).1.functionFiles = (loadings hosts ops).map Prod.fst
      ∧ (runAll hosts ops).1.functionFiles.Nodup
      ∧ (runAll hosts ops).1.functions = joinedFunctions (loadings hosts ops)
      ∧ hosts.forFunctions (runAll hosts ops).1.functions = .ok (runAll hosts ops).1.sheet.host
      ∧ ∀ files path place, files.resolve path = .ok place →
          place ∈ (runAll hosts ops).1.functionFiles →
          loadFunctions hosts (runAll hosts ops).1 files path
            = ((readFunctions files path).map fun _ => (), (runAll hosts ops).1) := by
  have hstep : (runAll hosts ops).1.FunctionsInStep hosts (loadings hosts ops) :=
    .runAll ops (functionsInStep_new hosts)
  exact ⟨hstep.files, hstep.nodup, hstep.functions, hstep.host,
    fun _ _ _ hpath hplace => loadFunctions_eq_of_mem hosts hpath hplace⟩

/-- Two files of functions, of which one has the text that is given. -/
def tuneFiles (tune : String) : Files where
  here := ["home"]
  entries := [(["home", "tune"], .file tune.toUTF8),
    (["home", "beat"], .file "fn beat() \x7b 2 \x7d".toUTF8)]

/-- The first file is loaded, and once more by another path when it holds
something else. -/
theorem functionsInStep_tune :
    let old := tuneFiles "fn tune() \x7b 1 \x7d"
    let changed := tuneFiles "no functions"
    let ops := [Operation.loadFunctions old "tune", .loadFunctions changed "./tune",
      .loadFunctions changed "/home/beat"]
    let d := (runAll Script.hosts ops).1
    loadings Script.hosts ops = [(["home", "tune"], "fn tune() \x7b 1 \x7d"),
        (["home", "beat"], "fn beat() \x7b 2 \x7d")]
      ∧ d.functions = some "fn tune() \x7b 1 \x7d\n\nfn beat() \x7b 2 \x7d"
      ∧ loadFunctions Script.hosts d changed "../home/tune" = (.ok (), d) := by
  intro old changed ops d
  have hloadings : loadings Script.hosts ops = [(["home", "tune"], "fn tune() \x7b 1 \x7d"),
      (["home", "beat"], "fn beat() \x7b 2 \x7d")] := by decide +kernel
  obtain ⟨hfiles, -, hfunctions, -, hagain⟩ := functionsInStep_runAll Script.hosts ops
  rw [hloadings] at hfiles hfunctions
  have hplace : ["home", "tune"] ∈ d.functionFiles := by
    rw [hfiles]
    exact List.mem_cons_self
  exact ⟨hloadings, hfunctions, hagain changed "../home/tune" ["home", "tune"]
    (by decide +kernel) hplace⟩

end SoundSheet.Document
