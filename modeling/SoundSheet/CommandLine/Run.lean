import SoundSheet.CommandLine.Options
import SoundSheet.Document.Storage

/-!
# Running the command line

A run opens a document, changes its tempo, exports its table and evaluates a
formula, each as far as it is asked for, in this order, up to the first failure.
What was exported before a failure stays exported. Without a file to export to
and without a formula the table is printed.
-/

namespace SoundSheet.CommandLine

open SoundSheet.Script

/-- **Why a run fails**. -/
inductive Failure where
  /-- The document cannot be opened or changed. -/
  | document (e : DocumentError)
  /-- The tempo is not written as a number. -/
  | badTempo (text : String)
  /-- The table cannot be exported. -/
  | badExport (path : String) (e : DocumentError)
  /-- The formula is blank. -/
  | blankCommand
  deriving DecidableEq

/-- Why a text without blanks around it is not a number. -/
def numberFault (text : List Char) : String :=
  if text = [] then "cannot parse float from empty string" else "invalid float literal"

/-- **The wordings from a failure down to its cause**. -/
def Failure.chain : Failure → List String
  | document e => e.chain
  | badTempo text => ["invalid tempo: " ++ text, numberFault (Text.trim text.toList)]
  | badExport path e => ("failed to export " ++ path) :: e.chain
  | blankCommand => ["--command requires a non-empty formula"]

/-- The line that is printed for a failure. -/
def Failure.line (f : Failure) : String :=
  "Error: " ++ String.intercalate ": " f.chain

/-- **What a run leaves behind**. -/
structure Report where
  /-- The exit code. -/
  code : UInt32
  /-- What is printed. -/
  out : String
  /-- The lines of messages. -/
  messages : List String
  /-- The files. -/
  files : Files

namespace Report

/-- The messages as they are printed. -/
def err (r : Report) : String :=
  String.join (r.messages.map (· ++ "\n"))

/-- A run that fails. -/
def failed (files : Files) (f : Failure) : Report :=
  ⟨1, "", [f.line], files⟩

end Report

/-- The files of functions to load: the default ones in front, if they are there
and wanted. -/
def functionPaths (o : Options) (files : Files) (defaults : Option String) : List String :=
  match defaults with
  | none => o.functionPaths
  | some path =>
    if !o.withoutDefaults && files.hasFile path then path :: o.functionPaths else o.functionPaths

/-- The document with the tempo that is asked for. -/
def withTempo (tempo : Option String) (d : Document) : Except Failure Document :=
  match tempo with
  | none => .ok d
  | some text =>
    match Decimal.parse? (Text.trim text.toList) with
    | none => .error (.badTempo text)
    | some bpm =>
      match d.setTempo bpm with
      | (.ok (), d) => .ok d
      | (.error e, _) => .error (.document e)

/-- The document that is asked for. -/
def openDocument (hosts : Hosts) (files : Files) (defaults : Option String) (o : Options) :
    Except Failure Document := do
  let d ← (Document.opened hosts files o.file (functionPaths o files defaults)).mapError .document
  withTempo o.tempo d

/-- Evaluates a formula and prints what it shows. An error is printed too, but
the run fails. -/
def answerCommand (files : Files) (d : Document) (text : String) : Report :=
  if Text.trim text.toList = [] then .failed files .blankCommand
  else
    let (v, _) := d.evaluate text
    ⟨if v.isError then 1 else 0, v.display ++ "\n", [], files⟩

/-- The last part of a run: the formula, or the table if nothing was exported
either. -/
def finish (files : Files) (d : Document) (o : Options) : Report :=
  match o.command, o.output with
  | some text, _ => answerCommand files d text
  | none, none => ⟨0, d.sheet.table, [], files⟩
  | none, some _ => ⟨0, "", [], files⟩

/-- A run with a document that is open. -/
def runWith (files : Files) (d : Document) (o : Options) : Report :=
  match o.output with
  | none => finish files d o
  | some path =>
    match d.exportTable files path with
    | .error e => .failed files (.badExport path e)
    | .ok files =>
      let r := finish files d o
      { r with messages := ("Exported to " ++ path) :: r.messages }

/-- **A run of the command line** on files; `defaults` is the path of the
default functions. -/
def run (hosts : Hosts) (files : Files) (defaults : Option String) (args : List String) : Report :=
  match Options.read args Options.none with
  | .error stop => ⟨stop.code, "", stop.lines, files⟩
  | .ok o =>
    match openDocument hosts files defaults o with
    | .error f => .failed files f
    | .ok d => runWith files d o

end SoundSheet.CommandLine
