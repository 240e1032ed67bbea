import SoundSheet.Script.Parser
import SoundSheet.Script.Run
import SoundSheet.Script.Simplify

/-!
# The host of the script language

A script sees the sheet through eight functions. It reads the values of the
cells that its code names, the tempo and the time; it asks for raw texts to be
stored and for audio events; and it has a scaling and a random function. A cell
whose text is a number as a whole reads as a number. Reading a cell that holds
an error fails with that error.

The numbers that scripts draw are not of the language's making. A host is given
them beforehand (`Draws`), and what is said of a host is said for all of them.

A host may have a prelude, whose functions every script can call. It stands in
front of the code, on lines of its own.
-/

namespace SoundSheet.Script

open SoundSheet.Text

/-! ## Values of cells and values of scripts -/

/-- A map with its kind in front. -/
def typed (m : MusicObject) (fields : List (String × Datum)) : Datum :=
  Datum.ofFields (("type", .text m.typeName) :: fields)

/-- **A musical object as a script sees it**. -/
def ofMusic (m : MusicObject) : Datum :=
  typed m <|
    match m with
    | .oscillator o =>
      [("waveType", .text o.waveType), ("freq", .float o.frequency), ("phase", .float o.phase),
        ("amplitude", .float o.amplitude)]
    | .waveform (.ofOscillator o) =>
      [("source", .text "oscillator"), ("waveType", .text o.waveType),
        ("freq", .float o.frequency)]
    | .waveform (.ofParameters frequency amplitude phase) =>
      [("source", .text "parameters"), ("freq", .float frequency),
        ("amplitude", .float amplitude), ("phase", .float phase)]
    | .beat b => [("bpm", .float b.bpm), ("pattern", .text b.pattern)]
    | .metronome bpm => [("bpm", .float bpm)]
    | .time value => [("value", .float value)]
    | .adsr e =>
      [("attack", .float e.attack), ("decay", .float e.decay), ("sustain", .float e.sustain),
        ("release", .float e.release)]
    | .audio v => [("frequency", .float v.frequency), ("waveType", .text v.waveType)]
    | .sequence s =>
      [("values", .array (s.values.map fun v => v.elim .unit .float)),
        ("currentStep", .int s.step), ("totalSteps", .int s.totalSteps), ("bpm", .float s.bpm)]
    | .chord c =>
      [("root", .text c.root.pitchName), ("quality", .text c.quality.key),
        ("symbol", .text c.symbol), ("notes", .array (c.notes.map .text)),
        ("frequencies", .array (c.frequencies.map .float))]

/-- **The value of a cell as a script sees it**. -/
def ofCellValue : CellValue → Datum
  | .number n => .float n
  | .text s =>
    match Decimal.parse? (trim s.toList) with
    | some n => .float n
    | none => .text s
  | .empty => .unit
  | .error e => .text e.message
  | .music m => ofMusic m

/-- How a truth value is written in a cell. -/
def truthText (b : Bool) : String :=
  if b then "TRUE" else "FALSE"

/-- **The cell value of the result of a script**. -/
def toCellValue : Datum → CellValue
  | .unit => .empty
  | .float x => .number x
  | .int n => .number (Float.ofInt n)
  | .bool b => .text (truthText b)
  | d => .text d.toText

/-- **The raw text for a value** that a script wants to be stored. -/
def toRaw : Datum → String
  | .unit => ""
  | .float x => Decimal.toText x
  | .bool b => truthText b
  | d => d.toText

/-! ## The functions that scripts can call -/

/-- The number that an argument is; `what` names the parameter. -/
def numberArg (what : String) : Datum → Except String Float
  | .float x => .ok x
  | .int n => .ok (Float.ofInt n)
  | d => .error (what ++ " must be a number, got " ++ d.typeName)

/-- The cell that a text names. -/
def cellArg (s : String) : Except String Address :=
  match Address.parse? s.toList with
  | some a => .ok a
  | none => .error ("Invalid cell address: " ++ s)

/-- A reply with a value alone. -/
def reply (d : Datum) : Reply :=
  ⟨d, [], []⟩

/-- The value of a cell that the code names. -/
def getValue (scope : Scope) (s : String) : Except String Reply := do
  let cell ← cellArg s
  match scope.value? cell with
  | some (.error e) => .error e.message
  | some v => .ok (reply (ofCellValue v))
  | none => .error ("Cell " ++ s ++ " is not available to this script")

/-- **The numbers that a script draws**, each from zero up to one: the number
for a call that comes after so many others. -/
abbrev Draws := Nat → Float

/-- A random number between two bounds, for a number that was drawn. -/
def random (draw least most : Float) : Float :=
  least + draw * (most - least)

/-- A value moved from one interval to another. -/
def scale (value inMin inMax outMin outMax : Float) : Float :=
  (value - inMin) * (outMax - outMin) / (inMax - inMin) + outMin

/-- **The functions that scripts can call**. -/
def surroundings (draws : Draws) (scope : Scope) : Surroundings := fun calls name args =>
  match name, args with
  | "getValue", [.text s] => some (getValue scope s)
  | "setValue", [.text s, d] => some do
    let cell ← cellArg s
    return ⟨.unit, [⟨cell, toRaw d⟩], []⟩
  | "getBPM", [] => some (.ok (reply (.float scope.tempo)))
  | "getCurrentTime", [] => some (.ok (reply (.float scope.time)))
  | "playNote", [frequency, duration] => some do
    let frequency ← numberArg "frequency" frequency
    let duration ← numberArg "duration" duration
    return ⟨.unit, [], [.note frequency duration]⟩
  | "createOscillator", [.text waveType, frequency] => some do
    let frequency ← numberArg "frequency" frequency
    return ⟨.unit, [], [.tone waveType frequency]⟩
  | "random", [least, most] => some do
    let least ← numberArg "min" least
    let most ← numberArg "max" most
    return reply (.float (random (draws calls) least most))
  | "scale", [value, inMin, inMax, outMin, outMax] => some do
    let value ← numberArg "value" value
    let inMin ← numberArg "inMin" inMin
    let inMax ← numberArg "inMax" inMax
    let outMin ← numberArg "outMin" outMin
    let outMax ← numberArg "outMax" outMax
    return reply (.float (scale value inMin inMax outMin outMax))
  | "len", [.array items] => some (.ok (reply (.int items.length)))
  | "len", [.text s] => some (.ok (reply (.int s.length)))
  | "len", [.map fields] => some (.ok (reply (.int fields.length)))
  | _, _ => none

/-! ## The host -/

section Hosts

variable (draws : Address → Draws)

/-- Runs code in a scope, where the script of each cell has draws of its own. -/
def runCode (code : List Char) (scope : Scope) : Except String Outcome :=
  match Program.parse code with
  | .error fault => .error ("JS Error: Syntax error: " ++ fault.describe)
  | .ok program =>
    match program.simplify.run (surroundings (draws scope.caller) scope) with
    | .error fault => .error ("JS Error: " ++ fault.describe)
    | .ok (d, m) => .ok ⟨toCellValue d, m.writes, m.events⟩

/-- The value of a script is one of the script language. -/
theorem exists_value_of_runCode {code : List Char} {scope : Scope} {outcome : Outcome}
    (h : runCode draws code scope = .ok outcome) : ∃ d, outcome.value = toCellValue d := by
  unfold runCode at h
  cases hparse : Program.parse code with
  | error fault => rw [hparse] at h; exact nomatch h
  | ok program =>
    rw [hparse] at h
    dsimp only at h
    cases hrun : program.simplify.run (surroundings (draws scope.caller) scope) with
    | error fault => rw [hrun] at h; exact nomatch h
    | ok result =>
      rw [hrun] at h
      cases h
      exact ⟨result.1, rfl⟩

/-- **The host without a prelude**. -/
def hostDrawing : Host where
  run := runCode draws

/-- The host whose scripts can call the functions of a prelude. -/
def hostWith (prelude : String) : Host where
  run code scope := runCode draws (prelude.toList ++ '\n' :: code) scope

/-- **The host with a prelude**, if the prelude is a script by itself. -/
def compile (prelude : String) : Except ParseFault Host :=
  (Program.parse prelude.toList).map fun _ => hostWith draws prelude

/-- **The hosts of the script language**. -/
def hostsDrawing : Hosts where
  plain := hostDrawing draws
  withPrelude prelude := (compile draws prelude).mapError ParseFault.describe

end Hosts

/-! ## Without chance

For sheets whose scripts draw nothing the draws do not matter, and may as well
be one number. -/

/-- Draws that are all in the middle. -/
def evenDraws : Address → Draws :=
  fun _ _ => 0.5

/-- The host without a prelude, on even draws. -/
def plainHost : Host :=
  hostDrawing evenDraws

/-- The hosts of the script language, on even draws. -/
def hosts : Hosts :=
  hostsDrawing evenDraws

end SoundSheet.Script
