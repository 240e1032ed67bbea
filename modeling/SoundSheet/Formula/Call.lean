import SoundSheet.Formula.ArgumentList
import SoundSheet.Formula.Arithmetic
import SoundSheet.Script.Mention
import SoundSheet.Value.Display

/-!
# Calls of builtins

Every builtin reads its arguments in a fixed order and makes a value of them. A
call with a wrong number of arguments fails before any of them is read. A text
argument that turns out to be an error fails the call with that error; a number
argument that has no numeric reading is replaced by a default, and for tempos,
frequencies and the like so is zero.
-/

namespace SoundSheet.Formula

open SoundSheet.Text SoundSheet.Script

/-- **What a formula is evaluated in**. -/
structure Setting where
  /-- The tempo in beats per minute. -/
  tempo : Float
  /-- The playback time in seconds. -/
  time : Float
  /-- The host that runs scripts. -/
  host : Host

/-- **A call of a builtin**. -/
structure Invocation where
  /-- The tokens behind the name. -/
  tokens : List Token
  /-- The text behind the name. -/
  source : List Char
  /-- The cell whose formula makes the call. -/
  caller : Address

/-- The tempo of a beat or sequence that is given none. -/
def defaultTempo : Float := 120

/-- The frequency of a voice that is given none, in Hz. -/
def defaultFrequency : Float := 440

section Arguments

variable (nested : List Char → Plan CellValue)

/-- A number argument. -/
def numberArgument (default : Float) (s : List Char) : Plan Float :=
  (argumentValue nested s).bind fun v => .done (v.coerceNumber.getD default)

/-- A number argument where zero counts as missing. -/
def nonzeroArgument (default : Float) (s : List Char) : Plan Float :=
  (argumentValue nested s).bind fun v => .done (v.nonzeroNumber.getD default)

/-- A text argument. -/
def textArgument (s : List Char) : Plan String :=
  (argumentValue nested s).bind fun
    | .error e => .fail (.referenced e)
    | v => .done v.toText

/-- A text argument, or a default if it is missing. -/
def optionalText (default : String) : Option (List Char) → Plan String
  | some s => textArgument nested s
  | none => .done default

/-! ## The builtins -/

/-- The display of explicit parameters. -/
def parameters (frequency amplitude : List Char) (phase : Float) : Plan MusicObject := do
  let frequency ← nonzeroArgument nested 1 frequency
  let amplitude ← nonzeroArgument nested 1 amplitude
  return .waveform (.ofParameters frequency amplitude phase)

/-- The display of an oscillator, or of explicit parameters. It reads single
tokens rather than arguments. -/
def waveform (call : Invocation) : Plan MusicObject :=
  match plainTokens call.tokens with
  | [source] =>
    (argumentValue nested source).bind fun
      | .music (.oscillator o) => .done (.waveform (.ofOscillator o))
      | _ => .fail .invalidOscillator
  | [frequency, amplitude] => parameters nested frequency amplitude 0
  | [frequency, amplitude, phase] =>
    (nonzeroArgument nested 0 phase).bind fun phase =>
      parameters nested frequency amplitude phase
  | _ => .fail (.arity .waveform)

/-- A tone generator. -/
def oscillator (call : Invocation) : Plan MusicObject :=
  match argumentTexts call.tokens with
  | [waveType, frequency, phase, amplitude] => do
    let waveType ← textArgument nested waveType
    let frequency ← numberArgument nested 0 frequency
    let phase ← numberArgument nested 0 phase
    let amplitude ← numberArgument nested 0 amplitude
    return .oscillator ⟨waveType, frequency, phase, amplitude⟩
  | _ => .fail (.arity .oscillator)

/-- A beat with a bus of its own. -/
def beat (call : Invocation) : Plan MusicObject :=
  match argumentTexts call.tokens with
  | [bpm, pattern] => do
    let bpm ← nonzeroArgument nested defaultTempo bpm
    let pattern ← textArgument nested pattern
    let bus ← Plan.newBus
    return .beat ⟨bpm, String.ofList (trim pattern.toList), bus⟩
  | _ => .fail (.arity .beat)

/-- A metronome at the given tempo, or at that of the sheet. -/
def metronome (setting : Setting) (call : Invocation) : Plan MusicObject :=
  match argumentTexts call.tokens with
  | [] => .done (.metronome setting.tempo)
  | [bpm] => (nonzeroArgument nested setting.tempo bpm).bind fun bpm => .done (.metronome bpm)
  | _ => .fail (.arity .metronome)

/-- The playback time. -/
def time (setting : Setting) (call : Invocation) : Plan MusicObject :=
  match argumentTexts call.tokens with
  | [] => .done (.time setting.time)
  | _ => .fail (.arity .time)

/-- Texts joined with a separator. -/
def concat (call : Invocation) : Plan String :=
  match argumentTexts call.tokens with
  | separator :: value :: values => do
    let separator ← textArgument nested separator
    let parts ← Plan.each (textArgument nested) (value :: values)
    return String.intercalate separator parts
  | _ => .fail (.arity .concat)

/-- An envelope. -/
def adsr (call : Invocation) : Plan MusicObject :=
  match argumentTexts call.tokens with
  | [attack, decay, sustain, release] => do
    let attack ← numberArgument nested 0 attack
    let decay ← numberArgument nested 0 decay
    let sustain ← numberArgument nested 0 sustain
    let release ← numberArgument nested 0 release
    return .adsr ⟨attack, decay, sustain, release⟩
  | _ => .fail (.arity .adsr)

/-- A voice on the bus of its source. -/
def voice (frequency source : List Char) (waveType : Option (List Char)) :
    Plan MusicObject := do
  let frequency ← nonzeroArgument nested defaultFrequency frequency
  let source ← argumentValue nested source
  match source.triggerBus? with
  | none => .fail .invalidTrigger
  | some bus =>
    let waveType ← optionalText nested "sine" waveType
    return .audio ⟨frequency, waveType, bus⟩

/-- A voice on the bus of its second argument. -/
def audio (call : Invocation) : Plan MusicObject :=
  match argumentTexts call.tokens with
  | [frequency, source] => voice nested frequency source none
  | [frequency, source, waveType] => voice nested frequency source (some waveType)
  | _ => .fail (.arity .audio)

/-- The numeric readings of cells, in order. -/
def readCells (cells : List Address) : Plan (List (Option Float)) :=
  Plan.each (fun cell => (Plan.lookup cell).bind fun v => .done v.coerceNumber) cells

/-- **The numeric readings of the cells of a region**, in the order of a
traversal. The cells are listed before the first of them is looked up. -/
def readRegion (region : Region) (traversal : Traversal) : Plan (List (Option Float)) :=
  match region.listed? traversal with
  | some cells => readCells cells
  | none => .fail .regionTooLarge

/-- The traversal that a text names. -/
def traversalOf (s : String) : Plan Traversal :=
  match Traversal.parse? s.toList with
  | some t => .done t
  | none => .fail (.invalidTraversal s)

/-- The steps of a region, with a bus of their own. -/
def stepped (source bpm : List Char) (traversal : Option (List Char)) : Plan MusicObject :=
  match Region.parse? source with
  | none => .fail (.invalidRegion (String.ofList source))
  | some region => do
    let bpm ← nonzeroArgument nested defaultTempo bpm
    let traversal ← (optionalText nested Traversal.vertical.name traversal).bind traversalOf
    let values ← readRegion region traversal
    let bus ← Plan.newBus
    return .sequence ⟨values, 0, values.length, bpm, bus, region, traversal⟩

/-- A sequence with a bus of its own. -/
def sequence (call : Invocation) : Plan MusicObject :=
  match argumentTexts call.tokens with
  | [region, bpm] => stepped nested region bpm none
  | [region, bpm, traversal] => stepped nested region bpm (some traversal)
  | _ => .fail (.arity .sequence)

/-- A text without its single quotes. -/
def unquoteSingle (s : String) : List Char :=
  s.toList.filter (· ≠ '\'')

/-- A text with its first letter as a capital. -/
def capitalize : List Char → List Char
  | [] => []
  | c :: rest => c.toUpper :: rest

/-- A chord on a root, major unless a quality is given. -/
def rooted (root : List Char) (quality : Option (List Char)) : Plan MusicObject := do
  let root ← textArgument nested root
  let root := capitalize (unquoteSingle root)
  match Music.Note.parse? root with
  | none => .fail (.invalidNote (String.ofList root))
  | some root =>
    match quality with
    | none => .done (.chord ⟨root, .major⟩)
    | some quality =>
      let quality ← textArgument nested quality
      let quality := String.ofList (unquoteSingle quality)
      match Music.Quality.parse? quality with
      | none => .fail (.invalidQuality quality)
      | some quality => return .chord ⟨root, quality⟩

/-- A chord. -/
def chord (call : Invocation) : Plan MusicObject :=
  match argumentTexts call.tokens with
  | [root] => rooted nested root none
  | [root, quality] => rooted nested root (some quality)
  | _ => .fail (.arity .chord)

end Arguments

/-! ## Scripts -/

/-- Whether unquoted parentheses never close more than they opened, from a
place inside or outside quotes with this nesting. -/
def closesWithin (quoted : Bool) (depth : Nat) : List Char → Bool
  | [] => true
  | c :: rest =>
    if c = '"' then closesWithin (!quoted) depth rest
    else if quoted then closesWithin quoted depth rest
    else if c = '(' then closesWithin quoted (depth + 1) rest
    else if c = ')' then
      match depth with
      | 0 => false
      | depth + 1 => closesWithin quoted depth rest
    else closesWithin quoted depth rest

/-- **The code of a script call**: the text without the parentheses of the call,
if the first one closes at the very end. -/
def scriptCode (source : List Char) : List Char :=
  match source with
  | '(' :: rest =>
    if rest.getLast? = some ')' ∧ closesWithin false 0 rest.dropLast then trim rest.dropLast
    else source
  | _ => source

/-- A script: the cells that its code names are looked up first, then the host
runs it. -/
def script (setting : Setting) (call : Invocation) : Plan CellValue :=
  let code := scriptCode (trim call.source)
  (Plan.each (fun cell => (Plan.peek cell).bind fun v => .done (cell, v)) (mentions code)).bind
    fun values =>
      match setting.host.run code ⟨call.caller, values, setting.tempo, setting.time⟩ with
      | .error message => .fail (.external message)
      | .ok outcome => .emit outcome.writes outcome.events (.done outcome.value)

/-! ## Dispatch -/

/-- **The value of a call of a builtin**, where `nested` evaluates the calls in
its arguments. -/
def Invocation.run (setting : Setting) (nested : List Char → Plan CellValue)
    (call : Invocation) : Builtin → Plan CellValue
  | .waveform => (waveform nested call).bind fun m => .done (.music m)
  | .oscillator => (oscillator nested call).bind fun m => .done (.music m)
  | .beat => (beat nested call).bind fun m => .done (.music m)
  | .metronome => (metronome nested setting call).bind fun m => .done (.music m)
  | .time => (time setting call).bind fun m => .done (.music m)
  | .concat => (concat nested call).bind fun s => .done (.text s)
  | .adsr => (adsr nested call).bind fun m => .done (.music m)
  | .audio => (audio nested call).bind fun m => .done (.music m)
  | .sequence => (sequence nested call).bind fun m => .done (.music m)
  | .chord => (chord nested call).bind fun m => .done (.music m)
  | .script => script setting call

end SoundSheet.Formula
