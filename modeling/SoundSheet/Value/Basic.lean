import SoundSheet.Address.Region
import SoundSheet.Bus
import SoundSheet.FormulaError
import SoundSheet.Music.Note

/-!
# Cell values

A cell holds a number, a text, nothing, an error, or one of the musical objects
that the builtins make. Beats and sequences own a trigger bus; a voice is bound
to the bus of another cell. What can be recomputed from the parts of a chord
(its notes and their frequencies) is not stored beside them.
-/

namespace SoundSheet

/-! ## Musical objects -/

/-- **A tone generator**. -/
structure Oscillator where
  /-- The wave type, as it was written. -/
  waveType : String
  /-- The frequency in Hz. -/
  frequency : Float
  /-- The phase. -/
  phase : Float
  /-- The amplitude. -/
  amplitude : Float
  deriving DecidableEq

/-- **Where a waveform display takes its shape from**. -/
inductive Waveform where
  /-- From an oscillator. -/
  | ofOscillator (source : Oscillator)
  /-- From explicit parameters. -/
  | ofParameters (frequency amplitude phase : Float)
  deriving DecidableEq

/-- **A beat pattern** that can be triggered. -/
structure Beat where
  /-- Beats per minute. -/
  bpm : Float
  /-- The pattern, as it was written. -/
  pattern : String
  /-- The bus that the beat triggers. -/
  bus : BusId
  deriving DecidableEq

/-- **An envelope**. -/
structure Envelope where
  /-- The attack. -/
  attack : Float
  /-- The decay. -/
  decay : Float
  /-- The sustain. -/
  sustain : Float
  /-- The release. -/
  release : Float
  deriving DecidableEq

/-- **A voice** that sounds whenever its source triggers. -/
structure Voice where
  /-- The frequency in Hz. -/
  frequency : Float
  /-- The wave type, as it was written. -/
  waveType : String
  /-- The bus of the beat or sequence that the voice is bound to. -/
  source : BusId
  deriving DecidableEq

/-- **Stepped values** read from a region, with a cursor for playback. -/
structure Sequence where
  /-- The value of each step, if its cell has a numeric reading. -/
  values : List (Option Float)
  /-- The current step. -/
  step : Nat
  /-- The number of steps that the cursor goes through. -/
  totalSteps : Nat
  /-- Beats per minute. -/
  bpm : Float
  /-- The bus that the sequence triggers. -/
  bus : BusId
  /-- The region that the values were read from. -/
  region : Region
  /-- The order in which they were read. -/
  traversal : Traversal
  deriving DecidableEq

/-- **A chord** on a root. -/
structure Chord where
  /-- The root as it was written. -/
  root : Music.Note
  /-- The kind of chord. -/
  quality : Music.Quality
  deriving DecidableEq

/-- **The objects that the music builtins make**. -/
inductive MusicObject where
  | oscillator (o : Oscillator)
  | waveform (w : Waveform)
  | beat (b : Beat)
  | metronome (bpm : Float)
  | time (value : Float)
  | adsr (e : Envelope)
  | audio (v : Voice)
  | sequence (s : Sequence)
  | chord (c : Chord)
  deriving DecidableEq

/-- **The value of a cell** after evaluation. -/
inductive CellValue where
  /-- A number. -/
  | number (n : Float)
  /-- A text. -/
  | text (s : String)
  /-- Nothing. -/
  | empty
  /-- The formula failed. -/
  | error (e : CellError)
  /-- A musical object. -/
  | music (m : MusicObject)
  deriving DecidableEq, Inhabited

/-! ## Beats -/

/-- Seconds per beat at a tempo. -/
def stepDuration (bpm : Float) : Float :=
  60 / bpm

namespace Sequence

/-- The value under the cursor. -/
def current (s : Sequence) : Option Float :=
  s.values[s.step]?.join

/-- **Moves the cursor one step**, back to the start after the last. -/
def advance (s : Sequence) : Sequence :=
  if s.totalSteps = 0 then s else { s with step := (s.step + 1) % s.totalSteps }

end Sequence

/-! ## Chords -/

namespace Chord

/-- The note numbers of a chord. -/
def numbers (c : Chord) : List Int :=
  c.quality.notesOn c.root.number

/-- The notes of a chord, spelled with sharps. -/
def notes (c : Chord) : List String :=
  c.numbers.map Music.spell

/-- The frequencies of a chord in Hz. -/
def frequencies (c : Chord) : List Float :=
  c.numbers.map Music.frequency

/-- The chord symbol: the root and a suffix for the quality. -/
def symbol (c : Chord) : String :=
  c.root.pitchName ++ c.quality.symbol

end Chord

/-! ## Readings of a value -/

/-- The short name of a kind of musical object. -/
def MusicObject.typeName : MusicObject → String
  | oscillator _ => "oscillator"
  | waveform _ => "waveform"
  | beat _ => "beat"
  | metronome _ => "metronome"
  | time _ => "time"
  | adsr _ => "adsr"
  | audio _ => "audio"
  | sequence _ => "sequence"
  | chord _ => "chord"

namespace CellValue

/-- The short name of a kind of value. -/
def typeName : CellValue → String
  | number _ => "number"
  | text _ => "string"
  | empty => "null"
  | error _ => "error"
  | music m => m.typeName

/-- Whether the value is an error. -/
def isError : CellValue → Bool
  | error _ => true
  | _ => false

/-- **The numeric reading of a value**: a number, or the number that a text
starts with. -/
def coerceNumber : CellValue → Option Float
  | number n => if n.isNaN then none else some n
  | text s => Decimal.parsePrefix? s.toList
  | _ => none

/-- The numeric reading, where zero counts as missing. -/
def nonzeroNumber (v : CellValue) : Option Float :=
  v.coerceNumber.filter fun n => !(n == 0)

/-- **The bus of a value that can trigger**: a beat or a sequence. -/
def triggerBus? : CellValue → Option BusId
  | music (.beat b) => some b.bus
  | music (.sequence s) => some s.bus
  | _ => none

/-- The bus that a value is attached to: its own, or the one a voice is bound
to. -/
def bus? : CellValue → Option BusId
  | music (.audio v) => some v.source
  | v => v.triggerBus?

end CellValue

/-! ## Likeness

Two values are alike if a user would call them equal: numbers are compared as
numbers, so the two zeros are alike and no number is not alike to itself; buses
are alike only if they are the same bus. -/

/-- Likeness of step values. -/
def alikeSteps : List (Option Float) → List (Option Float) → Bool
  | [], [] => true
  | none :: xs, none :: ys => alikeSteps xs ys
  | some x :: xs, some y :: ys => x == y && alikeSteps xs ys
  | _, _ => false

/-- Likeness of oscillators. -/
def Oscillator.alike (a b : Oscillator) : Bool :=
  a.waveType == b.waveType && a.frequency == b.frequency && a.phase == b.phase
    && a.amplitude == b.amplitude

/-- Likeness of chords: their frequencies are compared too. -/
def Chord.alike (a b : Chord) : Bool :=
  decide (a = b) && alikeSteps (a.frequencies.map some) (b.frequencies.map some)

/-- Likeness of musical objects. -/
def MusicObject.alike : MusicObject → MusicObject → Bool
  | oscillator a, oscillator b => a.alike b
  | waveform (.ofOscillator a), waveform (.ofOscillator b) => a.alike b
  | waveform (.ofParameters f a p), waveform (.ofParameters f' a' p') =>
    f == f' && a == a' && p == p'
  | beat a, beat b => a.bpm == b.bpm && a.pattern == b.pattern && a.bus == b.bus
  | metronome a, metronome b => a == b
  | time a, time b => a == b
  | adsr a, adsr b =>
    a.attack == b.attack && a.decay == b.decay && a.sustain == b.sustain
      && a.release == b.release
  | audio a, audio b =>
    a.frequency == b.frequency && a.waveType == b.waveType && a.source == b.source
  | sequence a, sequence b =>
    alikeSteps a.values b.values && a.step == b.step && a.totalSteps == b.totalSteps
      && a.bpm == b.bpm && a.bus == b.bus && decide (a.region = b.region)
      && decide (a.traversal = b.traversal)
  | chord a, chord b => a.alike b
  | _, _ => false

/-- **Likeness of values**. -/
def CellValue.alike : CellValue → CellValue → Bool
  | number a, number b => a == b
  | text a, text b => a == b
  | empty, empty => true
  | error a, error b => decide (a = b)
  | music a, music b => a.alike b
  | _, _ => false

end SoundSheet
