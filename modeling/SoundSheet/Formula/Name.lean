/-!
# The builtin functions

A formula that starts with the name of a builtin is a call of it; any other
formula is arithmetic. Names are matched in any letter case.
-/

namespace SoundSheet

/-- **The builtin functions of formulas**. -/
inductive Builtin where
  | waveform
  | oscillator
  | beat
  | metronome
  | time
  | concat
  | adsr
  | audio
  | sequence
  | chord
  | script
  deriving DecidableEq, Repr

namespace Builtin

/-- All builtins in the order in which they are listed to the user. -/
def all : List Builtin :=
  [waveform, oscillator, beat, metronome, time, concat, adsr, audio, sequence, chord, script]

/-- The name of a builtin. -/
def name : Builtin → String
  | waveform => "WAVEFORM"
  | oscillator => "OSC"
  | beat => "BEAT"
  | metronome => "METRONOME"
  | time => "TIME"
  | concat => "CONCAT"
  | adsr => "ADSR"
  | audio => "AUDIO"
  | sequence => "SEQ"
  | chord => "CHORD"
  | script => "JS"

/-- Other names of a builtin. -/
def aliases : Builtin → List String
  | oscillator => ["OSCILLATOR"]
  | _ => []

/-- How a builtin is called. -/
def usage : Builtin → String
  | waveform => "WAVEFORM(oscillator) | WAVEFORM(freq, amplitude, [phase])"
  | oscillator => "OSC(waveType, freq, phase, amplitude)"
  | beat => "BEAT(bpm, pattern)"
  | metronome => "METRONOME([bpm])"
  | time => "TIME()"
  | concat => "CONCAT(separator, value, ...)"
  | adsr => "ADSR(attack, decay, sustain, release)"
  | audio => "AUDIO(frequency, trigger, [waveType])"
  | sequence => "SEQ(range, bpm, [mode])"
  | chord => "CHORD(root, [quality])"
  | script => "JS(code)"

/-- What a call with a wrong number of arguments is told. -/
def arityMessage : Builtin → String
  | waveform => "Waveform requires 1, 2, or 3 arguments"
  | oscillator => "Oscillator requires 4 arguments"
  | beat => "Beat requires 2 arguments"
  | metronome => "Metronome requires zero or one argument"
  | time => "Time takes no arguments"
  | concat => "Concat requires at least 2 arguments"
  | adsr => "ADSR requires 4 arguments"
  | audio => "Audio requires 2 or 3 arguments (frequency, trigger, [waveType])"
  | sequence => "Sequence requires 2 or 3 arguments: range, bpm, [mode]"
  | chord => "CHORD requires root note and optional quality (e.g., CHORD(\"C\", \"maj7\"))"
  | script => "JS requires a script"

/-- Whether a text is one of the names of a builtin, in any letter case. -/
def isNamed (b : Builtin) (s : List Char) : Bool :=
  (b.name :: b.aliases).any fun name => name.toList == s.map Char.toUpper

/-- **The builtin with a name**, in any letter case. -/
def find? (s : List Char) : Option Builtin :=
  all.find? fun b => b.isNamed s

end Builtin

end SoundSheet
