import SoundSheet.Decimal.Fixed
import SoundSheet.Value.Basic

/-!
# Texts of values

A value has two texts: the display that a cell shows, and the text that it
contributes where a formula wants a string. They differ in the numbers, which a
cell rounds and a formula does not, and in the mark in front of an error.
-/

namespace SoundSheet

open SoundSheet.Decimal

/-- **The description of a musical object**. -/
def MusicObject.describe : MusicObject → String
  | oscillator o => "OSC " ++ o.waveType ++ " " ++ display o.frequency ++ "Hz"
  | waveform (.ofOscillator o) =>
    "WAVEFORM " ++ o.waveType ++ " " ++ display o.frequency ++ "Hz"
  | waveform (.ofParameters frequency amplitude _) =>
    "WAVEFORM " ++ display frequency ++ "Hz x" ++ display amplitude
  | beat b => "BEAT " ++ display b.bpm ++ "bpm " ++ b.pattern
  | metronome bpm => "METRONOME " ++ display bpm ++ "bpm"
  | time value => "TIME " ++ display value
  | adsr e =>
    "ADSR " ++ toText e.attack ++ "/" ++ toText e.decay ++ "/" ++ toText e.sustain ++ "/"
      ++ toText e.release
  | audio v => "AUDIO " ++ v.waveType ++ " " ++ display v.frequency ++ "Hz"
  | sequence s =>
    "SEQ " ++ natText s.totalSteps ++ " steps @ " ++ display s.bpm ++ "bpm"
  | chord c => c.symbol ++ " (" ++ String.intercalate " " c.notes ++ ")"

namespace CellValue

/-- **What a cell shows** for its value. -/
def display : CellValue → String
  | number n => Decimal.display n
  | text s => s
  | empty => ""
  | error e => "#ERR: " ++ e.message
  | music m => m.describe

/-- **The text of a value** used as a string argument. -/
def toText : CellValue → String
  | number n => Decimal.toText n
  | text s => s
  | empty => ""
  | error e => e.message
  | music m => m.describe

end CellValue

end SoundSheet
