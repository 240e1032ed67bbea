import SoundSheet.Decimal.Style

/-!
# Notes

A note is a letter with an optional sharp or flat and an optional octave digit.
Note numbers count semitones: `C4` is 60 and `A4`, which sounds at 440 Hz, is
69. A number is always spelled with a sharp, never with a flat.
-/

namespace SoundSheet.Music

/-- A sharp or a flat. -/
inductive Accidental where
  /-- A semitone higher. -/
  | sharp
  /-- A semitone lower. -/
  | flat
  deriving DecidableEq, Repr

namespace Accidental

/-- The sign after the letter. -/
def sign : Accidental → Char
  | sharp => '#'
  | flat => 'b'

/-- How many semitones the accidental adds. -/
def shift : Accidental → Int
  | sharp => 1
  | flat => -1

end Accidental

/-- **A written note**. -/
structure Note where
  /-- The letter, from `A` to `G`. -/
  letter : Char
  /-- The semitones of the letter above the `C` below it. -/
  natural : Nat
  /-- The accidental, if there is one. -/
  accidental : Option Accidental
  /-- The octave. -/
  octave : Nat
  deriving DecidableEq, Repr

/-- The octave of a note that is written without one. -/
def defaultOctave : Nat := 4

/-- The semitones of a letter above the `C` below it. -/
def naturalOf? : Char → Option Nat
  | 'C' => some 0
  | 'D' => some 2
  | 'E' => some 4
  | 'F' => some 5
  | 'G' => some 7
  | 'A' => some 9
  | 'B' => some 11
  | _ => none

/-- An optional accidental, and what follows it. -/
def takeAccidental : List Char → Option Accidental × List Char
  | '#' :: rest => (some .sharp, rest)
  | 'b' :: rest => (some .flat, rest)
  | rest => (none, rest)

/-- The octave that the end of a note denotes: nothing, or one digit. -/
def octaveOf? : List Char → Option Nat
  | [] => some defaultOctave
  | [c] => if c.isDigit then some (c.toNat - '0'.toNat) else none
  | _ => none

namespace Note

/-- **The note that a text denotes**. -/
def parse? : List Char → Option Note
  | [] => none
  | letter :: rest =>
    let (accidental, rest) := takeAccidental rest
    match naturalOf? letter, octaveOf? rest with
    | some natural, some octave => some ⟨letter, natural, accidental, octave⟩
    | _, _ => none

/-- The number of a note. -/
def number (n : Note) : Int :=
  (n.octave + 1) * 12 + n.natural + (n.accidental.elim 0 Accidental.shift)

/-- The pitch class of a note as it was written, without the octave. -/
def pitchName (n : Note) : String :=
  String.ofList (n.letter :: (n.accidental.map Accidental.sign).toList)

end Note

/-! ## Note numbers -/

/-- The sharp spelling of a pitch class, in semitones above `C`. -/
def pitchClass : Nat → String
  | 0 => "C"
  | 1 => "C#"
  | 2 => "D"
  | 3 => "D#"
  | 4 => "E"
  | 5 => "F"
  | 6 => "F#"
  | 7 => "G"
  | 8 => "G#"
  | 9 => "A"
  | 10 => "A#"
  | _ => "B"

/-- **The sharp spelling of a note number**, with its octave. -/
def spell (n : Int) : String :=
  pitchClass (n % 12).toNat ++ String.ofList (Decimal.ofInt (n / 12 - 1))

/-- **The frequency of a note number** in equal temperament, in Hz. -/
def frequency (n : Int) : Float :=
  440 * Float.pow 2 (Float.ofInt (n - 69) / 12)

end SoundSheet.Music
