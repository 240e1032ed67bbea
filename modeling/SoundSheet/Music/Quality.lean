/-!
# Chord qualities

Eleven kinds of chord, each with the name that formulas use for it, the notes
above the root in semitones, the suffix of the chord symbol and a display name.
-/

namespace SoundSheet.Music

/-- **The kinds of chord**. -/
inductive Quality where
  | major
  | minor
  | diminished
  | augmented
  | majorSeventh
  | minorSeventh
  | dominantSeventh
  | diminishedSeventh
  | halfDiminishedSeventh
  | suspendedSecond
  | suspendedFourth
  deriving DecidableEq, Repr

namespace Quality

/-- All qualities in the order in which they are listed to the user. -/
def all : List Quality :=
  [major, minor, diminished, augmented, majorSeventh, minorSeventh, dominantSeventh,
    diminishedSeventh, halfDiminishedSeventh, suspendedSecond, suspendedFourth]

/-- The name that formulas use. -/
def key : Quality → String
  | major => "maj"
  | minor => "min"
  | diminished => "dim"
  | augmented => "aug"
  | majorSeventh => "maj7"
  | minorSeventh => "min7"
  | dominantSeventh => "7"
  | diminishedSeventh => "dim7"
  | halfDiminishedSeventh => "half-dim7"
  | suspendedSecond => "sus2"
  | suspendedFourth => "sus4"

/-- The notes in semitones above the root. -/
def intervals : Quality → List Int
  | major => [0, 4, 7]
  | minor => [0, 3, 7]
  | diminished => [0, 3, 6]
  | augmented => [0, 4, 8]
  | majorSeventh => [0, 4, 7, 11]
  | minorSeventh => [0, 3, 7, 10]
  | dominantSeventh => [0, 4, 7, 10]
  | diminishedSeventh => [0, 3, 6, 9]
  | halfDiminishedSeventh => [0, 3, 6, 10]
  | suspendedSecond => [0, 2, 7]
  | suspendedFourth => [0, 5, 7]

/-- The suffix that a chord symbol puts after the root. -/
def symbol : Quality → String
  | major => ""
  | minor => "m"
  | diminished => "dim"
  | augmented => "aug"
  | majorSeventh => "maj7"
  | minorSeventh => "m7"
  | dominantSeventh => "7"
  | diminishedSeventh => "dim7"
  | halfDiminishedSeventh => "ø7"
  | suspendedSecond => "sus2"
  | suspendedFourth => "sus4"

/-- The display name. -/
def title : Quality → String
  | major => "Major"
  | minor => "Minor"
  | diminished => "Diminished"
  | augmented => "Augmented"
  | majorSeventh => "Major Seventh"
  | minorSeventh => "Minor Seventh"
  | dominantSeventh => "Dominant Seventh"
  | diminishedSeventh => "Diminished Seventh"
  | halfDiminishedSeventh => "Half-Diminished Seventh"
  | suspendedSecond => "Suspended Second"
  | suspendedFourth => "Suspended Fourth"

/-- **The quality with a name**, exactly as formulas write it. -/
def parse? (s : String) : Option Quality :=
  all.find? fun q => q.key == s

/-- The note numbers of a chord on a root. -/
def notesOn (q : Quality) (root : Int) : List Int :=
  q.intervals.map (root + ·)

/-- Every quality is found under its own name. -/
theorem parse?_key (q : Quality) : parse? q.key = some q := by
  cases q <;> decide

end Quality

end SoundSheet.Music
