import SoundSheet.Value.Basic

/-!
# Script hosts

A script cell hands its code to a host, together with all that the script may
read: the cell that asks, the values of the cells that the code names, the tempo
and the time. The host answers with a value, with raw texts to be stored later
and with audio events, or with an error message. It is a function of what it is
handed, so the same script in the same scope always answers the same.
-/

namespace SoundSheet.Script

/-- **An audio event** that a script asks for. -/
inductive SoundEvent where
  /-- A note of a frequency and a duration. -/
  | note (frequency duration : Float)
  /-- A tone of a wave type and a frequency. -/
  | tone (waveType : String) (frequency : Float)
  deriving DecidableEq

/-- **A raw text to be stored in a cell** after the pass. -/
structure Write where
  /-- The cell. -/
  cell : Address
  /-- The raw text. -/
  text : String
  deriving DecidableEq, Repr

/-- **All that a script may read**. -/
structure Scope where
  /-- The cell whose formula runs the script. -/
  caller : Address
  /-- The cells that the code names with their values, each once, in the order
  in which they are first named. A cell that could not be read has an error. -/
  values : List (Address × CellValue)
  /-- The tempo in beats per minute. -/
  tempo : Float
  /-- The playback time in seconds. -/
  time : Float

/-- The value of a cell, if the scope has one. -/
def Scope.value? (s : Scope) (cell : Address) : Option CellValue :=
  s.values.lookup cell

/-- **What a script leaves behind**. -/
structure Outcome where
  /-- The value of the script. -/
  value : CellValue
  /-- The raw texts to be stored, in the order in which they were asked for. -/
  writes : List Write
  /-- The audio events, in the order in which they were asked for. -/
  events : List SoundEvent

/-- **A script host**. -/
structure Host where
  /-- Runs code in a scope. -/
  run : List Char → Scope → Except String Outcome

/-- **The hosts of a script language**: one for scripts that stand alone, and
one for each prelude. A prelude that is no script has none, only an error
message. -/
structure Hosts where
  /-- The host without a prelude. -/
  plain : Host
  /-- The host with a prelude. -/
  withPrelude : String → Except String Host

end SoundSheet.Script
