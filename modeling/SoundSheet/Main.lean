import SoundSheet.CommandLine.Environment
import SoundSheet.Script.Language

/-!
# The program

Takes in the files that the arguments name, runs the command line on them,
writes the files that have changed and prints what the run has to say.
-/

namespace SoundSheet.CommandLine

/-- The error number for a directory where a file is needed. -/
def directoryErrorNumber : UInt32 := 21

/-- What is at a place of the disk. -/
def lookAt (p : Place) : IO (Option Entry) := do
  match ← (IO.FS.readBinFile p.toText).toBaseIO with
  | .ok content => return some (.file content)
  | .error (.inappropriateType _ number _) =>
    return if number = directoryErrorNumber then some .directory else none
  | .error _ => return none

/-- The files at some places of the disk. -/
def takeIn (here : Place) (places : List Place) : IO Files := do
  let entries ← places.filterMapM fun p => do return (← lookAt p).map fun entry => (p, entry)
  return ⟨here, entries⟩

/-- The draws of the scripts of a run, by a seed. -/
def drawsFrom (seed : Nat) (cell : Address) : Script.Draws := fun calls =>
  let generator := mkStdGen (seed + (hash (cell.row, cell.col, calls)).toNat)
  Float.ofNat (randNat generator 0 (Nat.pow 2 53 - 1)).1 / Float.ofNat (Nat.pow 2 53)

/-- The whole program, with its exit code. -/
def program (args : List String) : IO UInt32 := do
  let here := placeOf (← IO.currentDir).toString
  let defaults := defaultFunctions (← IO.getEnv "XDG_CONFIG_HOME") (← IO.getEnv "HOME")
  let files ← takeIn here (placesFor here defaults args)
  let draws := drawsFrom (← IO.rand 0 (Nat.pow 2 31 - 1))
  let report := run (Script.hostsDrawing draws) files defaults args
  for (p, content) in changes files report.files do
    IO.FS.writeBinFile p.toText content
  IO.eprint report.err
  IO.print report.out
  return report.code

end SoundSheet.CommandLine

/-- Runs the program. -/
def main (args : List String) : IO UInt32 :=
  SoundSheet.CommandLine.program args
