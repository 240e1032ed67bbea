import SoundSheet.CommandLine.Run

/-!
# What a run needs of its environment

A run is a function of the files that its arguments name. This module says which
places have to be looked at for them, where the default functions are kept, and
which files have to be written afterwards.
-/

namespace SoundSheet.CommandLine

/-! ## Before the run -/

/-- The place that a path from the root denotes. -/
def placeOf (path : String) : Place :=
  (Files.names path.toList).filter (· ≠ "")

/-- The directory of the user's configuration: the one that is set, if it is a
path from the root, and else a directory in the home directory. -/
def configDirectory (config home : Option String) : Option String :=
  match config.filter fun path => path.toList.head? = some '/' with
  | some path => some path
  | none => (home.filter (· ≠ "")).map (· ++ "/.config")

/-- **The path of the default functions**. -/
def defaultFunctions (config home : Option String) : Option String :=
  (configDirectory config home).map (· ++ "/beatsheet/default.rhai")

/-- The paths that options name. -/
def Options.paths (o : Options) : List String :=
  o.file.toList ++ o.functionPaths ++ o.output.toList

/-- The places that names lead through from a place. -/
def placesFrom (p : Place) : List String → List Place
  | [] => []
  | name :: rest =>
    let next :=
      if name = "" ∨ name = "." then p else if name = ".." then p.parent else p ++ [name]
    next :: placesFrom next rest

/-- **The places that a path leads through**, from a working directory. -/
def placesOn (here : Place) (path : String) : List Place :=
  match path.toList with
  | '/' :: rest => placesFrom [] (Files.names rest)
  | path => placesFrom here (Files.names path)

/-- **The places that a run may look at**. -/
def placesFor (here : Place) (defaults : Option String) (args : List String) : List Place :=
  match Options.read args Options.none with
  | .error _ => []
  | .ok o => ((o.paths ++ defaults.toList).flatMap (placesOn here)).eraseDups

/-! ## After the run -/

/-- Whether a file at a place has a content. -/
def holds (files : Files) (p : Place) (content : ByteArray) : Bool :=
  match files.entry? p with
  | some (.file old) => old.data == content.data
  | _ => false

/-- **The files that have changed**, with their new contents. -/
def changes (before after : Files) : List (Place × ByteArray) :=
  after.entries.filterMap fun (p, entry) =>
    match entry with
    | .directory => none
    | .file content => if holds before p content then none else some (p, content)

end SoundSheet.CommandLine
