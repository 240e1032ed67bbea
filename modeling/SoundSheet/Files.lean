import SoundSheet.Decimal.Style

/-!
# Files

The files that sheets are kept in form a tree. A place in it is the list of the
names on the way from the root. A path is a text that leads to a place: from the
root if it starts with a slash, else from the working directory. One path leads
to one place, but many lead to the same: `a`, `./a` and `b/../a` do, if `b` is a
directory.

Reading takes a whole file, and writing puts a whole file in place of what was
there. Nothing ever makes a directory.

Every file of the tree can be read and every place can be written to that is no
directory and lies in one. Permissions, disks that are full and devices that
fail are left out: an operation on files fails for what the tree and the content
are (`FileError`), and for nothing else.
-/

namespace SoundSheet

/-- **A place in the tree of files**: the names on the way from the root. -/
abbrev Place := List String

namespace Place

/-- The path from the root to a place. -/
def toText (p : Place) : String :=
  "/" ++ String.intercalate "/" p

/-- The directory that a place is in; the root is in itself. -/
def parent (p : Place) : Place :=
  p.dropLast

end Place

/-- **What is at a place**. -/
inductive Entry where
  /-- A directory. -/
  | directory
  /-- A file with its content. -/
  | file (content : ByteArray)

/-- **Why a file cannot be read or written**. -/
inductive FileError where
  /-- There is nothing at the place. -/
  | notFound
  /-- A file stands where the path needs a directory. -/
  | notADirectory
  /-- A directory stands where a file is needed. -/
  | isADirectory
  /-- The content is no text. -/
  | notText
  /-- A file of functions has too many bytes. -/
  | tooLarge (place : Place) (size : Nat)
  deriving DecidableEq

/-- The size limit of a file of functions in bytes. -/
def maxFunctionBytes : Nat := 1048576

/-- **The wording of a file error**. -/
def FileError.message : FileError → String
  | notFound => "No such file or directory (os error 2)"
  | notADirectory => "Not a directory (os error 20)"
  | isADirectory => "Is a directory (os error 21)"
  | notText => "stream did not contain valid UTF-8"
  | tooLarge place size =>
    "Refusing to read " ++ place.toText ++ ": functions file too large (" ++ Decimal.natText size
      ++ " bytes, max " ++ Decimal.natText maxFunctionBytes ++ ")"

/-- **A tree of files**. -/
structure Files where
  /-- The working directory. It is there, and so is every directory above it. -/
  here : Place
  /-- What is at the other places; the first entry for a place holds. -/
  entries : List (Place × Entry)

namespace Files

/-! ## Places -/

/-- **What is at a place**, if anything is. -/
def entry? (files : Files) (p : Place) : Option Entry :=
  if p.isPrefixOf files.here then some .directory else files.entries.lookup p

/-- Passes only where a directory is. -/
def requireDirectory (files : Files) (p : Place) : Except FileError Unit :=
  match files.entry? p with
  | some .directory => .ok ()
  | some (.file _) => .error .notADirectory
  | none => .error .notFound

/-- The place that names lead to from a place. Every name needs a directory that
it is looked up in, even one that stays where it is. What is at the last place
does not matter. -/
def follow (files : Files) (p : Place) : List String → Except FileError Place
  | [] => .ok p
  | name :: rest => do
    files.requireDirectory p
    if name = "" ∨ name = "." then files.follow p rest
    else if name = ".." then files.follow p.parent rest
    else files.follow (p ++ [name]) rest

/-- The names that a path is made of. -/
def names (path : List Char) : List String :=
  (splitSlashes path).map String.ofList
where
  /-- The parts of a text between slashes. -/
  splitSlashes : List Char → List (List Char)
    | [] => [[]]
    | c :: rest =>
      if c = '/' then [] :: splitSlashes rest
      else
        match splitSlashes rest with
        | [] => [[c]]
        | part :: parts => (c :: part) :: parts

/-- **The place that a path leads to**, whether or not there is anything. -/
def locate (files : Files) (path : String) : Except FileError Place :=
  match path.toList with
  | [] => .error .notFound
  | '/' :: rest => files.follow [] (names rest)
  | path => files.follow files.here (names path)

/-! ## Reading -/

/-- **The place of what is there already**. -/
def resolve (files : Files) (path : String) : Except FileError Place := do
  let p ← files.locate path
  match files.entry? p with
  | some _ => return p
  | none => throw .notFound

/-- The content of the file at a place. -/
def readPlace (files : Files) (p : Place) : Except FileError ByteArray :=
  match files.entry? p with
  | some (.file content) => .ok content
  | some .directory => .error .isADirectory
  | none => .error .notFound

/-- The text in a content. -/
def decode (content : ByteArray) : Except FileError String :=
  match String.fromUTF8? content with
  | some text => .ok text
  | none => .error .notText

/-- **The text of a file**. -/
def readText (files : Files) (path : String) : Except FileError String := do
  let p ← files.resolve path
  let content ← files.readPlace p
  decode content

/-- **The text of a file of functions**, which must not be too large. -/
def readFunctions (files : Files) (p : Place) : Except FileError String := do
  let content ← files.readPlace p
  if maxFunctionBytes < content.size then throw (.tooLarge p content.size)
  decode content

/-- Whether there is a file or a directory. -/
def has (files : Files) (path : String) : Bool :=
  (files.resolve path).isOk

/-- Whether there is a file. -/
def hasFile (files : Files) (path : String) : Bool :=
  match files.resolve path with
  | .ok p => (files.readPlace p).isOk
  | .error _ => false

/-! ## Writing -/

/-- Puts a file at a place. -/
def put (files : Files) (p : Place) (content : ByteArray) : Files :=
  { files with entries := (p, .file content) :: files.entries.filter (·.1 ≠ p) }

/-- A path without the slashes it ends with, apart from the root. -/
def withoutSlashes (path : List Char) : List Char :=
  match (path.reverse.dropWhile (· = '/')).reverse with
  | [] => path.take 1
  | way => way

/-- **Writes a text into a file**, new or not. A path that ends with a slash
asks for a directory, whether there is one or not. -/
def writeText (files : Files) (path : String) (text : String) : Except FileError Files := do
  let way := withoutSlashes path.toList
  let p ← files.locate (String.ofList way)
  if way ≠ path.toList then throw .isADirectory
  match files.entry? p with
  | some .directory => throw .isADirectory
  | _ => return files.put p text.toUTF8

/-! ## What was written is there -/

/-- The text that was written into a file is the text that is read from it. -/
theorem decode_toUTF8 (text : String) : decode text.toUTF8 = .ok text := by
  have h : String.fromUTF8? text.toUTF8 = some text := by
    unfold String.fromUTF8?
    split
    · rfl
    · next h => exact absurd text.isValidUTF8 (by simpa using h)
  rw [decode, h]

end Files

end SoundSheet
