/-!
# Options of the command line

The arguments are read from left to right, and the first one that is refused
ends the reading; so does a request for help. An option that takes a value takes
the next argument, whatever it looks like. Of an option that is given twice the
last value holds, but files of functions add up.
-/

namespace SoundSheet.CommandLine

/-- **What the arguments ask for**. -/
structure Options where
  /-- The sheet file to open. -/
  file : Option String
  /-- The files of functions to load, in order. -/
  functionPaths : List String
  /-- The file to export the table to. -/
  output : Option String
  /-- The formula to evaluate. -/
  command : Option String
  /-- The tempo to set, not read yet. -/
  tempo : Option String
  /-- Whether the default functions are left out. -/
  withoutDefaults : Bool
  deriving DecidableEq, Repr

/-- The options without any argument. -/
def Options.none : Options :=
  ⟨.none, [], .none, .none, .none, false⟩

/-- **The options that take a value**. -/
inductive ValueOption where
  /-- A formula to evaluate. -/
  | command
  /-- A file of functions. -/
  | functions
  /-- A file to export to. -/
  | output
  /-- A tempo. -/
  | tempo
  deriving DecidableEq, Repr

/-- What kind of value an option takes. -/
def ValueOption.what : ValueOption → String
  | command => "a formula"
  | functions => "a file path"
  | output => "a file path"
  | tempo => "a value"

/-- The options with a value in place. -/
def ValueOption.put : ValueOption → String → Options → Options
  | command, value, o => { o with command := some value }
  | functions, value, o => { o with functionPaths := o.functionPaths ++ [value] }
  | output, value, o => { o with output := some value }
  | tempo, value, o => { o with tempo := some value }

/-- **The kinds of arguments**. -/
inductive Argument where
  /-- A request for help. -/
  | help
  /-- An option that takes a value. -/
  | valued (option : ValueOption)
  /-- The option that leaves the default functions out. -/
  | noDefaults
  /-- An option that does not exist. -/
  | unknown
  /-- A path. -/
  | path
  deriving DecidableEq, Repr

/-- The kind of an argument. -/
def Argument.ofText : String → Argument
  | "-h" => help
  | "--help" => help
  | "-c" => valued .command
  | "--command" => valued .command
  | "-f" => valued .functions
  | "--functions" => valued .functions
  | "-o" => valued .output
  | "--output" => valued .output
  | "--tempo" => valued .tempo
  | "--no-default-functions" => noDefaults
  | text => if text.toList.head? = some '-' then unknown else path

/-- **Why the reading of the arguments ends early**. -/
inductive Stop where
  /-- Help is asked for. -/
  | help
  /-- An option has no value behind it. -/
  | missingValue (text : String) (option : ValueOption)
  /-- An option does not exist. -/
  | unknownOption (text : String)
  /-- A second path. -/
  | unexpectedPath (text : String)
  deriving DecidableEq, Repr

/-- **Reads arguments** on top of options. -/
def Options.read : List String → Options → Except Stop Options
  | [], o => .ok o
  | text :: rest, o =>
    match Argument.ofText text, rest with
    | .help, _ => .error .help
    | .valued option, [] => .error (.missingValue text option)
    | .valued option, value :: rest => read rest (option.put value o)
    | .noDefaults, rest => read rest { o with withoutDefaults := true }
    | .unknown, _ => .error (.unknownOption text)
    | .path, rest =>
      match o.file with
      | .none => read rest { o with file := some text }
      | some _ => .error (.unexpectedPath text)

/-- The lines that explain the arguments. -/
def usage : List String :=
  ["Usage: beatsheet [OPTIONS] [FILE]",
    "",
    "Arguments:",
    "  [FILE]                    Sheet file to open (.json)",
    "",
    "Options:",
    "  -c, --command <FORMULA>   Evaluate a formula and print the result",
    "  -f, --functions <FILE>    Load custom Rhai functions (can be repeated)",
    "  -o, --output <FILE>       Export to markdown file",
    "  --tempo <BPM>             Override the global tempo",
    "  --no-default-functions    Do not auto-load default.rhai from config dir",
    "  -h, --help                Print help"]

namespace Stop

/-- The lines that are printed. -/
def lines : Stop → List String
  | help => usage
  | missingValue text option => ["Error: " ++ text ++ " requires " ++ option.what]
  | unknownOption text => ("Error: Unknown option: " ++ text) :: usage
  | unexpectedPath text => ("Error: Unexpected argument: " ++ text) :: usage

/-- The exit code. -/
def code : Stop → UInt32
  | help => 0
  | _ => 1

end Stop

end SoundSheet.CommandLine
