import SoundSheet.Decimal.Numeral
import SoundSheet.Decimal.Style
import SoundSheet.Text.Blank

/-!
# Lexemes of the script language

Code is cut into names, numbers, quoted texts and symbols, each with the place
where it begins. Lines and columns count from one, in characters. Cutting never
fails by itself: a text that is not closed, or a character that starts nothing,
becomes a lexeme that no tree accepts, so that of two errors the first one in
the code is reported.
-/

namespace SoundSheet.Script

open SoundSheet.Text SoundSheet.Decimal

/-- **A place in code**. -/
structure Position where
  /-- The line, from one. -/
  line : Nat
  /-- The column, from one. -/
  column : Nat
  deriving DecidableEq, Repr

namespace Position

/-- The first character of the code. -/
def start : Position := ⟨1, 1⟩

/-- The place behind a character. -/
def advance (p : Position) (c : Char) : Position :=
  if c = '\n' then ⟨p.line + 1, 1⟩ else ⟨p.line, p.column + 1⟩

/-- The place behind some characters. -/
def advanceAll (p : Position) (s : List Char) : Position :=
  s.foldl advance p

/-- A place as it is shown behind a message. -/
def describe (p : Position) : String :=
  " (line " ++ natText p.line ++ ", position " ++ natText p.column ++ ")"

end Position

/-- **The pieces of code**. -/
inductive Lexeme where
  /-- A name or a keyword. -/
  | name (s : String)
  /-- A whole number. -/
  | int (n : Nat)
  /-- A number with a point or an exponent. -/
  | float (x : Float)
  /-- A quoted text. -/
  | text (s : String)
  /-- An operator or a punctuation mark. -/
  | symbol (s : String)
  /-- A quoted text that is not closed. -/
  | openText
  /-- A quoted text with an unknown escape. -/
  | badEscape (c : Char)
  /-- A character that starts nothing. -/
  | stray (c : Char)
  deriving DecidableEq

/-- **A lexeme and where it begins**. -/
structure Item where
  /-- The lexeme. -/
  lexeme : Lexeme
  /-- The place of its first character. -/
  position : Position
  deriving DecidableEq

/-- The symbols, longer ones before those that they begin with. -/
def symbols : List String :=
  ["..=", "()", "#\x7b", "..", "+=", "-=", "*=", "/=", "%=", "==", "!=", "<=", ">=", "&&", "||",
    "(", ")", "[", "]", "\x7b", "\x7d", ",", ";", ":", ".", "+", "-", "*", "/", "%", "<", ">",
    "=", "!"]

/-- Whether a character can start a name. -/
def startsName (c : Char) : Bool :=
  c.isAlpha || c == '_'

/-- Whether a character can stand in a name. -/
def inName (c : Char) : Bool :=
  c.isAlphanum || c == '_'

/-- Whether a character can stand among the digits of a number. -/
def inNumber (c : Char) : Bool :=
  c.isDigit || c == '_'

/-- The largest whole number of the script language. -/
def maxInt : Int := Int.ofNat (Nat.pow 2 63) - 1

/-- The least whole number of the script language. -/
def minInt : Int := -Int.ofNat (Nat.pow 2 63)

/-- The fraction of a number, if there is one: a point with digits behind it.
The digits may be missing before anything but a name and another point. -/
def takeFraction : List Char → Option (List Char) × List Char
  | '.' :: c :: rest =>
    if c.isDigit then (some ((c :: rest).takeWhile inNumber), (c :: rest).dropWhile inNumber)
    else if startsName c || c == '.' then (none, '.' :: c :: rest)
    else (some [], c :: rest)
  | s => (none, s)

/-- **The number that a text starts with**, and what follows it. -/
def takeNumber (s : List Char) : Lexeme × List Char :=
  let digits (s : List Char) := s.filter (· ≠ '_')
  let whole := digits (s.takeWhile inNumber)
  let (fraction, rest) := takeFraction (s.dropWhile inNumber)
  let (powerNegative, power, rest) := takePower Char.isDigit rest
  let value := digitsValue whole
  if fraction.isNone && power.isEmpty && value ≤ maxInt then (.int value, rest)
  else
    let fraction := digits (fraction.getD [])
    (.float (Numeral.mk false whole fraction powerNegative power).toFloat, rest)

/-- The character that a letter behind a backslash stands for. -/
def escape? : Char → Option Char
  | 'n' => some '\n'
  | 't' => some '\t'
  | 'r' => some '\r'
  | '"' => some '"'
  | '\'' => some '\''
  | '\\' => some '\\'
  | _ => none

/-- The characters of the quoted text that a text starts with, behind the
opening quote, and what follows it. A text ends on the line where it begins. -/
def takeQuoted : List Char → Except Lexeme (List Char × List Char)
  | [] => .error .openText
  | '"' :: rest => .ok ([], rest)
  | '\\' :: c :: rest =>
    match escape? c with
    | some c => (takeQuoted rest).map fun (s, rest) => (c :: s, rest)
    | none => .error (.badEscape c)
  | c :: rest =>
    if c = '\n' then .error .openText
    else (takeQuoted rest).map fun (s, rest) => (c :: s, rest)

/-- **The quoted text that a text starts with**, behind the opening quote, and
what follows it. Nothing follows a text that is not well formed. -/
def takeText (s : List Char) : Lexeme × List Char :=
  match takeQuoted s with
  | .ok (s, rest) => (.text (String.ofList s), rest)
  | .error lexeme => (lexeme, [])

/-- The symbol that a text starts with, and what follows it. -/
def takeSymbol? (s : List Char) : Option (Lexeme × List Char) :=
  (symbols.find? fun symbol => symbol.toList.isPrefixOf s).map fun symbol =>
    (.symbol symbol, s.drop symbol.length)

/-- The lexeme that a text starts with, and what follows it. -/
def takeLexeme (c : Char) (rest : List Char) : Lexeme × List Char :=
  if startsName c then
    (.name (String.ofList ((c :: rest).takeWhile inName)), (c :: rest).dropWhile inName)
  else if c.isDigit then takeNumber (c :: rest)
  else if c = '"' then takeText rest
  else (takeSymbol? (c :: rest)).getD (.stray c, rest)

/-- Whether a text starts with a comment, which runs to the end of its line. -/
def startsComment : List Char → Bool
  | '/' :: '/' :: _ => true
  | _ => false

/-- The lexemes of a text that begins at a place, with room for so many steps;
and the place behind it. -/
def lexWithin : Nat → Position → List Char → List Item × Position
  | 0, p, _ => ([], p)
  | _ + 1, p, [] => ([], p)
  | room + 1, p, c :: rest =>
    if isBlank c then lexWithin room (p.advance c) rest
    else if startsComment (c :: rest) then
      let comment := (c :: rest).takeWhile (· ≠ '\n')
      lexWithin room (p.advanceAll comment) ((c :: rest).drop comment.length)
    else
      let (lexeme, after) := takeLexeme c rest
      let taken := (c :: rest).take (rest.length + 1 - after.length)
      let (items, stop) := lexWithin room (p.advanceAll taken) after
      (⟨lexeme, p⟩ :: items, stop)

/-- **The lexemes of code**, and the place behind its last character. Each step
takes a character at least. -/
def lex (code : List Char) : List Item × Position :=
  lexWithin (code.length + 1) .start code

end SoundSheet.Script
