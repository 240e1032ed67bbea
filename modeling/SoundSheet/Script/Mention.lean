import SoundSheet.Address.Basic
import SoundSheet.Text.Blank
import SoundSheet.Text.Word

/-!
# The cells that code names

Before a script runs, the cells that it reads are looked up. They are found in
the text of the code: every `getValue("B2")` with a literal address, where no
word character stands before the name. White space may stand inside the
parentheses around the quoted address. Whether such a piece of text is a call,
a comment or part of a string makes no difference.
-/

namespace SoundSheet.Script

open SoundSheet.Text

/-- The rest of a text behind a given beginning. -/
def after? : List Char → List Char → Option (List Char)
  | [], s => some s
  | _ :: _, [] => none
  | c :: beginning, d :: s => if c = d then after? beginning s else none

/-- The quoted address at the start of a text, and what follows the quote. -/
def quotedAddress? (s : List Char) : Option (List Char × List Char) :=
  let letters := s.takeWhile Char.isUpper
  let rest := s.dropWhile Char.isUpper
  let digits := rest.takeWhile Char.isDigit
  match rest.dropWhile Char.isDigit with
  | '"' :: rest => if letters ≠ [] ∧ digits ≠ [] then some (letters ++ digits, rest) else none
  | _ => none

/-- The address that a text asks for if it starts with a literal lookup. -/
def mentionAt? (s : List Char) : Option (List Char) :=
  match (after? "getValue(".toList s).map trimStart with
  | some ('"' :: rest) =>
    match quotedAddress? rest with
    | some (address, rest) =>
      match trimStart rest with
      | ')' :: _ => some address
      | _ => none
    | none => none
  | _ => none

/-- The addresses that a text asks for, where `inWord` tells whether a word
character stands before the text. -/
def mentionsFrom (inWord : Bool) : List Char → List (List Char)
  | [] => []
  | c :: rest =>
    let later := mentionsFrom (isWord c) rest
    match inWord, mentionAt? (c :: rest) with
    | false, some address => address :: later
    | _, _ => later

/-- The members of a list without repetitions, in the order of first
occurrence. -/
def firstOccurrences : List Address → List Address
  | [] => []
  | a :: rest => a :: (firstOccurrences rest).filter (· ≠ a)

/-- **The cells that code names**, each once, in the order in which they are
first named. -/
def mentions (code : List Char) : List Address :=
  firstOccurrences ((mentionsFrom false code).filterMap Address.parse?)

end SoundSheet.Script
