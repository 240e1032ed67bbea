import SoundSheet.Formula.Token

/-!
# The arguments of a call

After the name of a builtin stand its arguments in parentheses, separated by
commas. A comma inside a nested pair of parentheses belongs to the nested call.
An argument is handed on as one text, its tokens joined by single spaces.

The first and the last token are taken to be the parentheses of the call without
a look at them. An empty argument counts, except at the very end.
-/

namespace SoundSheet.Formula

open SoundSheet.Text

/-- The nesting after a token. -/
def nestingAfter (depth : Int) (token : Token) : Int :=
  if token = ['('] then depth + 1 else if token = [')'] then depth - 1 else depth

/-- **Splits tokens at the commas outside parentheses**, from a place with this
nesting: the run of tokens up to the next such comma, and the runs after it. -/
def splitRuns (depth : Int) : List Token → List Token × List (List Token)
  | [] => ([], [])
  | token :: rest =>
    let depth := nestingAfter depth token
    let (run, runs) := splitRuns depth rest
    if token = [','] ∧ depth = 0 then ([], run :: runs) else (token :: run, runs)

/-- The runs without the last one if that is empty. -/
def dropEmptyLast : List (List Token) → List (List Token)
  | [] => []
  | [run] => if run = [] then [] else [run]
  | run :: runs => run :: dropEmptyLast runs

/-- The tokens between the first and the last. -/
def inner (tokens : List Token) : List Token :=
  tokens.tail.dropLast

/-- **The arguments of a call**, from its tokens with the parentheses. -/
def argumentTexts (tokens : List Token) : List (List Char) :=
  let (run, runs) := splitRuns 0 (inner tokens)
  (dropEmptyLast (run :: runs)).map fun run => trim (joinTokens run)

/-- The tokens of a call other than parentheses and commas. -/
def plainTokens (tokens : List Token) : List Token :=
  tokens.filter fun token => !(token == ['('] || token == [')'] || token == [','])

theorem splitRuns_nil (depth : Int) : splitRuns depth [] = ([], []) := rfl

end SoundSheet.Formula
