import SoundSheet.Text.Blank

/-!
# Tokens

A formula is cut into tokens before anything else is made of it. The seven
punctuation characters are tokens of their own, spaces separate, and everything
between double quotes stays together, quotes included. Cutting never fails: a
quote that is not closed takes the rest of the formula into its token.

Other white space than the space does not separate, but it is trimmed off the
ends of a token.
-/

namespace SoundSheet.Formula

open SoundSheet.Text

/-- A piece of a formula. -/
abbrev Token := List Char

/-- The characters that are tokens of their own outside quotes. -/
def isPunctuation (c : Char) : Bool :=
  c == '(' || c == ')' || c == ',' || c == '+' || c == '-' || c == '*' || c == '/'

/-- Puts a word in front of tokens, without the white space around it; a word
of white space alone is no token. -/
def flush (word : List Char) (tokens : List Token) : List Token :=
  if trim word = [] then tokens else trim word :: tokens

/-- **Cuts a text** from a place inside or outside quotes: the rest of the word
in which the place lies, and the tokens after that word. -/
def cut (quoted : Bool) : List Char → List Char × List Token
  | [] => ([], [])
  | c :: rest =>
    if c = '"' then
      let (word, tokens) := cut (!quoted) rest
      (c :: word, tokens)
    else if quoted then
      let (word, tokens) := cut quoted rest
      (c :: word, tokens)
    else if isPunctuation c then
      let (word, tokens) := cut quoted rest
      ([], [c] :: flush word tokens)
    else if c = ' ' then
      let (word, tokens) := cut quoted rest
      ([], flush word tokens)
    else
      let (word, tokens) := cut quoted rest
      (c :: word, tokens)

/-- **The tokens of a formula**. -/
def tokenize (s : List Char) : List Token :=
  let (word, tokens) := cut false s
  flush word tokens

/-- Tokens written one after another with a space between any two. -/
def joinTokens (tokens : List Token) : List Char :=
  List.intercalate [' '] tokens

theorem tokenize_nil : tokenize [] = [] := rfl

end SoundSheet.Formula
