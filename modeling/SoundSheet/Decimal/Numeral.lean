import SoundSheet.Text.Blank
import SoundSheet.Text.Digit

/-!
# Reading decimal numerals

A numeral is an optional sign, digits with an optional point, and an optional
exponent. A text can be read as a numeral as a whole, or for the longest numeral
that it starts with after white space. The value is the double nearest to the
decimal, whatever the number of digits.

The scan takes the notion of a digit as a parameter: a prefix runs over the
digits of every script, while a value needs ASCII digits only.
-/

namespace SoundSheet.Decimal

open SoundSheet.Text

/-- **A decimal numeral in its parts**. -/
structure Numeral where
  /-- Whether a minus sign stands in front. -/
  negative : Bool
  /-- The digits before the point. -/
  whole : List Char
  /-- The digits after the point. -/
  fraction : List Char
  /-- Whether the exponent has a minus sign. -/
  powerNegative : Bool
  /-- The digits of the exponent, if there is one. -/
  power : List Char
  deriving DecidableEq, Repr

/-- An optional sign, and whether it is a minus. -/
def takeSign : List Char → Bool × List Char
  | '-' :: rest => (true, rest)
  | '+' :: rest => (false, rest)
  | rest => (false, rest)

/-- The longest run of digits, and what follows it. -/
def takeDigits (digit : Char → Bool) (s : List Char) : List Char × List Char :=
  (s.takeWhile digit, s.dropWhile digit)

/-- The digits around an optional point. A point without digits on either side
is no number. -/
def takeMantissa (digit : Char → Bool) (s : List Char) :
    Option (List Char × List Char × List Char) :=
  match takeDigits digit s with
  | ([], '.' :: rest) =>
    match takeDigits digit rest with
    | ([], _) => none
    | (fraction, rest) => some ([], fraction, rest)
  | ([], _) => none
  | (whole, '.' :: rest) =>
    let (fraction, rest) := takeDigits digit rest
    some (whole, fraction, rest)
  | (whole, rest) => some (whole, [], rest)

/-- An optional exponent. An exponent mark without digits is left alone. -/
def takePower (digit : Char → Bool) (s : List Char) : Bool × List Char × List Char :=
  match s with
  | [] => (false, [], [])
  | c :: rest =>
    if c = 'e' ∨ c = 'E' then
      let (negative, rest) := takeSign rest
      match takeDigits digit rest with
      | ([], _) => (false, [], s)
      | (power, rest) => (negative, power, rest)
    else (false, [], s)

/-- **The longest numeral that a text starts with**, and the rest of the
text. -/
def Numeral.scan (digit : Char → Bool) (s : List Char) : Option (Numeral × List Char) :=
  let (negative, s) := takeSign s
  (takeMantissa digit s).map fun (whole, fraction, s) =>
    let (powerNegative, power, s) := takePower digit s
    (⟨negative, whole, fraction, powerNegative, power⟩, s)

/-- The value of a digit string in base ten. -/
def digitsValue (digits : List Char) : Nat :=
  digits.foldl (fun n c => 10 * n + (c.toNat - '0'.toNat)) 0

namespace Numeral

/-- Whether all digits are ASCII digits. -/
def isAscii (n : Numeral) : Bool :=
  n.whole.all Char.isDigit && n.fraction.all Char.isDigit && n.power.all Char.isDigit

/-- All digits of the mantissa as one number. -/
def significand (n : Numeral) : Nat :=
  digitsValue (n.whole ++ n.fraction)

/-- The power of ten of the last digit of the mantissa. -/
def scale (n : Numeral) : Int :=
  let power : Int := digitsValue n.power
  (if n.powerNegative then -power else power) - n.fraction.length

end Numeral

/-- **The double nearest to a decimal**. Beyond the range of doubles the exact
power of ten no longer matters, and is not computed. -/
def nearestFloat (significand : Nat) (scale : Int) : Float :=
  let top := ((Nat.toDigits 10 significand).length : Int) + scale
  if significand = 0 then 0
  else if 400 < top then 1 / 0
  else if top < -400 then 0
  else Float.ofScientific significand (decide (scale < 0)) scale.natAbs

/-- The value of a numeral. -/
def Numeral.toFloat (n : Numeral) : Float :=
  let magnitude := nearestFloat n.significand n.scale
  if n.negative then -magnitude else magnitude

/-- The names of the numbers that are no decimals, in any letter case. -/
def named? (s : List Char) : Option Float :=
  match s.map Char.toLower with
  | ['n', 'a', 'n'] => some (0 / 0)
  | ['i', 'n', 'f'] => some (1 / 0)
  | ['i', 'n', 'f', 'i', 'n', 'i', 't', 'y'] => some (1 / 0)
  | _ => none

/-- **The number that a whole text denotes**: a numeral in ASCII digits, or the
name of an infinity or of no number, with an optional sign. -/
def parse? (s : List Char) : Option Float :=
  match Numeral.scan Char.isDigit s with
  | some (n, []) => some n.toFloat
  | _ =>
    let (negative, rest) := takeSign s
    (named? rest).map fun x => if negative then -x else x

/-- **The number that a text starts with** after white space. A numeral with a
digit that is not ASCII has no value. -/
def parsePrefix? (s : List Char) : Option Float :=
  match Numeral.scan isDecimalDigit (trimStart s) with
  | some (n, _) => if n.isAscii then some n.toFloat else none
  | none => none

/-- The whole number that a text starts with after white space: a sign and
digits, whatever follows. -/
def parseWholePrefix? (s : List Char) : Option Float :=
  let (negative, rest) := takeSign (trimStart s)
  match takeDigits isDecimalDigit rest with
  | ([], _) => none
  | (digits, _) =>
    if digits.all Char.isDigit then some (Numeral.mk negative digits [] false []).toFloat else none

end SoundSheet.Decimal
