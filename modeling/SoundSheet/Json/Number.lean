import SoundSheet.Decimal.Numeral

/-!
# Numbers in stored texts

A number is digits without a superfluous zero in front, with an optional minus
sign, an optional fraction and an optional exponent.

Its value is not always the nearest double. The digits are gathered in a 64-bit
significand for as long as they fit; further ones only count as zeros, or not at
all behind the point. The significand is then rounded to a double and multiplied
or divided by a power of ten, which rounds once more. A number beyond the
largest double has no value.
-/

namespace SoundSheet.Json

open SoundSheet.Decimal

/-! ## Digits -/

/-- Whether digits before the point have the right form: at least one, and no
zero in front of others. -/
def isWholePart : List Char → Bool
  | [] => false
  | ['0'] => true
  | d :: _ => d != '0'

/-- An optional fraction. A point without digits is no fraction. -/
def takeFraction : List Char → Option (List Char × List Char)
  | '.' :: rest =>
    match takeDigits Char.isDigit rest with
    | ([], _) => none
    | (fraction, rest) => some (fraction, rest)
  | s => some ([], s)

/-- An optional minus sign. -/
def takeMinus : List Char → Bool × List Char
  | '-' :: rest => (true, rest)
  | s => (false, s)

/-- **The number that a text starts with**, and the rest of the text. -/
def readNumeral (s : List Char) : Option (Numeral × List Char) := do
  let (negative, s) := takeMinus s
  let (whole, s) := takeDigits Char.isDigit s
  guard (isWholePart whole)
  let (fraction, s) ← takeFraction s
  let (powerNegative, power, s) := takePower Char.isDigit s
  return (⟨negative, whole, fraction, powerNegative, power⟩, s)

/-! ## Value -/

/-- Two to the 64th, which a significand stays below. -/
def significandLimit : Nat := Nat.pow 2 64

/-- Puts digits behind a significand as long as it has 64 bits, and returns the
digits that are left. -/
def gather (significand : Nat) : List Char → Nat × List Char
  | [] => (significand, [])
  | d :: rest =>
    let next := 10 * significand + (d.toNat - '0'.toNat)
    if next < significandLimit then gather next rest else (significand, d :: rest)

/-- A power of ten as a double. -/
def powerOfTen (n : Nat) : Float :=
  Float.ofScientific 1 false n

/-- **A double times a power of ten**, unless that is beyond all doubles. The
power is a double itself where it can be; a smaller one is taken in two parts,
and beyond these nothing is left of any significand. -/
def scaleBy (x : Float) (exponent : Int) : Option Float :=
  let n := exponent.natAbs
  if exponent < 0 then
    if n ≤ 308 then some (x / powerOfTen n)
    else some (x / powerOfTen 308 / powerOfTen (min (n - 308) 308))
  else if x == 0 then some x
  else if n ≤ 308 then
    let y := x * powerOfTen n
    if y.isInf then none else some y
  else none

/-- **The value of a number**, unless it is beyond all doubles. -/
def numberValue? (n : Numeral) : Option Float :=
  let (significand, dropped) := gather 0 n.whole
  let (significand, ignored) := gather significand n.fraction
  let power : Int := digitsValue n.power
  let exponent := (dropped.length : Int) - (n.fraction.length - ignored.length : Nat)
    + (if n.powerNegative then -power else power)
  (scaleBy (Float.ofScientific significand false 0) exponent).map fun x =>
    if n.negative then -x else x

end SoundSheet.Json
