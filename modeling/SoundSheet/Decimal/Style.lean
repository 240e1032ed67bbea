import SoundSheet.Decimal.Shortest

/-!
# How numbers are written

Three places write numbers in full precision, and each has its own way: texts
inside formulas, texts made by scripts, and saved sheets. A way of writing is a
record of decisions; the digits are those of the shortest decimal for all.
-/

namespace SoundSheet.Decimal

/-- **A way of writing numbers**. -/
structure Style where
  /-- Whether a whole number keeps a point and a zero. -/
  keepPoint : Bool
  /-- Numbers below `10 ^ e` for this `e` are written with an exponent. -/
  plainFrom : Option Int
  /-- Numbers from `10 ^ e` on, for this `e`, are written with an exponent. -/
  plainBelow : Option Int
  /-- Whether an exponent that is not negative has a plus sign. -/
  exponentPlus : Bool
  /-- Which of two equally near decimals is taken. -/
  tie : Tie

/-- **Texts inside formulas**: never an exponent, and no point for whole
numbers. -/
def plain : Style :=
  { keepPoint := false, plainFrom := none, plainBelow := none, exponentPlus := false, tie := .up }

/-- **Texts made by scripts**: a point even for whole numbers, and an exponent
below a ten-thousandth and from ten to the sixteenth on. -/
def pointed : Style :=
  { keepPoint := true, plainFrom := some (-4), plainBelow := some 16, exponentPlus := false,
    tie := .up }

/-- **Saved numbers**: a point even for whole numbers, and a signed exponent
below a hundred-thousandth and from ten to the sixteenth on. -/
def stored : Style :=
  { keepPoint := true, plainFrom := some (-5), plainBelow := some 16, exponentPlus := true,
    tie := .even }

/-- The decimal digits of a natural number. -/
def digitsOf (n : Nat) : List Char :=
  Nat.toDigits 10 n

/-- A natural number in decimal. -/
def natText (n : Nat) : String :=
  String.ofList (digitsOf n)

/-- An integer in decimal, with a minus sign if it is negative. -/
def ofInt : Int → List Char
  | .ofNat n => digitsOf n
  | .negSucc n => '-' :: digitsOf (n + 1)

/-- Digits with the point after the first `position` of them, filled up with
zeros on either side where the point lies outside. -/
def placePoint (keepPoint : Bool) (digits : List Char) (position : Int) : List Char :=
  if position ≤ 0 then
    '0' :: '.' :: List.replicate (-position).toNat '0' ++ digits
  else if digits.length ≤ position.toNat then
    digits ++ List.replicate (position.toNat - digits.length) '0'
      ++ (if keepPoint then ['.', '0'] else [])
  else
    digits.take position.toNat ++ '.' :: digits.drop position.toNat

/-- Digits with a point after the first, and an exponent. -/
def withExponent (plus : Bool) (digits : List Char) (exponent : Int) : List Char :=
  let sign := if plus && decide (0 ≤ exponent) then ['+'] else []
  match digits with
  | [] => []
  | [d] => d :: 'e' :: sign ++ ofInt exponent
  | d :: rest => d :: '.' :: rest ++ 'e' :: sign ++ ofInt exponent

/-- A decimal in a way of writing. -/
def Style.writeDigits (style : Style) (d : Digits) : List Char :=
  let digits := digitsOf d.significand
  let position := (digits.length : Int) + d.exponent
  let small := style.plainFrom.any fun e => decide (position ≤ e)
  let large := style.plainBelow.any fun e => decide (e < position)
  if small || large then withExponent style.exponentPlus digits (position - 1)
  else placePoint style.keepPoint digits position

/-- The magnitude of a finite number in a way of writing. -/
def Style.writeMagnitude (style : Style) (b : Binary) : List Char :=
  if b.mantissa = 0 then placePoint style.keepPoint ['0'] 1
  else style.writeDigits (b.shortest style.tie)

/-- **The text of a number** in a way of writing. -/
def Style.write (style : Style) (x : Float) : List Char :=
  match Reading.ofFloat x with
  | .nan => ['N', 'a', 'N']
  | .infinite negative => (if negative then ['-'] else []) ++ ['i', 'n', 'f']
  | .finite b => (if b.negative then ['-'] else []) ++ style.writeMagnitude b

/-- The text of a number inside a formula. -/
def toText (x : Float) : String :=
  String.ofList (plain.write x)

end SoundSheet.Decimal
