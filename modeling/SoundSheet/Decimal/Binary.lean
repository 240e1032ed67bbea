/-!
# Floating-point numbers as exact binary fractions

A finite double is a sign and a natural number times a power of two. Every text
of a number in this library, and the question whether a number is whole, is
decided on this exact form, in arithmetic on natural numbers.
-/

namespace SoundSheet.Decimal

/-- **A finite double, exactly**: `mantissa * 2 ^ exponent`, with a sign that
zero has as well. -/
structure Binary where
  /-- Whether the sign bit is set. -/
  negative : Bool
  /-- The significant bits, below `2 ^ 53`. -/
  mantissa : Nat
  /-- The power of two that the mantissa is scaled with. -/
  exponent : Int
  deriving DecidableEq, Repr

/-- What a double stands for. -/
inductive Reading where
  /-- No number. -/
  | nan
  /-- An infinity with its sign. -/
  | infinite (negative : Bool)
  /-- A finite number. -/
  | finite (number : Binary)
  deriving DecidableEq, Repr

/-- **What a double stands for**, read from its bits. -/
def Reading.ofFloat (x : Float) : Reading :=
  let bits := x.toBits.toNat
  let negative := decide (Nat.pow 2 63 ≤ bits)
  let exponent : Nat := bits / Nat.pow 2 52 % Nat.pow 2 11
  let fraction := bits % Nat.pow 2 52
  if exponent = 2047 then
    if fraction = 0 then .infinite negative else .nan
  else if exponent = 0 then
    .finite ⟨negative, fraction, -1074⟩
  else
    .finite ⟨negative, Nat.pow 2 52 + fraction, Int.ofNat exponent - 1075⟩

namespace Binary

/-- The magnitude as a fraction: the numerator. -/
def num (b : Binary) : Nat :=
  b.mantissa * Nat.pow 2 b.exponent.toNat

/-- The magnitude as a fraction: the denominator, a power of two. -/
def den (b : Binary) : Nat :=
  Nat.pow 2 (-b.exponent).toNat

/-- Whether the number has no fractional part. -/
def isWhole (b : Binary) : Bool :=
  b.num % b.den == 0

end Binary

/-- Whether a double is a whole number. -/
def isWhole (x : Float) : Bool :=
  match Reading.ofFloat x with
  | .finite b => b.isWhole
  | _ => false

end SoundSheet.Decimal
