import SoundSheet.Decimal.Binary

/-!
# The shortest decimal that reads back

The text of a number has the fewest digits that a correctly rounding reader
turns into the same number again, and of the decimals with so many digits the
nearest. All reals that round to a double form an interval around it. On a grid
of powers of ten, if any point lies in that interval then so does one of the two
neighbours of the double itself, so the search tries those two on ever finer
grids and stops at the first hit.
-/

namespace SoundSheet.Decimal

/-- Which of two equally near decimals is taken. -/
inductive Tie where
  /-- The larger one. -/
  | up
  /-- The one that ends in an even digit. -/
  | even
  deriving DecidableEq, Repr

/-- **A decimal**: `significand * 10 ^ exponent`. -/
structure Digits where
  /-- The digits, as a natural number. -/
  significand : Nat
  /-- The power of ten of the last digit. -/
  exponent : Int
  deriving DecidableEq, Repr

/-- **The reals that round to a double**, over one denominator. -/
structure Interval where
  /-- Numerator of the lower end. -/
  low : Nat
  /-- Numerator of the double itself. -/
  mid : Nat
  /-- Numerator of the upper end. -/
  high : Nat
  /-- The common denominator. -/
  den : Nat
  /-- Whether the ends round to the double too. -/
  closed : Bool

/-- **The interval of a double**: half way to its neighbours on both sides. Just
above a power of two the lower neighbour is only half as far. The ends belong
to the interval if the mantissa is even. -/
def Binary.interval (b : Binary) : Interval :=
  let unit := Nat.pow 2 (b.exponent - 2).toNat
  let below := if b.mantissa = Nat.pow 2 52 ∧ -1074 < b.exponent then 1 else 2
  { low := (4 * b.mantissa - below) * unit
    mid := 4 * b.mantissa * unit
    high := (4 * b.mantissa + 2) * unit
    den := Nat.pow 2 (2 - b.exponent).toNat
    closed := b.mantissa % 2 == 0 }

namespace Interval

/-- The interval measured in units of `10 ^ k`. -/
def inUnits (i : Interval) (k : Int) : Interval :=
  let up := Nat.pow 10 (-k).toNat
  { i with
    low := i.low * up
    mid := i.mid * up
    high := i.high * up
    den := i.den * Nat.pow 10 k.toNat }

/-- Whether the whole number `d` lies in the interval. -/
def holds (i : Interval) (d : Nat) : Bool :=
  let x := d * i.den
  if i.closed then i.low ≤ x && x ≤ i.high else i.low < x && x < i.high

/-- The nearer of the two whole numbers around the middle of the interval, among
those that lie in it. -/
def nearest? (tie : Tie) (i : Interval) : Option Nat :=
  let d := i.mid / i.den
  match i.holds d, i.holds (d + 1) with
  | true, false => some d
  | false, true => some (d + 1)
  | false, false => none
  | true, true =>
    match compare (2 * i.mid) ((2 * d + 1) * i.den), tie with
    | .lt, _ => some d
    | .gt, _ => some (d + 1)
    | .eq, .up => some (d + 1)
    | .eq, .even => some (if d % 2 = 0 then d else d + 1)

/-- The hit on the coarsest of `n` grids, of which `10 ^ k` is the first. -/
def search (tie : Tie) (i : Interval) : Nat → Int → Digits
  | 0, k => ⟨(i.inUnits k).mid / (i.inUnits k).den, k⟩
  | n + 1, k =>
    match (i.inUnits k).nearest? tie with
    | some d => ⟨d, k⟩
    | none => search tie i n (k - 1)

end Interval

/-- **The shortest decimal** of a positive double. The first grid is not finer
than the power of ten at or above the number; seventeen digits always reach the
interval, so twenty grids are enough. -/
def Binary.shortest (tie : Tie) (b : Binary) : Digits :=
  let power := (b.mantissa.log2 : Int) + b.exponent
  b.interval.search tie 20 (power * 30103 / 100000 + 1)

end SoundSheet.Decimal
