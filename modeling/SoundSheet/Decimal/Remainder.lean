import SoundSheet.Decimal.Binary

/-!
# The remainder of a division of numbers

The remainder has the sign of the dividend and is exact: on two binary fractions
over one power of two it is a remainder of natural numbers.
-/

namespace SoundSheet.Decimal

/-- The double of a sign and a mantissa below `2 ^ 53` times a power of two, in
the range of doubles. -/
def Binary.toFloat (b : Binary) : Float :=
  let sign := if b.negative then Nat.pow 2 63 else 0
  let top := (b.mantissa.log2 : Int) + b.exponent
  let bits :=
    if b.mantissa = 0 then 0
    else if top < -1022 then b.mantissa * Nat.pow 2 (b.exponent + 1074).toNat
    else
      (top + 1023).toNat * Nat.pow 2 52
        + (b.mantissa * Nat.pow 2 (52 - b.mantissa.log2) - Nat.pow 2 52)
  Float.ofBits (UInt64.ofNat (sign + bits))

/-- **The remainder** of one number by another. -/
def remainder (a b : Float) : Float :=
  match Reading.ofFloat a, Reading.ofFloat b with
  | .finite x, .infinite _ => x.toFloat
  | .finite x, .finite y =>
    if y.mantissa = 0 then 0 / 0
    else
      let unit := min x.exponent y.exponent
      let m := x.mantissa * Nat.pow 2 (x.exponent - unit).toNat
      let n := y.mantissa * Nat.pow 2 (y.exponent - unit).toNat
      Binary.toFloat ⟨x.negative, m % n, unit⟩
  | _, _ => 0 / 0

end SoundSheet.Decimal
