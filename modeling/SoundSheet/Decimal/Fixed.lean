import SoundSheet.Decimal.Style

/-!
# Numbers with a fixed count of places

A cell shows a whole number without a point and any other number with two
places. The exact value is rounded, and a half goes to the even neighbour.
-/

namespace SoundSheet.Decimal

/-- **A quotient rounded to a whole number**, a half to the even neighbour. -/
def roundHalfEven (num den : Nat) : Nat :=
  let q := num / den
  match compare (2 * (num % den)) den with
  | .lt => q
  | .gt => q + 1
  | .eq => if q % 2 = 0 then q else q + 1

/-- The digits of `n` hundredths, thousandths and so on as a decimal with that
many places. -/
def withPlaces (places n : Nat) : List Char :=
  let digits := digitsOf n
  let padded := List.replicate (places + 1 - digits.length) '0' ++ digits
  let whole := padded.length - places
  if places = 0 then padded else padded.take whole ++ '.' :: padded.drop whole

/-- **A number with a fixed count of places**. The sign is kept even where
all digits are zero. -/
def fixed (places : Nat) (b : Binary) : List Char :=
  (if b.negative then ['-'] else [])
    ++ withPlaces places (roundHalfEven (b.num * Nat.pow 10 places) b.den)

/-- **The display of a number**: whole numbers below ten to the tenth have no
point, all others two places, and what is no finite number is an error mark. -/
def display (x : Float) : String :=
  match Reading.ofFloat x with
  | .nan => "#NAN!"
  | .infinite _ => "#INF!"
  | .finite b =>
    String.ofList (fixed (if b.isWhole && b.num < Nat.pow 10 10 * b.den then 0 else 2) b)

end SoundSheet.Decimal
