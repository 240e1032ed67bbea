import Mathlib.Algebra.Order.Field.Power
import Mathlib.Data.Rat.Cast.Order
import Mathlib.Tactic.FieldSimp
import Mathlib.Tactic.Linarith
import Mathlib.Tactic.NormNum
import Mathlib.Tactic.Positivity
import SoundSheet.Decimal.Shortest

/-!
# Rounding to the nearest double

The arithmetic of doubles works out an exact value down to a whole number, the
mantissa, and two residual bits that tell where between this number and the next
the value lies (`Tells`). The mantissa is then shifted to the exponent that a
double of this size has, and rounded.

Here it is said what comes out, without the shifts. Every double has an interval
of values that are nearer to it than to its neighbours (`Binary.Catches`), the
ends with an even mantissa included, and whatever value lies in it, that double
is what it is rounded to (`roundWithAccuracy_of_catches`).
-/

namespace SoundSheet.Decimal

open Float.Model Float.Model.UnpackedFloat

/-! ## Residual bits -/

/-- A mantissa together with its round bit, which counts a half. -/
def halves (em : ExtendedMantissa) : ℚ :=
  em.mantissa + if em.roundBit then 1 / 2 else 0

/-- **What a mantissa with its residual bits tells of a value**: its whole part
and its first half, and whether anything is left. -/
def Tells (em : ExtendedMantissa) (x : ℚ) : Prop :=
  if em.stickyBit then halves em < x ∧ x < halves em + 1 / 2 else x = halves em

section Tells

variable {em : ExtendedMantissa} {x : ℚ}

theorem tells_exact (m : ℕ) : Tells (.ofMantissaAndAccuracy m .exact) m :=
  (add_zero (m : ℚ)).symm

theorem halves_shiftRightOne (em : ExtendedMantissa) :
    halves em.shiftRightOne = em.mantissa / 2 := by
  have hm : (em.mantissa : ℚ) = 2 * (em.mantissa / 2 : ℕ) + (em.mantissa % 2 : ℕ) := by
    exact_mod_cast (Nat.div_add_mod em.mantissa 2).symm
  rcases Nat.mod_two_eq_zero_or_one em.mantissa with hparity | hparity
  · simp [halves, ExtendedMantissa.shiftRightOne, hparity] at hm ⊢
    linarith
  · simp [halves, ExtendedMantissa.shiftRightOne, hparity] at hm ⊢
    linarith

/-- Both residual bits tell whether the mantissa is the value. -/
theorem Tells.eq_mantissa_or_lt (h : Tells em x) :
    if em.roundBit || em.stickyBit then em.mantissa < x ∧ x < em.mantissa + 1
    else x = em.mantissa := by
  obtain ⟨m, roundBit, stickyBit⟩ := em
  unfold Tells halves at h
  cases roundBit <;> cases stickyBit <;> simp at h ⊢
  · exact h
  · exact ⟨h.1, by linarith⟩
  · rw [h]
    norm_num
  · exact ⟨by linarith, by linarith⟩

theorem Tells.le (h : Tells em x) : (em.mantissa : ℚ) ≤ x := by
  have hvalue := h.eq_mantissa_or_lt
  split at hvalue
  · exact hvalue.1.le
  · exact hvalue.ge

theorem Tells.lt (h : Tells em x) : x < em.mantissa + 1 := by
  have hvalue := h.eq_mantissa_or_lt
  split at hvalue
  · exact hvalue.2
  · rw [hvalue]
    exact lt_add_one _

/-- **A shift halves the value.** -/
theorem Tells.shiftRightOne (h : Tells em x) : Tells em.shiftRightOne (x / 2) := by
  have hvalue := h.eq_mantissa_or_lt
  rw [Tells, halves_shiftRightOne]
  show if em.roundBit || em.stickyBit then _ else _
  split at hvalue
  · next hbits =>
    rw [if_pos hbits]
    exact ⟨by linarith, by linarith⟩
  · next hbits =>
    rw [if_neg hbits, hvalue]

theorem Tells.shiftRight (h : Tells em x) (n : ℕ) : Tells (em >>> n) (x / 2 ^ n) := by
  show Tells (n.repeat ExtendedMantissa.shiftRightOne em) _
  induction n with
  | zero => simpa [Nat.repeat] using h
  | succ n ih =>
    rw [Nat.repeat, pow_succ, ← div_div]
    exact ih.shiftRightOne

/-- **A value is rounded to a whole number** if it is not further than a half
from it, and just a half only if the number is even. -/
theorem Tells.roundedMantissa (h : Tells em x) {m : ℕ} (hlow : (m : ℚ) - 1 / 2 ≤ x)
    (hhigh : x ≤ m + 1 / 2) (hodd : m % 2 = 1 → (m : ℚ) - 1 / 2 < x ∧ x < m + 1 / 2) :
    em.roundedMantissa = m := by
  obtain ⟨q, roundBit, stickyBit⟩ := em
  unfold Tells halves at h
  cases roundBit <;> cases stickyBit <;> simp at h
  · -- The value is the mantissa.
    have hq : (q : ℚ) < m + 1 ∧ (m : ℚ) < q + 1 := ⟨by linarith, by linarith⟩
    show q = m
    norm_cast at hq
    omega
  · have hq : (q : ℚ) < m + 1 ∧ (m : ℚ) < q + 1 := ⟨by linarith, by linarith⟩
    show q = m
    norm_cast at hq
    omega
  · -- The value is half way between the mantissa and the next number.
    have hq : (q : ℚ) < m + 1 ∧ (m : ℚ) < q + 2 := ⟨by linarith, by linarith⟩
    have heven : m % 2 = 0 := by
      by_contra hne
      obtain ⟨hlt, hgt⟩ := hodd (Nat.mod_two_ne_zero.mp hne)
      have hm : (q : ℚ) < m ∧ (m : ℚ) < q + 1 := ⟨by linarith, by linarith⟩
      norm_cast at hm
      omega
    show q + q % 2 = m
    norm_cast at hq
    omega
  · have hq : (q : ℚ) < m ∧ (m : ℚ) < q + 2 := ⟨by linarith, by linarith⟩
    show q + 1 = m
    norm_cast at hq
    omega

/-- A fraction is told by its whole part and by what is left of it. -/
theorem tells_fraction {num den : ℕ} (hden : 0 < den) :
    Tells (.ofMantissaAndAccuracy (num / den) (accuracyOfFraction (num % den) den))
      (num / den) := by
  have hpos : (0 : ℚ) < den := by exact_mod_cast hden
  have hlt : ((num % den : ℕ) : ℚ) < den := by exact_mod_cast Nat.mod_lt num hden
  have hx : (num : ℚ) / den = (num / den : ℕ) + (num % den : ℕ) / den := by
    have hnum : (num : ℚ) = den * (num / den : ℕ) + (num % den : ℕ) := by
      exact_mod_cast (Nat.div_add_mod num den).symm
    field_simp
    linarith
  rw [hx]
  generalize num / den = q, num % den = r at hlt ⊢
  rw [accuracyOfFraction]
  by_cases hr : r = 0
  · simp [hr, Tells, halves, ExtendedMantissa.ofMantissaAndAccuracy]
  · have hr' : (0 : ℚ) < r / den := div_pos (by exact_mod_cast Nat.pos_of_ne_zero hr) hpos
    have hr'' : (r : ℚ) / den < 1 := (div_lt_one hpos).mpr hlt
    rw [if_neg hr]
    rcases lt_trichotomy (2 * r) den with hcompare | hcompare | hcompare
    · have hhalf : (r : ℚ) / den < 1 / 2 := by
        rw [div_lt_div_iff₀ hpos two_pos]
        exact_mod_cast (by omega : r * 2 < 1 * den)
      rw [Nat.compare_eq_lt.mpr hcompare]
      simp only [Tells, halves, ExtendedMantissa.ofMantissaAndAccuracy, if_true]
      constructor <;> simp <;> linarith
    · have hhalf : (r : ℚ) / den = 1 / 2 := by
        rw [div_eq_div_iff hpos.ne' two_ne_zero]
        exact_mod_cast (by omega : r * 2 = 1 * den)
      rw [Nat.compare_eq_eq.mpr hcompare, hhalf]
      simp [Tells, halves, ExtendedMantissa.ofMantissaAndAccuracy]
    · have hhalf : 1 / 2 < (r : ℚ) / den := by
        rw [div_lt_div_iff₀ two_pos hpos]
        exact_mod_cast (by omega : 1 * den < r * 2)
      rw [Nat.compare_eq_gt.mpr hcompare]
      simp only [Tells, halves, ExtendedMantissa.ofMantissaAndAccuracy, if_true]
      constructor <;> linarith

end Tells

/-! ## Doubles -/

namespace Binary

/-- **The form of a finite double**: a mantissa of 53 bits, or of fewer with the
least exponent. -/
structure IsDouble (b : Binary) : Prop where
  /-- The mantissa has at most 53 bits. -/
  mantissa_lt : b.mantissa < 2 ^ 53
  /-- The exponent is not below the least one. -/
  le_exponent : -1074 ≤ b.exponent
  /-- The exponent is not above the greatest one. -/
  exponent_le : b.exponent ≤ 971
  /-- The mantissa has 53 bits if the exponent is not the least one. -/
  normal : -1074 < b.exponent → 2 ^ 52 ≤ b.mantissa

/-- The magnitude. -/
def value (b : Binary) : ℚ :=
  b.mantissa * 2 ^ b.exponent

/-- How far the interval of a double goes down, in quarters of a unit in the
last place. -/
def below (b : Binary) : ℕ :=
  if b.mantissa = Nat.pow 2 52 ∧ -1074 < b.exponent then 1 else 2

/-- **The values that are nearest to a double**: those up to half way to its
neighbours, the ends included if the mantissa is even. They are measured in
quarters of a unit in the last place. -/
def Catches (b : Binary) (v : ℚ) : Prop :=
  let x := 4 * v / 2 ^ b.exponent
  if b.mantissa % 2 = 0 then 4 * b.mantissa - b.below ≤ x ∧ x ≤ 4 * b.mantissa + 2
  else 4 * b.mantissa - b.below < x ∧ x < 4 * b.mantissa + 2

variable {b : Binary} {v : ℚ}

theorem IsDouble.log2_le (hb : b.IsDouble) (hpos : 0 < b.mantissa) : b.mantissa.log2 ≤ 52 :=
  Nat.lt_succ_iff.mp ((Nat.log2_lt hpos.ne').mpr hb.mantissa_lt)

theorem below_le (b : Binary) : (b.below : ℚ) ≤ 2 := by
  unfold below
  split <;> norm_num

theorem below_pos (b : Binary) : (0 : ℚ) < b.below := by
  unfold below
  split <;> norm_num

theorem Catches.le (h : b.Catches v) :
    4 * b.mantissa - b.below ≤ 4 * v / 2 ^ b.exponent ∧
      4 * v / 2 ^ b.exponent ≤ 4 * b.mantissa + 2 := by
  unfold Catches at h
  split at h
  · exact h
  · exact ⟨h.1.le, h.2.le⟩

theorem catches_of_lt (hlow : 4 * b.mantissa - b.below < 4 * v / 2 ^ b.exponent)
    (hhigh : 4 * v / 2 ^ b.exponent < 4 * b.mantissa + 2) : b.Catches v := by
  unfold Catches
  split
  · exact ⟨hlow.le, hhigh.le⟩
  · exact ⟨hlow, hhigh⟩

theorem Catches.lt (h : b.Catches v) (hodd : b.mantissa % 2 = 1) :
    4 * b.mantissa - b.below < 4 * v / 2 ^ b.exponent ∧
      4 * v / 2 ^ b.exponent < 4 * b.mantissa + 2 := by
  unfold Catches at h
  rwa [if_neg (by omega)] at h

/-- A double catches itself. -/
theorem catches_value (b : Binary) : b.Catches b.value := by
  have hscaled : 4 * b.value / 2 ^ b.exponent = 4 * b.mantissa := by
    rw [value]
    field_simp
  have hbelow := b.below_pos
  exact catches_of_lt (by linarith) (by linarith)

end Binary

/-! ## Rounding -/

section Round

variable {b : Binary} {m : ℕ} {e t : ℤ} {accuracy : Accuracy} {x : ℚ}

theorem targetExponent_totalExponent (m : ℕ) (e : ℤ) :
    Format.binary64.targetExponent (totalExponent m e) = max (m.log2 + e - 52) (-1074) := by
  show max (m.log2 + 1 + e - 53 : ℤ) (-1074) = _
  omega

/-- **The first shift** leaves at most 53 bits, and just so many above the least
exponent. -/
theorem shifted_bounds (hle : (m : ℚ) ≤ x) (hlt : x < m + 1) (he : e ≤ t)
    (ht : t = max (m.log2 + e - 52) (-1074)) :
    x * 2 ^ (e - t) < 2 ^ 53 ∧ (-1074 < t → 2 ^ 52 ≤ x * 2 ^ (e - t)) := by
  obtain ⟨k, rfl⟩ := Int.le.dest he
  have hk : (2 : ℚ) ^ (e - (e + k)) = (2 ^ k)⁻¹ := by
    rw [sub_add_cancel_left, zpow_neg, zpow_natCast]
  rw [hk, ← div_eq_mul_inv]
  constructor
  · have hbits : m.log2 + 1 ≤ 53 + k := by omega
    have hm : m + 1 ≤ 2 ^ (53 + k) :=
      Nat.lt_log2_self.trans_le (Nat.pow_le_pow_right two_pos hbits)
    rw [div_lt_iff₀ (by positivity), ← pow_add]
    exact hlt.trans_le (by exact_mod_cast hm)
  · intro htarget
    have hbits : m.log2 = 52 + k := by omega
    have hm : 2 ^ (52 + k) ≤ m := by
      rw [← hbits]
      refine Nat.log2_self_le fun h => ?_
      rw [h, Nat.log2_zero] at hbits
      omega
    rw [le_div_iff₀ (by positivity), ← pow_add]
    exact le_trans (by exact_mod_cast hm) hle

/-- A value in quarters of a unit in the last place, by way of another
exponent. -/
theorem scaled_eq (b : Binary) (x : ℚ) (e t : ℤ) :
    4 * (x * 2 ^ e) / 2 ^ b.exponent = 4 * (x * 2 ^ (e - t)) * 2 ^ (t - b.exponent) := by
  rw [zpow_sub₀ two_ne_zero, zpow_sub₀ two_ne_zero]
  field_simp

/-- **Where the first shift ends**: at the exponent of the double, or one below
if the value is below the least mantissa of 53 bits and is rounded up to it. -/
theorem shifted_cases (hb : b.IsDouble) (hx : 0 ≤ x) (h : b.Catches (x * 2 ^ e))
    (hlt : x * 2 ^ (e - t) < 2 ^ 53) (hle : -1074 < t → 2 ^ 52 ≤ x * 2 ^ (e - t))
    (ht : -1074 ≤ t) :
    t = b.exponent ∨
      t = b.exponent - 1 ∧ b.mantissa = 2 ^ 52 ∧ (2 ^ 53 : ℚ) - 1 / 2 ≤ x * 2 ^ (e - t) := by
  have hbounds := h.le
  rw [scaled_eq b x e t] at hbounds
  have hbelow := b.below_le
  have hmantissa : (b.mantissa : ℚ) ≤ 2 ^ 53 - 1 := by
    have : (b.mantissa : ℚ) + 1 ≤ 2 ^ 53 := by exact_mod_cast hb.mantissa_lt
    linarith
  have hnormal (hlow : -1074 < b.exponent) : (2 : ℚ) ^ 52 ≤ b.mantissa := by
    exact_mod_cast hb.normal hlow
  have hleast := hb.le_exponent
  have hy : 0 ≤ x * 2 ^ (e - t) := by positivity
  generalize x * 2 ^ (e - t) = y at *
  rcases lt_trichotomy t (b.exponent - 1) with hfar | hnear | hfar
  · -- So far below, the value would have more than 53 bits.
    have hpow : (2 : ℚ) ^ (t - b.exponent) ≤ 2 ^ (-2 : ℤ) :=
      zpow_le_zpow_right₀ one_le_two (by omega)
    have := hnormal (by omega)
    have := mul_le_mul_of_nonneg_left hpow (mul_nonneg zero_le_four hy)
    norm_num at this
    linarith
  · have hpow : (2 : ℚ) ^ (t - b.exponent) = 1 / 2 := by
      rw [hnear, sub_sub_cancel_left]
      norm_num
    rw [hpow] at hbounds
    have hge := hnormal (by omega)
    have heq : b.mantissa = 2 ^ 52 := by
      have hlt' : (b.mantissa : ℚ) < 2 ^ 52 + 1 := by linarith
      norm_cast at hlt' hge
      omega
    refine .inr ⟨hnear, heq, ?_⟩
    have hone : (b.below : ℚ) = 1 := by
      rw [Binary.below, if_pos ⟨heq, by omega⟩, Nat.cast_one]
    rw [heq, hone] at hbounds
    push_cast at hbounds
    linarith
  · rcases eq_or_lt_of_le (Int.le_of_sub_one_lt hfar) with heq | hfar
    · exact .inl heq.symm
    · -- So far above, the value would have too few bits.
      have hpow : (2 : ℚ) ^ (1 : ℤ) ≤ 2 ^ (t - b.exponent) :=
        zpow_le_zpow_right₀ one_le_two (by omega)
      have hy := hle (by omega)
      have := mul_le_mul_of_nonneg_left hpow (by linarith : 0 ≤ 4 * y)
      rw [zpow_one] at this
      linarith

theorem mantissa_ofMantissaAndAccuracy (m : ℕ) (accuracy : Accuracy) :
    (ExtendedMantissa.ofMantissaAndAccuracy m accuracy).mantissa = m := by
  obtain _ | _ | _ | _ := accuracy <;> rfl

/-- The shift to the target exponent. -/
theorem shiftToTargetExponent_eq (he : e ≤ t) (ht : t = max (m.log2 + e - 52) (-1074)) :
    shiftToTargetExponent .binary64 m e accuracy
      = (ExtendedMantissa.ofMantissaAndAccuracy m accuracy >>> (t - e).toNat, t) := by
  rw [shiftToTargetExponent, targetExponent_totalExponent, ← ht, shiftToExponent]
  refine Prod.ext rfl ?_
  show e + (t - e).toNat = t
  omega

/-- A double stays where it is. -/
theorem shiftToTargetExponent_isDouble (hb : b.IsDouble) (hpos : 0 < b.mantissa) :
    shiftToTargetExponent .binary64 b.mantissa b.exponent .exact
      = (.ofMantissaAndAccuracy b.mantissa .exact, b.exponent) := by
  have hlow := hb.le_exponent
  have hlog := hb.log2_le hpos
  have htarget : b.exponent = max (b.mantissa.log2 + b.exponent - 52) (-1074) := by
    have hnormal (h : -1074 < b.exponent) : 52 ≤ b.mantissa.log2 :=
      (Nat.le_log2 hpos.ne').mpr (hb.normal h)
    omega
  rw [shiftToTargetExponent_eq le_rfl htarget, sub_self]
  rfl

/-- The bit that rounding up adds is taken away. -/
theorem shiftToTargetExponent_carry (he : -1074 ≤ e) :
    shiftToTargetExponent .binary64 (2 ^ 53) e .exact
      = (.ofMantissaAndAccuracy (2 ^ 52) .exact, e + 1) := by
  have hlog : (2 ^ 53 : ℕ).log2 = 53 := Nat.log2_two_pow
  have htarget : e + 1 = max ((2 ^ 53 : ℕ).log2 + e - 52) (-1074) := by
    rw [hlog]
    omega
  rw [shiftToTargetExponent_eq (by omega) htarget, add_sub_cancel_left]
  rfl

/-- **A value is rounded to the double that catches it**, if its mantissa has
bits enough. -/
theorem roundWithAccuracy_of_catches (hb : b.IsDouble) (hpos : 0 < b.mantissa)
    (hx : Tells (.ofMantissaAndAccuracy m accuracy) x) (hbits : e ≤ max (m.log2 + e - 52) (-1074))
    (h : b.Catches (x * 2 ^ e)) (sign : Sign) :
    roundWithAccuracy .binary64 sign m e accuracy = .finite sign b.mantissa b.exponent hpos := by
  obtain ⟨t, ht⟩ : ∃ t, t = max (m.log2 + e - 52) (-1074) := ⟨_, rfl⟩
  rw [← ht] at hbits
  have hle : (m : ℚ) ≤ x := by simpa only [mantissa_ofMantissaAndAccuracy] using hx.le
  have hlt : x < m + 1 := by simpa only [mantissa_ofMantissaAndAccuracy] using hx.lt
  obtain ⟨hupper, hlower⟩ := shifted_bounds hle hlt hbits ht
  have hshifted : Tells (ExtendedMantissa.ofMantissaAndAccuracy m accuracy >>> (t - e).toNat)
      (x * 2 ^ (e - t)) := by
    have hpow : (2 : ℚ) ^ (e - t) = (2 ^ (t - e).toNat)⁻¹ := by
      rw [← zpow_natCast, ← zpow_neg, Int.toNat_of_nonneg (by omega), neg_sub]
    rw [hpow, ← div_eq_mul_inv]
    exact hx.shiftRight _
  rw [roundWithAccuracy, shiftToTargetExponent_eq hbits ht]
  dsimp only
  rcases shifted_cases hb ((Nat.cast_nonneg m).trans hle) h hupper hlower (by omega) with
    rfl | ⟨hexponent, hmantissa, hnear⟩
  · have hrounded : (ExtendedMantissa.ofMantissaAndAccuracy m accuracy
        >>> (b.exponent - e).toNat).roundedMantissa = b.mantissa := by
      have hbounds := h.le
      have hbelow := b.below_le
      rw [scaled_eq b x e b.exponent, sub_self, zpow_zero, mul_one] at hbounds
      refine hshifted.roundedMantissa (by linarith) (by linarith) fun hodd => ?_
      have hstrict := h.lt hodd
      rw [scaled_eq b x e b.exponent, sub_self, zpow_zero, mul_one] at hstrict
      exact ⟨by linarith, by linarith⟩
    rw [hrounded, shiftToTargetExponent_isDouble hb hpos]
    exact dif_neg hpos.ne'
  · have hrounded : (ExtendedMantissa.ofMantissaAndAccuracy m accuracy
        >>> (t - e).toNat).roundedMantissa = 2 ^ 53 := by
      refine hshifted.roundedMantissa ?_ ?_ (by omega)
      · exact_mod_cast hnear
      · push_cast
        linarith
    rw [hrounded, shiftToTargetExponent_carry (by omega)]
    refine (dif_neg (Nat.two_pow_pos 52).ne').trans ?_
    rw [UnpackedFloat.finite.injEq]
    exact ⟨rfl, hmantissa.symm, by omega⟩

end Round

end SoundSheet.Decimal
