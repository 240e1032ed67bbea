import Mathlib.Algebra.Order.Ring.Pow
import Mathlib.Data.Int.Log
import Mathlib.Data.Rat.Floor
import SoundSheet.Proofs.Decimal.Doubles

/-!
# How far rounding goes

Every magnitude that is neither too large nor too small is caught by some double
(`exists_catches`). How far a double may be from what it has caught is counted
in steps, each of which multiplies by a factor next to one (`Near`): a double
whose mantissa has all its bits is one step away. Steps add up along products
and quotients, and so a calculation with a few roundings is a few steps away
from the exact one.
-/

namespace SoundSheet.Decimal

/-! ## Every magnitude is caught -/

section Existence

/-- **A nearest whole number**, the even one of two. -/
theorem exists_nearest_nat {q : ℚ} (hq : 0 ≤ q) : ∃ m : ℕ, (m : ℚ) - 1 / 2 ≤ q ∧ q ≤ m + 1 / 2 ∧
    (m % 2 = 1 → (m : ℚ) - 1 / 2 < q ∧ q < m + 1 / 2) := by
  have hle := Nat.floor_le hq
  have hlt := Nat.lt_floor_add_one q
  generalize ⌊q⌋₊ = n at hle hlt
  have hnext : ((n + 1 : ℕ) : ℚ) = n + 1 := Nat.cast_succ n
  rcases lt_trichotomy q (n + 1 / 2) with hnear | hhalf | hfar
  · exact ⟨n, by linarith, hnear.le, fun _ => ⟨by linarith, hnear⟩⟩
  · by_cases heven : n % 2 = 0
    · exact ⟨n, by linarith, hhalf.le, fun hodd => by omega⟩
    · exact ⟨n + 1, by linarith, by linarith, fun hodd => by omega⟩
  · exact ⟨n + 1, by linarith, by linarith, fun _ => ⟨by linarith, by linarith⟩⟩

/-- **A magnitude in units in the last place**: as many as a mantissa can hold,
and no more places than there are. -/
theorem exists_scale {v : ℚ} (hv : 0 < v) : ∃ (q : ℚ) (e : ℤ), v = q * 2 ^ e ∧ 0 < q ∧
    q < 2 ^ 53 ∧ -1074 ≤ e ∧ (-1074 < e → 2 ^ 52 ≤ q) := by
  have hlow : (2 : ℚ) ^ Int.log 2 v ≤ v := by exact_mod_cast Int.zpow_log_le_self one_lt_two hv
  have hhigh : v < (2 : ℚ) ^ (Int.log 2 v + 1) := by
    exact_mod_cast Int.lt_zpow_succ_log_self one_lt_two v
  obtain ⟨e, he⟩ : ∃ e, e = max (Int.log 2 v - 52) (-1074) := ⟨_, rfl⟩
  have hunit : (0 : ℚ) < 2 ^ e := by positivity
  refine ⟨v / 2 ^ e, e, by field_simp, by positivity, ?_, by omega, fun hnormal => ?_⟩
  · rw [div_lt_iff₀ hunit, ← zpow_natCast, ← zpow_add₀ two_ne_zero]
    exact hhigh.trans_le (zpow_le_zpow_right₀ one_le_two (by omega))
  · rw [le_div_iff₀ hunit, ← zpow_natCast, ← zpow_add₀ two_ne_zero]
    exact (zpow_le_zpow_right₀ one_le_two (by omega)).trans hlow

variable {q : ℚ} {e : ℤ} {m : ℕ}

/-- **A mantissa catches** what is rounded to it. -/
theorem catches_nearest (hleft : (m : ℚ) - 1 / 2 ≤ q) (hright : q ≤ m + 1 / 2)
    (hodd : m % 2 = 1 → (m : ℚ) - 1 / 2 < q ∧ q < m + 1 / 2)
    (hnormal : -1074 < e → 2 ^ 52 ≤ q) : Binary.Catches ⟨false, m, e⟩ (q * 2 ^ e) := by
  have hquarters : 4 * (q * 2 ^ e) / 2 ^ e = 4 * q := by field_simp
  have hbelow : (4 * m - Binary.below ⟨false, m, e⟩ : ℚ) ≤ 4 * q := by
    rw [Binary.below]
    split
    · next hleast =>
      have := hnormal hleast.2
      have hm : (m : ℚ) = 2 ^ 52 := by exact_mod_cast hleast.1
      push_cast
      linarith
    · push_cast
      linarith
  unfold Binary.Catches
  dsimp only
  rw [hquarters]
  split
  · exact ⟨hbelow, by linarith⟩
  · next hne =>
    have hpower : Binary.below ⟨false, m, e⟩ = 2 := by
      refine if_neg ?_
      rintro ⟨rfl, -⟩
      exact hne (by decide)
    obtain ⟨hlt, hgt⟩ := hodd (Nat.mod_two_ne_zero.mp hne)
    rw [hpower]
    push_cast
    exact ⟨by linarith, by linarith⟩

/-- **Rounding up to one bit more** leads to the least mantissa of the next
exponent. -/
theorem catches_carry (hleft : (2 : ℚ) ^ 53 - 1 / 2 ≤ q) (hright : q ≤ 2 ^ 53 + 1 / 2)
    (he : -1074 ≤ e) : Binary.Catches ⟨false, 2 ^ 52, e + 1⟩ (q * 2 ^ e) := by
  have hquarters : 4 * (q * 2 ^ e) / 2 ^ (e + 1) = 2 * q := by
    rw [zpow_add_one₀ two_ne_zero]
    field_simp
    norm_num
  have hbelow : Binary.below ⟨false, 2 ^ 52, e + 1⟩ = 1 := if_pos ⟨rfl, by
    show -1074 < e + 1
    omega⟩
  unfold Binary.Catches
  dsimp only
  rw [hquarters, hbelow, if_pos (by decide)]
  push_cast
  exact ⟨by linarith, by linarith⟩

/-- Half the least double, which is rounded to zero. -/
def underflow : ℚ :=
  2 ^ (-1074 : ℤ) / 2

/-- Half a unit above the greatest double, which is rounded to infinity. -/
def overflow : ℚ :=
  (2 ^ 53 - 1 / 2) * 2 ^ (971 : ℤ)

/-- **Every magnitude between these is caught by a double.** -/
theorem exists_catches {v : ℚ} (hlow : underflow < v) (hhigh : v < overflow) :
    ∃ b : Binary, b.IsDouble ∧ b.negative = false ∧ 0 < b.mantissa ∧ b.Catches v := by
  rw [underflow] at hlow
  rw [overflow] at hhigh
  obtain ⟨q, e, rfl, hq, hlt, hleast, hnormal⟩ := exists_scale (lt_trans (by positivity) hlow)
  have hunit : (0 : ℚ) < 2 ^ e := by positivity
  have hgreatest : e ≤ 971 := by
    by_contra hlarge
    have hpow : (2 : ℚ) ^ (971 + 1 : ℤ) ≤ 2 ^ e := zpow_le_zpow_right₀ one_le_two (by omega)
    have hunit' : (0 : ℚ) < 2 ^ (971 : ℤ) := by positivity
    have := mul_le_mul (hnormal (by omega)) hpow (by positivity) hq.le
    rw [zpow_add_one₀ two_ne_zero] at this
    generalize (2 : ℚ) ^ (971 : ℤ) = greatest at *
    linarith
  obtain ⟨m, hleft, hright, hodd⟩ := exists_nearest_nat hq.le
  have hm : m ≤ 2 ^ 53 := by
    have : (m : ℚ) < 2 ^ 53 + 1 := by linarith
    exact Nat.lt_succ_iff.mp (by exact_mod_cast this)
  rcases hm.lt_or_eq with hm | rfl
  · have hfull (h : -1074 < e) : 2 ^ 52 ≤ m := by
      have : (2 : ℚ) ^ 52 < m + 1 := by linarith [hnormal h]
      exact Nat.lt_succ_iff.mp (by exact_mod_cast this)
    have hpos : 0 < m := by
      by_contra hzero
      obtain rfl : m = 0 := Nat.eq_zero_of_not_pos hzero
      obtain rfl : e = -1074 := le_antisymm (not_lt.mp fun h => absurd (hfull h) (by decide)) hleast
      rw [Nat.cast_zero, zero_add] at hright
      have := mul_le_mul_of_nonneg_right hright hunit.le
      linarith
    exact ⟨⟨false, m, e⟩, ⟨hm, hleast, hgreatest, hfull⟩, rfl, hpos,
      catches_nearest hleft hright hodd hnormal⟩
  · -- Rounding up has added a bit.
    push_cast at hleft hright
    have hless : e < 971 := by
      refine lt_of_le_of_ne hgreatest ?_
      rintro rfl
      have := lt_of_mul_lt_mul_right hhigh hunit.le
      linarith only [hleft, this]
    refine ⟨⟨false, 2 ^ 52, e + 1⟩, ⟨by norm_num, ?_, ?_, fun _ => le_rfl⟩, rfl,
      Nat.two_pow_pos 52, catches_carry ?_ ?_ hleast⟩
    · exact hleast.trans (Int.le_add_one le_rfl)
    · exact Int.add_one_le_of_lt hless
    · linarith only [hleft]
    · linarith only [hright]

end Existence

/-! ## Steps -/

/-- **A step** multiplies by a unit in the last place. -/
def step : ℚ :=
  1 + 1 / 2 ^ 52

theorem one_le_step : 1 ≤ step := by
  norm_num [step]

theorem step_pos : 0 < step :=
  one_pos.trans_le one_le_step

/-- **Two magnitudes that are some steps apart**, at most. -/
def Near (n : ℕ) (x y : ℚ) : Prop :=
  x ≤ y * step ^ n ∧ y ≤ x * step ^ n

section Near

variable {n k : ℕ} {x y z w : ℚ}

theorem Near.refl (hx : 0 ≤ x) : Near n x x := by
  have := le_mul_of_one_le_right hx (one_le_pow₀ one_le_step (n := n))
  exact ⟨this, this⟩

theorem Near.symm (h : Near n x y) : Near n y x :=
  ⟨h.2, h.1⟩

/-- Steps add up, -/
theorem Near.trans (hxy : Near n x y) (hyz : Near k y z) : Near (n + k) x z := by
  have hn := pow_nonneg step_pos.le n
  have hk := pow_nonneg step_pos.le k
  constructor
  · calc x ≤ y * step ^ n := hxy.1
      _ ≤ z * step ^ k * step ^ n := mul_le_mul_of_nonneg_right hyz.1 hn
      _ = z * step ^ (n + k) := by rw [pow_add]; ring
  · calc z ≤ y * step ^ k := hyz.2
      _ ≤ x * step ^ n * step ^ k := mul_le_mul_of_nonneg_right hxy.2 hk
      _ = x * step ^ (n + k) := by rw [pow_add]; ring

/-- in products -/
theorem Near.mul (hxy : Near n x y) (hzw : Near k z w) (hx : 0 ≤ x) (hy : 0 ≤ y) (hz : 0 ≤ z)
    (hw : 0 ≤ w) : Near (n + k) (x * z) (y * w) := by
  have hn := pow_nonneg step_pos.le n
  constructor
  · calc x * z ≤ y * step ^ n * (w * step ^ k) := mul_le_mul hxy.1 hzw.1 hz (mul_nonneg hy hn)
      _ = y * w * step ^ (n + k) := by rw [pow_add]; ring
  · calc y * w ≤ x * step ^ n * (z * step ^ k) := mul_le_mul hxy.2 hzw.2 hw (mul_nonneg hx hn)
      _ = x * z * step ^ (n + k) := by rw [pow_add]; ring

theorem Near.inv (h : Near n x y) (hx : 0 < x) (hy : 0 < y) : Near n x⁻¹ y⁻¹ := by
  constructor
  · rw [← div_eq_inv_mul, le_div_iff₀ hy, inv_mul_le_iff₀ hx]
    exact h.2
  · rw [← div_eq_inv_mul, le_div_iff₀ hx, inv_mul_le_iff₀ hy]
    exact h.1

/-- and in quotients. -/
theorem Near.div (hxy : Near n x y) (hzw : Near k z w) (hx : 0 < x) (hy : 0 < y) (hz : 0 < z)
    (hw : 0 < w) : Near (n + k) (x / z) (y / w) := by
  rw [div_eq_mul_inv, div_eq_mul_inv]
  exact hxy.mul (hzw.inv hz hw) hx.le hy.le (inv_nonneg.mpr hz.le) (inv_nonneg.mpr hw.le)

theorem Near.mono (h : Near n x y) (hnk : n ≤ k) (hx : 0 ≤ x) (hy : 0 ≤ y) : Near k x y := by
  have hpow := pow_le_pow_right₀ one_le_step hnk
  exact ⟨h.1.trans (mul_le_mul_of_nonneg_left hpow hy),
    h.2.trans (mul_le_mul_of_nonneg_left hpow hx)⟩

/-- A dozen steps are less than one part in `10 ^ 14`. -/
theorem Near.abs_sub_le (h : Near 12 x y) (hx : 0 ≤ x) (hy : 0 ≤ y) :
    |x - y| ≤ y / 10 ^ 14 := by
  have hpow : step ^ 12 ≤ 1 + 1 / (2 * 10 ^ 14) := by norm_num [step]
  have hup := h.1.trans (mul_le_mul_of_nonneg_left hpow hy)
  have hdown := h.2.trans (mul_le_mul_of_nonneg_left hpow hx)
  rw [abs_sub_le_iff]
  exact ⟨by linarith, by linarith⟩

end Near

namespace Binary

variable {b : Binary} {v : ℚ} {n k : ℕ}

theorem value_pos (hpos : 0 < b.mantissa) : 0 < b.value :=
  mul_pos (by exact_mod_cast hpos) (by positivity)

/-- A double is at most half a unit in the last place away from what it
catches. -/
theorem Catches.le_value (h : b.Catches v) :
    b.value - 2 ^ b.exponent / 2 ≤ v ∧ v ≤ b.value + 2 ^ b.exponent / 2 := by
  obtain ⟨hlow, hhigh⟩ := h.le
  have hunit : (0 : ℚ) < 2 ^ b.exponent := by positivity
  have hbelow := b.below_le
  rw [le_div_iff₀ hunit] at hlow
  rw [div_le_iff₀ hunit] at hhigh
  have hquarters := mul_le_mul_of_nonneg_right hbelow hunit.le
  rw [value]
  exact ⟨by linarith, by linarith⟩

/-- What a double catches is not far below it, -/
theorem Catches.le_of_le_mantissa {e : ℤ} (h : b.Catches v) (he : e ≤ b.exponent) (hk : 0 < k)
    (hle : k ≤ b.mantissa) : (k - 1 / 2) * 2 ^ e ≤ v := by
  have hone : (1 : ℚ) ≤ k := by exact_mod_cast hk
  have hmantissa : (k : ℚ) ≤ b.mantissa := by exact_mod_cast hle
  calc (k - 1 / 2 : ℚ) * 2 ^ e ≤ (b.mantissa - 1 / 2) * 2 ^ b.exponent :=
        mul_le_mul (by linarith) (zpow_le_zpow_right₀ one_le_two he) (by positivity) (by linarith)
    _ = b.value - 2 ^ b.exponent / 2 := by rw [value]; ring
    _ ≤ v := h.le_value.1

/-- and not far above. -/
theorem Catches.le_of_mantissa_lt {e : ℤ} (h : b.Catches v) (he : b.exponent ≤ e)
    (hlt : b.mantissa < k) : v ≤ (k - 1 / 2) * 2 ^ e := by
  have hmantissa : (b.mantissa : ℚ) + 1 ≤ k := by exact_mod_cast hlt
  have hnonneg : (0 : ℚ) ≤ b.mantissa := Nat.cast_nonneg _
  calc v ≤ b.value + 2 ^ b.exponent / 2 := h.le_value.2
    _ = (b.mantissa + 1 / 2) * 2 ^ b.exponent := by rw [value]; ring
    _ ≤ (k - 1 / 2) * 2 ^ e :=
      mul_le_mul (by linarith) (zpow_le_zpow_right₀ one_le_two he) (by positivity) (by linarith)

/-- **How far a double is from what it catches**: one step if its mantissa has
all bits, and a few if a few of them are missing. -/
theorem Catches.near (h : b.Catches v) (hn : n ≤ 2 ^ 52) (hbits : 2 ^ 52 ≤ n * b.mantissa) :
    Near n b.value v := by
  obtain ⟨hlow, hhigh⟩ := h.le_value
  have hunit : (0 : ℚ) < 2 ^ b.exponent := by positivity
  have hn : (n : ℚ) ≤ 2 ^ 52 := by exact_mod_cast hn
  have hbits : (2 : ℚ) ^ 52 * 2 ^ b.exponent ≤ n * b.value := by
    rw [value, ← mul_assoc]
    exact mul_le_mul_of_nonneg_right (by exact_mod_cast hbits) hunit.le
  have hstep : 1 + n / 2 ^ 52 ≤ step ^ n := by
    have := one_add_mul_le_pow (by norm_num : (-2 : ℚ) ≤ 1 / 2 ^ 52) n
    rwa [mul_one_div] at this
  have hvalue : 0 ≤ b.value := mul_nonneg (Nat.cast_nonneg _) hunit.le
  generalize b.value = x, (2 : ℚ) ^ b.exponent = unit at *
  have hhalf : x / 2 ≤ v := by
    have := mul_le_mul_of_nonneg_right hn hvalue
    linarith
  constructor
  · refine le_trans ?_ (mul_le_mul_of_nonneg_left hstep (by linarith))
    have := mul_le_mul_of_nonneg_left hhalf (Nat.cast_nonneg (α := ℚ) n)
    linarith
  · refine hhigh.trans (le_trans ?_ (mul_le_mul_of_nonneg_left hstep hvalue))
    linarith

/-- **The bits of a double** that catches a magnitude. -/
theorem Catches.le_mantissa (h : b.Catches v) (hb : b.IsDouble) (hk : k ≤ 52)
    (hv : 2 ^ k * 2 ^ (-1074 : ℤ) ≤ v) : 2 ^ k ≤ b.mantissa := by
  by_contra hfew
  rw [not_le] at hfew
  have hle : 2 ^ k ≤ 2 ^ 52 := Nat.pow_le_pow_right two_pos hk
  have hleast : b.exponent ≤ -1074 := by
    by_contra hne
    exact absurd (hb.normal (not_le.mp hne)) (by omega)
  have hhigh := h.le_of_mantissa_lt hleast hfew
  have hunit : (0 : ℚ) < 2 ^ (-1074 : ℤ) := by positivity
  rw [Nat.cast_pow, Nat.cast_ofNat] at hhigh
  generalize (2 : ℚ) ^ (-1074 : ℤ) = unit at *
  linarith

end Binary

/-! ## The ends -/

section Ends

variable {b : Binary} {v : ℚ}

theorem underflow_pos : 0 < underflow := by
  rw [underflow]
  positivity

/-- Magnitudes from one on are above those of the doubles that lack bits. -/
theorem least_le_one : (2 : ℚ) ^ 52 * 2 ^ (-1074 : ℤ) ≤ 1 := by
  rw [← zpow_natCast, ← zpow_add₀ two_ne_zero]
  exact zpow_le_one_of_nonpos₀ one_le_two (by norm_num)

theorem underflow_lt {k : ℕ} (h : 2 ^ k * 2 ^ (-1074 : ℤ) ≤ v) : underflow < v := by
  have hunit : (0 : ℚ) < 2 ^ (-1074 : ℤ) := by positivity
  have hk : (1 : ℚ) ≤ 2 ^ k := one_le_pow₀ one_le_two
  calc underflow < 1 * 2 ^ (-1074 : ℤ) := by rw [underflow]; linarith
    _ ≤ 2 ^ k * 2 ^ (-1074 : ℤ) := mul_le_mul_of_nonneg_right hk hunit.le
    _ ≤ v := h

theorem overflow_eq : overflow = 2 ^ (1024 : ℤ) * (1 - 1 / 2 ^ 54) := by
  have hpow : (2 : ℚ) ^ (1024 : ℤ) = 2 ^ (971 : ℤ) * 2 ^ 53 := by
    rw [← zpow_natCast, ← zpow_add₀ two_ne_zero]
    rfl
  rw [overflow, hpow]
  ring

theorem two_pow_lt_overflow : (2 : ℚ) ^ 65 < overflow := by
  have hpow : (2 : ℚ) ^ (66 : ℤ) ≤ 2 ^ (1024 : ℤ) := zpow_le_zpow_right₀ one_le_two (by norm_num)
  rw [overflow_eq]
  generalize (2 : ℚ) ^ (1024 : ℤ) = limit at *
  norm_num at hpow ⊢
  linarith

/-- **What a double catches lies between the ends.** -/
theorem Binary.Catches.underflow_le (h : b.Catches v) (hb : b.IsDouble) (hpos : 0 < b.mantissa) :
    underflow ≤ v := by
  have hlow := h.le_of_le_mantissa hb.le_exponent one_pos hpos
  rw [Nat.cast_one] at hlow
  rw [underflow]
  linarith

theorem Binary.Catches.le_overflow (h : b.Catches v) (hb : b.IsDouble) : v ≤ overflow := by
  have hhigh := h.le_of_mantissa_lt hb.exponent_le hb.mantissa_lt
  rwa [Nat.cast_pow, Nat.cast_ofNat] at hhigh

end Ends

end SoundSheet.Decimal
