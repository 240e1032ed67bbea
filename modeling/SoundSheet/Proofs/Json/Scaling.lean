import SoundSheet.Json.Number
import SoundSheet.Proofs.Decimal.Nearness
import SoundSheet.Proofs.Decimal.Shortest

/-!
# Scaled significands

The value of a stored number is its significand times a power of ten, or divided
by one or two. All of these are doubles next to the numbers that they stand for,
and every calculation with them but the last one leads to a double as well. So
what is rounded at last is some steps away from the decimal (`Approaches`), and
it is the decimal itself if both of its parts are doubles.

If the decimal is caught by a double, and this one is not next to the least or
the greatest, the value is therefore a double not far from it
(`exists_scaleBy`), or the very same (`scaleBy_eq_of_catches`).
-/

namespace SoundSheet.Json

open SoundSheet.Decimal

/-! ## Powers of ten -/

section Powers

variable {n : ℕ}

theorem ten_pow_lt_two_pow_1024 : 3 * 10 ^ 308 < 2 * 2 ^ 1024 := by
  decide +kernel

/-- The powers of ten up to `10 ^ 308` are well below the end of the doubles. -/
theorem ten_pow_lt (hn : n ≤ 308) : 3 * (10 : ℚ) ^ n < 2 * 2 ^ (1024 : ℤ) := by
  have hle : (10 : ℚ) ^ n ≤ 10 ^ 308 := pow_le_pow_right₀ (by norm_num) hn
  have hlt : 3 * (10 : ℚ) ^ 308 < 2 * 2 ^ 1024 := by exact_mod_cast ten_pow_lt_two_pow_1024
  exact (mul_le_mul_of_nonneg_left hle zero_le_three).trans_lt hlt

theorem ten_pow_lt_overflow (hn : n ≤ 308) : (10 : ℚ) ^ n < overflow := by
  have h := ten_pow_lt hn
  have hpow : (0 : ℚ) < 2 ^ (1024 : ℤ) := by positivity
  rw [overflow_eq]
  generalize (2 : ℚ) ^ (1024 : ℤ) = limit at *
  linarith

end Powers

/-! ## The parts -/

section Parts

variable {s n : ℕ}

/-- **A whole number times a power of ten** becomes a double a step away. -/
theorem exists_ofScientific (hs : 0 < s) (hn : n ≤ 308) (hlt : (s * 10 ^ n : ℚ) < overflow) :
    ∃ b, IsPositive (Float.ofScientific s false n) b ∧ Near 1 b.value (s * 10 ^ n) := by
  have hone : (1 : ℚ) ≤ s * 10 ^ n := by
    exact_mod_cast Nat.mul_pos hs (Nat.pow_pos (by decide) : 0 < 10 ^ n)
  have hleast := least_le_one.trans hone
  obtain ⟨b, hb, hsign, hpos, hcatches⟩ := exists_catches (underflow_lt hleast) hlt
  have hbits := hcatches.le_mantissa hb le_rfl hleast
  exact ⟨b, isPositive_ofScientific hs (by omega) hb hsign hpos hcatches,
    hcatches.near (by norm_num) (by omega)⟩

/-- **A power of ten as a double**, which is exact up to the one with 22
zeros. -/
theorem exists_powerOfTen (hn : n ≤ 308) : ∃ p, IsPositive (powerOfTen n) p ∧
    Near 1 p.value (10 ^ n) ∧ (n ≤ 22 → p.value = 10 ^ n) := by
  by_cases hsmall : n ≤ 22
  · have hpower := isPositive_exactlyRepresentable n (Nat.lt_succ_iff.mpr hsmall)
    have hvalue := value_powerBinary hsmall
    have hcatches : (powerBinary n).Catches ((1 : ℕ) * 10 ^ n) := by
      rw [Nat.cast_one, one_mul, ← hvalue]
      exact Binary.catches_value _
    have h := isPositive_ofScientific one_pos (by omega) hpower.isDouble rfl hpower.pos hcatches
    refine ⟨_, h, ?_, fun _ => hvalue⟩
    rw [hvalue]
    exact Near.refl (by positivity)
  · obtain ⟨p, hp, hnear⟩ := exists_ofScientific (n := n) one_pos hn (by
      rw [Nat.cast_one, one_mul]
      exact ten_pow_lt_overflow hn)
    rw [Nat.cast_one, one_mul] at hnear
    exact ⟨p, hp, hnear, fun h => absurd h hsmall⟩

/-- **A significand as a double**, which is exact if it has 53 bits. -/
theorem exists_significand (hs : 0 < s) (hlt : s < significandLimit) :
    ∃ a, IsPositive (Float.ofScientific s false 0) a ∧ Near 1 a.value s ∧
      (s < 2 ^ 53 → a.value = s) := by
  by_cases hsmall : s < 2 ^ 53
  · have hvalue := value_wholeBinary hs hsmall
    have hwhole := isPositive_toFloat hs hsmall
    have hcatches : (wholeBinary s).Catches (s * 10 ^ 0) := by
      rw [pow_zero, mul_one, ← hvalue]
      exact Binary.catches_value _
    have h := isPositive_ofScientific hs (Nat.zero_le _) hwhole.isDouble rfl hwhole.pos hcatches
    refine ⟨_, h, ?_, fun _ => hvalue⟩
    rw [hvalue]
    exact Near.refl (Nat.cast_nonneg s)
  · have hlt : (s : ℚ) < 2 ^ 64 := by exact_mod_cast hlt
    obtain ⟨a, ha, hnear⟩ := exists_ofScientific (n := 0) hs (Nat.zero_le _) (by
      have := two_pow_lt_overflow
      rw [pow_zero, mul_one]
      linarith)
    rw [pow_zero, mul_one] at hnear
    exact ⟨a, ha, hnear, fun h => absurd h hsmall⟩

end Parts

/-! ## The last rounding -/

/-- **What a scaled significand is before it is rounded for the last time**. -/
structure Approaches (s : ℕ) (e : ℤ) (v : ℚ) : Prop where
  /-- It is not far from the decimal. -/
  near : Near 7 v (s * 10 ^ e)
  /-- It is the decimal if both the significand and the power of ten are
  doubles. -/
  eq : s < 2 ^ 53 → e.natAbs ≤ 22 → v = s * 10 ^ e
  /-- The value is the double that catches it. -/
  scaleBy_eq : ∀ t b, IsPositive t b → b.Catches v →
    scaleBy (Float.ofScientific s false 0) e = some t

/-- **The quotient by the greatest power of ten** lacks two bits at most. -/
theorem quotient_bounds {s : ℕ} {q : ℚ} (hs : 0 < s) (hlt : s < significandLimit) (hq : 0 < q)
    (h : Near 2 q (s / 10 ^ 308)) : 2 ^ 50 * 2 ^ (-1074 : ℤ) ≤ q ∧ q < overflow := by
  have hs' : (1 : ℚ) ≤ s := by exact_mod_cast hs
  have hten : (0 : ℚ) < 10 ^ 308 := by positivity
  have hstep : step ^ 2 < 3 / 2 := by norm_num [step]
  obtain ⟨hup, hdown⟩ := h
  constructor
  · have hlimit : (2 : ℚ) ^ 50 * 2 ^ (-1074 : ℤ) = (2 ^ (1024 : ℤ))⁻¹ := by
      rw [← zpow_natCast, ← zpow_add₀ two_ne_zero, ← zpow_neg]
      rfl
    have htwo : (0 : ℚ) < 2 ^ (1024 : ℤ) := by positivity
    have hfar := ten_pow_lt (n := 308) le_rfl
    rw [hlimit, inv_le_iff_one_le_mul₀ htwo]
    rw [div_le_iff₀ hten] at hdown
    generalize (2 : ℚ) ^ (1024 : ℤ) = limit, (10 : ℚ) ^ 308 = ten at *
    calc 1 ≤ q * step ^ 2 * ten := hs'.trans hdown
      _ ≤ q * (3 / 2) * ten := by gcongr
      _ = q * (3 * ten / 2) := by ring
      _ ≤ q * limit := mul_le_mul_of_nonneg_left (by linarith) hq.le
  · have hsmall : (s : ℚ) / 10 ^ 308 ≤ s :=
      div_le_self (Nat.cast_nonneg s) (one_le_pow₀ (by norm_num))
    have hbound : (s : ℚ) < 2 ^ 64 := by exact_mod_cast hlt
    calc q ≤ s / 10 ^ 308 * step ^ 2 := hup
      _ ≤ 2 ^ 64 * (3 / 2) := mul_le_mul (hsmall.trans hbound.le) hstep.le
          (pow_nonneg step_pos.le _) (by positivity)
      _ ≤ 2 ^ 65 := by norm_num
      _ < overflow := two_pow_lt_overflow

section Scale

variable {s n : ℕ} (hs : 0 < s) (hlt : s < significandLimit)

include hs hlt

/-- **A power of ten is divided by.** -/
theorem exists_approaches_div (hpos : 0 < n) (hn : n ≤ 308) : ∃ v, Approaches s (-n) v := by
  obtain ⟨a, ha, hnear, ha_eq⟩ := exists_significand hs hlt
  obtain ⟨p, hp, hpnear, hp_eq⟩ := exists_powerOfTen hn
  have hdecimal : (s : ℚ) * 10 ^ (-n : ℤ) = s / 10 ^ n := by
    rw [zpow_neg, zpow_natCast, div_eq_mul_inv]
  have hs' : (0 : ℚ) < s := by exact_mod_cast hs
  have hten : (0 : ℚ) < 10 ^ n := by positivity
  have hvalue := Binary.value_pos ha.pos
  have hpower := Binary.value_pos hp.pos
  refine ⟨a.value / p.value, ⟨?_, fun hsmall hle => ?_, fun t b ht hcatches => ?_⟩⟩
  · rw [hdecimal]
    exact (hnear.div hpnear hvalue hs' hpower hten).mono (by norm_num)
      (div_pos hvalue hpower).le (div_pos hs' hten).le
  · rw [hdecimal, ha_eq hsmall, hp_eq (by simpa using hle)]
  · rw [scaleBy]
    simp only [Int.natAbs_neg, Int.natAbs_natCast]
    rw [if_pos (by omega), if_pos hn, div_eq_of_catches ha hp ht hcatches]

/-- **A large power of ten is divided by in two parts**, and the first quotient
is rounded too. -/
theorem exists_approaches_div_div (hlow : 308 < n) (hn : n ≤ 616) :
    ∃ v, Approaches s (-n) v := by
  obtain ⟨a, ha, hnear, -⟩ := exists_significand hs hlt
  obtain ⟨p, hp, hpnear, -⟩ := exists_powerOfTen (n := 308) le_rfl
  obtain ⟨r, hr, hrnear, -⟩ := exists_powerOfTen (n := n - 308) (by omega)
  have hdecimal : (s : ℚ) * 10 ^ (-n : ℤ) = s / 10 ^ 308 / 10 ^ (n - 308) := by
    rw [zpow_neg, zpow_natCast, div_div, ← pow_add, Nat.add_sub_cancel' hlow.le, div_eq_mul_inv]
  have hs' : (0 : ℚ) < s := by exact_mod_cast hs
  have hten : (0 : ℚ) < 10 ^ 308 := by positivity
  have hten' : (0 : ℚ) < 10 ^ (n - 308) := by positivity
  have hvalue := Binary.value_pos ha.pos
  have hpower := Binary.value_pos hp.pos
  have hquotient := hnear.div hpnear hvalue hs' hpower hten
  obtain ⟨hleast, hgreatest⟩ := quotient_bounds hs hlt (div_pos hvalue hpower) hquotient
  obtain ⟨q, hq, hsign, hpos, hcatches⟩ := exists_catches (underflow_lt hleast) hgreatest
  have hbits := hcatches.le_mantissa hq (by norm_num) hleast
  have hqnear := (hcatches.near (n := 4) (by norm_num) (by omega)).trans hquotient
  have hpack := isPositive_pack hq hsign hpos
  refine ⟨q.value / r.value, ⟨?_, fun _ hle => by omega, fun t b ht hcaught => ?_⟩⟩
  · rw [hdecimal]
    exact hqnear.div hrnear (Binary.value_pos hpos) (div_pos hs' hten) (Binary.value_pos hr.pos)
      hten'
  · rw [scaleBy]
    simp only [Int.natAbs_neg, Int.natAbs_natCast]
    rw [if_pos (by omega), if_neg (by omega), Nat.min_eq_left (by omega),
      div_eq_of_catches ha hp hpack hcatches, div_eq_of_catches hpack hr ht hcaught]

/-- **A power of ten is multiplied with.** -/
theorem exists_approaches_mul (hn : n ≤ 308) : ∃ v, Approaches s n v := by
  obtain ⟨a, ha, hnear, ha_eq⟩ := exists_significand hs hlt
  obtain ⟨p, hp, hpnear, hp_eq⟩ := exists_powerOfTen hn
  have hvalue := (Binary.value_pos ha.pos).le
  have hpower := (Binary.value_pos hp.pos).le
  have hten : (0 : ℚ) ≤ 10 ^ n := by positivity
  refine ⟨a.value * p.value, ⟨?_, fun hsmall hle => ?_, fun t b ht hcatches => ?_⟩⟩
  · rw [zpow_natCast]
    exact (hnear.mul hpnear hvalue (Nat.cast_nonneg s) hpower hten).mono (by norm_num)
      (mul_nonneg hvalue hpower) (mul_nonneg (Nat.cast_nonneg s) hten)
  · rw [zpow_natCast, ha_eq hsmall, hp_eq (by simpa using hle)]
  · rw [scaleBy]
    simp only [Int.natAbs_natCast]
    rw [if_neg (by omega), ha.beq_zero, if_neg Bool.false_ne_true, if_pos hn,
      mul_eq_of_catches ha hp ht hcatches, ht.isInf, if_neg Bool.false_ne_true]

end Scale

/-! ## Decimals of doubles -/

section Double

variable {b : Binary} {s : ℕ} {e : ℤ} {d v : ℚ}

/-- **The power of ten of a decimal** that a double catches. -/
theorem exponent_bounds (hb : b.IsDouble) (hpos : 0 < b.mantissa) (hs : 0 < s)
    (hlt : s < significandLimit) (h : b.Catches (s * 10 ^ e)) : -616 ≤ e ∧ e ≤ 308 := by
  have hten : (1 : ℚ) ≤ 10 := by norm_num
  have hpow : (0 : ℚ) < 10 ^ e := by positivity
  constructor
  · by_contra hsmall
    have hbound : (s : ℚ) ≤ 2 ^ 64 := by exact_mod_cast (le_of_lt hlt : s ≤ 2 ^ 64)
    have hle : (10 : ℚ) ^ e ≤ 10 ^ (-1141 * 30103 / 100000 : ℤ) :=
      zpow_le_zpow_right₀ hten (by omega)
    have htwo := ten_zpow_le (p := -1141) (by norm_num) (by norm_num)
    have hless : (s : ℚ) * 10 ^ e < underflow := calc
      (s : ℚ) * 10 ^ e ≤ 2 ^ 64 * 2 ^ (-1141 + 1 : ℤ) :=
        mul_le_mul hbound (hle.trans htwo) hpow.le (by norm_num)
      _ = 2 ^ (64 - 1140 : ℤ) := by
        rw [zpow_sub₀ two_ne_zero, div_eq_mul_inv, ← zpow_neg]
        rfl
      _ < 2 ^ (-1074 - 1 : ℤ) := zpow_lt_zpow_right₀ one_lt_two (by norm_num)
      _ = underflow := zpow_sub_one₀ two_ne_zero _
    exact absurd (h.underflow_le hb hpos) hless.not_ge
  · by_contra hlarge
    have hone : (1 : ℚ) ≤ s := by exact_mod_cast hs
    have hle : (10 : ℚ) ^ (1025 * 30103 / 100000 + 1 : ℤ) ≤ 10 ^ e :=
      zpow_le_zpow_right₀ hten (by omega)
    have htwo := le_ten_zpow (p := 1025) (by norm_num) (by norm_num)
    have hmore : overflow < s * 10 ^ e := calc
      overflow = 2 ^ (1024 : ℤ) * (1 - 1 / 2 ^ 54) := overflow_eq
      _ < 2 ^ (1024 : ℤ) * 1 := mul_lt_mul_of_pos_left (by norm_num) (by positivity)
      _ = 2 ^ (1025 - 1 : ℤ) := mul_one _
      _ ≤ 1 * 10 ^ e := by rw [one_mul]; exact htwo.trans hle
      _ ≤ s * 10 ^ e := mul_le_mul_of_nonneg_right hone hpow.le
    exact absurd (h.le_overflow hb) hmore.not_ge

/-- **What a scaled significand is before it is rounded for the last time**, if
its decimal is caught by a double. -/
theorem exists_approaches (hb : b.IsDouble) (hpos : 0 < b.mantissa) (hs : 0 < s)
    (hlt : s < significandLimit) (h : b.Catches (s * 10 ^ e)) : ∃ v, Approaches s e v := by
  obtain ⟨hlow, hhigh⟩ := exponent_bounds hb hpos hs hlt h
  obtain ⟨n, rfl | rfl⟩ := e.eq_nat_or_neg
  · exact exists_approaches_mul hs hlt (by omega)
  · obtain rfl | hn := n.eq_zero_or_pos
    · exact exists_approaches_mul hs hlt (Nat.zero_le 308)
    · by_cases hle : n ≤ 308
      · exact exists_approaches_div hs hlt hn hle
      · exact exists_approaches_div_div hs hlt (not_le.mp hle) (by omega)

/-- **A significand and a power of ten that are doubles themselves** are scaled
to the very double that catches the decimal. -/
theorem scaleBy_eq_of_catches {x : Float} (hx : IsPositive x b) (hs : 0 < s) (hsmall : s < 2 ^ 53)
    (he : e.natAbs ≤ 22) (h : b.Catches (s * 10 ^ e)) :
    scaleBy (Float.ofScientific s false 0) e = some x := by
  have hlt : s < significandLimit := hsmall.trans (by decide)
  obtain ⟨v, hv⟩ := exists_approaches hx.isDouble hx.pos hs hlt h
  rw [← hv.eq hsmall he] at h
  exact hv.scaleBy_eq x b hx h

theorem step_pow_lt : step ^ 7 < 1 + 1 / 2 ^ 49 := by
  norm_num [step]

/-- **The last rounding does not lead to zero**, unless it is next to the least
double. -/
theorem underflow_lt_of_near (hb : b.IsDouble) (hd : b.Catches d) (hleast : 2 ≤ b.mantissa)
    (h : Near 7 v d) : underflow < v := by
  have hthree : 3 * underflow ≤ d := by
    have hlow := hd.le_of_le_mantissa hb.le_exponent two_pos hleast
    rw [Nat.cast_two] at hlow
    rw [underflow]
    linarith
  have hpos := underflow_pos
  have hpow := pow_nonneg step_pos.le 7
  have hdown := h.2
  have hv : 0 ≤ v := by
    by_contra hneg
    have := mul_nonpos_of_nonpos_of_nonneg (not_le.mp hneg).le hpow
    linarith
  have := mul_le_mul_of_nonneg_left step_pow_lt.le hv
  linarith

/-- **The last rounding does not lead to infinity**, unless it is next to the
greatest double. -/
theorem lt_overflow_of_near (hb : b.IsDouble) (hd : b.Catches d)
    (hgreatest : b.exponent < 971 ∨ b.mantissa + 16 < 2 ^ 53) (h : Near 7 v d) : v < overflow := by
  have hunit : (0 : ℚ) < 2 ^ (971 : ℤ) := by positivity
  have hless : d ≤ (2 ^ 53 - 16 - 1 / 2) * 2 ^ (971 : ℤ) := by
    rcases hgreatest with hexponent | hmantissa
    · have hhigh := hd.le_of_mantissa_lt (Int.le_sub_one_of_lt hexponent) hb.mantissa_lt
      rw [zpow_sub_one₀ two_ne_zero, Nat.cast_pow, Nat.cast_ofNat] at hhigh
      generalize (2 : ℚ) ^ (971 : ℤ) = unit at *
      linarith
    · have hhigh := hd.le_of_mantissa_lt hb.exponent_le (Nat.lt_sub_of_add_lt hmantissa)
      norm_num at hhigh ⊢
      exact hhigh
  calc v ≤ d * step ^ 7 := h.1
    _ ≤ (2 ^ 53 - 16 - 1 / 2) * 2 ^ (971 : ℤ) * (1 + 1 / 2 ^ 49) :=
      mul_le_mul hless step_pow_lt.le (pow_nonneg step_pos.le 7)
        (mul_nonneg (by norm_num) hunit.le)
    _ = (2 ^ 53 - 16 - 1 / 2) * (1 + 1 / 2 ^ 49) * 2 ^ (971 : ℤ) := by ring
    _ < overflow := mul_lt_mul_of_pos_right (by norm_num) hunit

/-- What is near to a double with all bits does not lack many. -/
theorem le_of_near_value (hb : b.IsDouble) (hfull : 2 ^ 52 ≤ b.mantissa) (hv : 0 < v)
    (h : Near 8 v b.value) : 2 ^ 50 * 2 ^ (-1074 : ℤ) ≤ v := by
  have hmantissa : (2 : ℚ) ^ 52 ≤ b.mantissa := by exact_mod_cast hfull
  have hunit : (2 : ℚ) ^ (-1074 : ℤ) ≤ 2 ^ b.exponent :=
    zpow_le_zpow_right₀ one_le_two hb.le_exponent
  refine le_of_mul_le_mul_right ?_ (zero_lt_four (α := ℚ))
  calc (2 : ℚ) ^ 50 * 2 ^ (-1074 : ℤ) * 4 = 2 ^ 52 * 2 ^ (-1074 : ℤ) := by ring
    _ ≤ b.value := mul_le_mul hmantissa hunit (by positivity) (Nat.cast_nonneg _)
    _ ≤ v * step ^ 8 := h.2
    _ ≤ v * 4 := mul_le_mul_of_nonneg_left (by norm_num [step]) hv.le

/-- **How far a scaled decimal is from the double that catches it**, if this one
is not next to the least or the greatest. -/
theorem exists_scaleBy (hb : b.IsDouble) (hs : 0 < s) (hlt : s < significandLimit)
    (h : b.Catches (s * 10 ^ e)) (hleast : 2 ≤ b.mantissa)
    (hgreatest : b.exponent < 971 ∨ b.mantissa + 16 < 2 ^ 53) :
    ∃ t c, IsPositive t c ∧ scaleBy (Float.ofScientific s false 0) e = some t ∧
      (2 ^ 52 ≤ b.mantissa → Near 12 c.value b.value) := by
  obtain ⟨v, hv⟩ := exists_approaches hb (by omega) hs hlt h
  have hlow := underflow_lt_of_near hb h hleast hv.near
  have hhigh := lt_overflow_of_near hb h hgreatest hv.near
  obtain ⟨c, hc, hsign, hpos, hcatches⟩ := exists_catches hlow hhigh
  have hpack := isPositive_pack hc hsign hpos
  refine ⟨_, c, hpack, hv.scaleBy_eq _ c hpack hcatches, fun hfull => ?_⟩
  have hdecimal := hv.near.trans (h.near (n := 1) (by norm_num) (by omega)).symm
  have hbits := hcatches.le_mantissa hc (by norm_num)
    (le_of_near_value hb hfull (underflow_pos.trans hlow) hdecimal)
  exact (hcatches.near (n := 4) (by norm_num) (by omega)).trans hdecimal

end Double

end SoundSheet.Json
