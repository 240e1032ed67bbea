import Mathlib.Tactic.Ring
import SoundSheet.Proofs.Decimal.Rounding

/-!
# The shortest decimal lies in the interval

The digits of a number are found by a search on ever finer grids of powers of
ten, twenty at most. It never comes to an end without a hit: on the last grid
the decimal next above the number is not yet half way to the next double. So the
shortest decimal of a double is one that the double catches
(`catches_shortest`), and one with a significand of less than 64 bits
(`significand_shortest_lt`).
-/

namespace SoundSheet.Decimal

/-- The magnitude of a decimal. -/
def Digits.value (d : Digits) : ℚ :=
  d.significand * 10 ^ d.exponent

/-! ## Powers of two and of ten -/

section Powers

variable {p : ℤ}

theorem two_pow_lt_ten_pow : 2 ^ 100000 < 10 ^ 30103 := by
  decide +kernel

theorem ten_pow_lt_two_pow : 10 ^ 30103 < 2 ^ 100001 := by
  decide +kernel

/-- **Powers of ten between powers of two.** As `10 ^ 30103` is between
`2 ^ 100000` and the next power of two, so many powers of it are not far off
either. -/
theorem ten_zpow_bounds (hlow : -100000 ≤ p) (hhigh : p ≤ 100000) :
    (2 : ℚ) ^ (100000 * (p - 1)) ≤ 10 ^ (30103 * p) ∧
      (10 : ℚ) ^ (30103 * p) ≤ 2 ^ (100000 * (p + 1)) := by
  have hle (n : ℕ) : (2 : ℚ) ^ (100000 * (n : ℤ)) ≤ 10 ^ (30103 * (n : ℤ)) := by
    rw [zpow_mul, zpow_mul, zpow_natCast, zpow_natCast]
    exact pow_le_pow_left₀ (by positivity) (by exact_mod_cast two_pow_lt_ten_pow.le) n
  have hge (n : ℕ) : (10 : ℚ) ^ (30103 * (n : ℤ)) ≤ 2 ^ (100001 * (n : ℤ)) := by
    rw [zpow_mul, zpow_mul, zpow_natCast, zpow_natCast]
    exact pow_le_pow_left₀ (by positivity) (by exact_mod_cast ten_pow_lt_two_pow.le) n
  have hmono {i j : ℤ} (h : i ≤ j) : (2 : ℚ) ^ i ≤ 2 ^ j := zpow_le_zpow_right₀ one_le_two h
  obtain ⟨n, rfl | rfl⟩ := p.eq_nat_or_neg
  · exact ⟨(hmono (by omega)).trans (hle n), (hge n).trans (hmono (by omega))⟩
  · have hten : (10 : ℚ) ^ (30103 * -(n : ℤ)) = (10 ^ (30103 * (n : ℤ)))⁻¹ := by
      rw [mul_neg, zpow_neg]
    rw [hten]
    constructor
    · refine le_trans ?_ (inv_anti₀ (by positivity) (hge n))
      rw [← zpow_neg]
      exact hmono (by omega)
    · refine (inv_anti₀ (by positivity) (hle n)).trans ?_
      rw [← zpow_neg]
      exact hmono (by omega)

/-- **The power of ten below a power of two** is not more than twice as
large. -/
theorem ten_zpow_le (hlow : -100000 ≤ p) (hhigh : p ≤ 100000) :
    (10 : ℚ) ^ (p * 30103 / 100000) ≤ 2 ^ (p + 1) := by
  have hexponent : p * 30103 / 100000 * 100000 ≤ 30103 * p := by omega
  refine le_of_pow_le_pow_left₀ (n := 100000) (by norm_num) (by positivity) ?_
  calc ((10 : ℚ) ^ (p * 30103 / 100000)) ^ 100000
      = 10 ^ (p * 30103 / 100000 * 100000) := by rw [← zpow_natCast, ← zpow_mul]; rfl
    _ ≤ 10 ^ (30103 * p) := zpow_le_zpow_right₀ (by norm_num) hexponent
    _ ≤ 2 ^ (100000 * (p + 1)) := (ten_zpow_bounds hlow hhigh).2
    _ = ((2 : ℚ) ^ (p + 1)) ^ 100000 := by
      rw [← zpow_natCast, ← zpow_mul, mul_comm]; rfl

/-- **The next power of ten** is not less than half of it. -/
theorem le_ten_zpow (hlow : -100000 ≤ p) (hhigh : p ≤ 100000) :
    (2 : ℚ) ^ (p - 1) ≤ 10 ^ (p * 30103 / 100000 + 1) := by
  have hexponent : 30103 * p ≤ (p * 30103 / 100000 + 1) * 100000 := by omega
  refine le_of_pow_le_pow_left₀ (n := 100000) (by norm_num) (by positivity) ?_
  calc ((2 : ℚ) ^ (p - 1)) ^ 100000
      = 2 ^ (100000 * (p - 1)) := by rw [← zpow_natCast, ← zpow_mul, mul_comm]; rfl
    _ ≤ 10 ^ (30103 * p) := (ten_zpow_bounds hlow hhigh).1
    _ ≤ 10 ^ ((p * 30103 / 100000 + 1) * 100000) :=
      zpow_le_zpow_right₀ (by norm_num) hexponent
    _ = ((10 : ℚ) ^ (p * 30103 / 100000 + 1)) ^ 100000 := by
      rw [← zpow_natCast, ← zpow_mul]; rfl

end Powers

/-! ## Grids -/

section Grid

variable {b : Binary} {k : ℤ} {d : ℕ}

/-- The powers that the interval of a double is scaled with on a grid. -/
theorem quarters_eq (b : Binary) (d : ℕ) (k : ℤ) :
    4 * (d * 10 ^ k : ℚ) / 2 ^ b.exponent * (2 ^ (b.exponent - 2).toNat * 10 ^ (-k).toNat)
      = d * (2 ^ (2 - b.exponent).toNat * 10 ^ k.toNat) := by
  have htwo : (4 : ℚ) * 2 ^ (b.exponent - 2).toNat
      = 2 ^ b.exponent * 2 ^ (2 - b.exponent).toNat := by
    rw [← zpow_natCast, ← zpow_natCast, ← zpow_add₀ two_ne_zero,
      show (4 : ℚ) = 2 ^ (2 : ℤ) by norm_num, ← zpow_add₀ two_ne_zero]
    congr 1
    omega
  have hten : (10 : ℚ) ^ k * 10 ^ (-k).toNat = 10 ^ k.toNat := by
    rw [← zpow_natCast, ← zpow_natCast, ← zpow_add₀ (by norm_num)]
    congr 1
    omega
  calc 4 * (d * 10 ^ k : ℚ) / 2 ^ b.exponent * (2 ^ (b.exponent - 2).toNat * 10 ^ (-k).toNat)
      = d * (4 * 2 ^ (b.exponent - 2).toNat) * (10 ^ k * 10 ^ (-k).toNat) / 2 ^ b.exponent := by
        ring
    _ = d * (2 ^ (2 - b.exponent).toNat * 10 ^ k.toNat) := by
      rw [htwo, hten]
      field_simp

theorem cast_mul_den (b : Binary) (d : ℕ) (k : ℤ) :
    ((d * (b.interval.inUnits k).den : ℕ) : ℚ) = 4 * (d * 10 ^ k : ℚ) / 2 ^ b.exponent
      * (2 ^ (b.exponent - 2).toNat * 10 ^ (-k).toNat) := by
  have hden : (b.interval.inUnits k).den = 2 ^ (2 - b.exponent).toNat * 10 ^ k.toNat := rfl
  rw [quarters_eq, hden]
  push_cast
  rfl

/-- **A point of a grid lies in the interval** of a double if the double catches
it. -/
theorem holds_inUnits_iff (hpos : 0 < b.mantissa) :
    (b.interval.inUnits k).holds d = true ↔ b.Catches (d * 10 ^ k) := by
  have hscale : (0 : ℚ) < 2 ^ (b.exponent - 2).toNat * 10 ^ (-k).toNat := by positivity
  have hbelow : b.below ≤ 4 * b.mantissa := by
    rw [Binary.below]
    split <;> omega
  have hlow : ((b.interval.inUnits k).low : ℚ)
      = (4 * b.mantissa - b.below) * (2 ^ (b.exponent - 2).toNat * 10 ^ (-k).toNat) := by
    have hnat : (b.interval.inUnits k).low
        = (4 * b.mantissa - b.below) * 2 ^ (b.exponent - 2).toNat * 10 ^ (-k).toNat := rfl
    rw [hnat]
    push_cast [hbelow]
    ring
  have hhigh : ((b.interval.inUnits k).high : ℚ)
      = (4 * b.mantissa + 2) * (2 ^ (b.exponent - 2).toNat * 10 ^ (-k).toNat) := by
    have hnat : (b.interval.inUnits k).high
        = (4 * b.mantissa + 2) * 2 ^ (b.exponent - 2).toNat * 10 ^ (-k).toNat := rfl
    rw [hnat]
    push_cast
    ring
  have hpoint := cast_mul_den b d k
  have hclosed : (b.interval.inUnits k).closed = (b.mantissa % 2 == 0) := rfl
  rw [Interval.holds, Binary.Catches, hclosed]
  generalize b.interval.inUnits k = i at hlow hhigh hpoint
  by_cases heven : b.mantissa % 2 = 0
  · rw [if_pos heven, if_pos (beq_iff_eq.mpr heven), Bool.and_eq_true, decide_eq_true_iff,
      decide_eq_true_iff, ← @Nat.cast_le ℚ, ← @Nat.cast_le ℚ, hlow, hhigh, hpoint,
      mul_le_mul_iff_of_pos_right hscale, mul_le_mul_iff_of_pos_right hscale]
  · rw [if_neg heven, if_neg (fun h => heven (beq_iff_eq.mp h)), Bool.and_eq_true,
      decide_eq_true_iff, decide_eq_true_iff, ← @Nat.cast_lt ℚ, ← @Nat.cast_lt ℚ,
      hlow, hhigh, hpoint, mul_lt_mul_iff_of_pos_right hscale,
      mul_lt_mul_iff_of_pos_right hscale]

end Grid

/-! ## The search -/

namespace Interval

variable {tie : Tie} {i : Interval} {d n : ℕ} {k : ℤ}

/-- **What is found on a grid** lies in the interval. -/
theorem holds_of_nearest? (h : i.nearest? tie = some d) : i.holds d = true := by
  unfold nearest? at h
  dsimp only at h
  generalize compare (2 * i.mid) ((2 * (i.mid / i.den) + 1) * i.den) = order at h
  cases hlow : i.holds (i.mid / i.den) with
  | false =>
    cases hhigh : i.holds (i.mid / i.den + 1) with
    | false =>
      rw [hlow, hhigh] at h
      cases h
    | true =>
      rw [hlow, hhigh] at h
      exact Option.some.inj h ▸ hhigh
  | true =>
    cases hhigh : i.holds (i.mid / i.den + 1) with
    | false =>
      rw [hlow, hhigh] at h
      exact Option.some.inj h ▸ hlow
    | true =>
      rw [hlow, hhigh] at h
      have hd : d = i.mid / i.den ∨ d = i.mid / i.den + 1 := by
        cases order <;> cases tie <;> simp only [Option.some.injEq] at h
        all_goals first | omega | (split_ifs at h <;> omega)
      rcases hd with rfl | rfl
      · exact hlow
      · exact hhigh

/-- Something is found if the next point above the number lies in the
interval. -/
theorem nearest?_ne_none (h : i.holds (i.mid / i.den + 1) = true) : i.nearest? tie ≠ none := by
  unfold nearest?
  dsimp only
  rw [h]
  generalize compare (2 * i.mid) ((2 * (i.mid / i.den) + 1) * i.den) = order
  cases i.holds (i.mid / i.den) with
  | false => exact Option.some_ne_none _
  | true => cases order <;> cases tie <;> exact Option.some_ne_none _

/-- **What the search finds**, if there is anything to be found on its grids: a
point in the interval, on the coarsest grid that has one. -/
theorem search_spec (h : ∃ j < n, (i.inUnits (k - j)).nearest? tie ≠ none) :
    (i.inUnits (i.search tie n k).exponent).holds (i.search tie n k).significand = true ∧
      ((i.search tie n k).exponent = k ∨
        (i.inUnits ((i.search tie n k).exponent + 1)).nearest? tie = none) := by
  induction n generalizing k with
  | zero =>
    obtain ⟨j, hj, -⟩ := h
    exact absurd hj (Nat.not_lt_zero j)
  | succ n ih =>
    rw [search]
    cases hfound : (i.inUnits k).nearest? tie with
    | some d => exact ⟨holds_of_nearest? hfound, .inl rfl⟩
    | none =>
      obtain ⟨j, hj, hne⟩ := h
      obtain _ | j := j
      · rw [Nat.cast_zero, sub_zero] at hne
        exact absurd hfound hne
      · obtain ⟨hholds, hcoarsest⟩ := ih (k := k - 1) ⟨j, Nat.lt_of_succ_lt_succ hj, by
          rwa [sub_sub, ← Nat.cast_one, ← Nat.cast_add, Nat.add_comm 1 j]⟩
        refine ⟨hholds, .inr ?_⟩
        rcases hcoarsest with heq | hnone
        · rw [heq, sub_add_cancel]
          exact hfound
        · exact hnone

end Interval

/-! ## The shortest decimal -/

section Shortest

variable {b : Binary} {k : ℤ}

/-- **On a fine grid something is found**: the next point above the number. -/
theorem nearest?_ne_none_of_fine (hpos : 0 < b.mantissa) (hk : 2 * (10 : ℚ) ^ k < 2 ^ b.exponent)
    (tie : Tie) : (b.interval.inUnits k).nearest? tie ≠ none := by
  refine Interval.nearest?_ne_none ((holds_inUnits_iff hpos).mpr ?_)
  have hscale : (0 : ℚ) < 2 ^ (b.exponent - 2).toNat * 10 ^ (-k).toNat := by positivity
  have hmid : ((b.interval.inUnits k).mid : ℚ)
      = 4 * b.mantissa * (2 ^ (b.exponent - 2).toNat * 10 ^ (-k).toNat) := by
    have hnat : (b.interval.inUnits k).mid
        = 4 * b.mantissa * 2 ^ (b.exponent - 2).toNat * 10 ^ (-k).toNat := rfl
    rw [hnat]
    push_cast
    ring
  have hden : 0 < (b.interval.inUnits k).den :=
    Nat.mul_pos (Nat.pow_pos two_pos) (Nat.pow_pos (by decide))
  have hfloor := cast_mul_den b ((b.interval.inUnits k).mid / (b.interval.inUnits k).den) k
  have hnext := cast_mul_den b ((b.interval.inUnits k).mid / (b.interval.inUnits k).den + 1) k
  have hle := Nat.div_mul_le_self (b.interval.inUnits k).mid (b.interval.inUnits k).den
  have hlt := Nat.lt_mul_div_succ (b.interval.inUnits k).mid hden
  rw [Nat.mul_comm] at hlt
  rw [← @Nat.cast_le ℚ, hfloor, hmid, mul_le_mul_iff_of_pos_right hscale] at hle
  rw [← @Nat.cast_lt ℚ, hnext, hmid, mul_lt_mul_iff_of_pos_right hscale] at hlt
  have hstep : 4 * (10 : ℚ) ^ k / 2 ^ b.exponent < 2 := by
    rw [div_lt_iff₀ (by positivity)]
    linarith
  refine Binary.catches_of_lt (by linarith [b.below_pos]) ?_
  push_cast at hle ⊢
  rw [add_mul, one_mul, mul_add, add_div]
  linarith

section Search

variable (hb : b.IsDouble) (hpos : 0 < b.mantissa) (tie : Tie)

include hb hpos

/-- **The search has a hit.** -/
theorem search_shortest :
    (b.interval.inUnits (b.shortest tie).exponent).holds (b.shortest tie).significand = true ∧
      ((b.shortest tie).exponent = (b.mantissa.log2 + b.exponent) * 30103 / 100000 + 1 ∨
        (b.interval.inUnits ((b.shortest tie).exponent + 1)).nearest? tie = none) := by
  refine Interval.search_spec ⟨19, by decide, nearest?_ne_none_of_fine hpos ?_ tie⟩
  have hbits := hb.log2_le hpos
  have hleast := hb.le_exponent
  have hgreatest := hb.exponent_le
  generalize hp : (b.mantissa.log2 : ℤ) + b.exponent = p
  have hten := ten_zpow_le (p := p) (by omega) (by omega)
  have htwo : (2 : ℚ) ^ (p + 1) ≤ 2 ^ (53 + b.exponent) :=
    zpow_le_zpow_right₀ one_le_two (by omega)
  have hunit : (0 : ℚ) < 2 ^ b.exponent := by positivity
  have hlast : p * 30103 / 100000 + 1 - (19 : ℕ) = p * 30103 / 100000 - (18 : ℕ) := by omega
  rw [hlast, zpow_sub₀ (by norm_num), zpow_natCast]
  rw [zpow_add₀ two_ne_zero 53] at htwo
  norm_num at htwo ⊢
  linarith

/-- **The shortest decimal is caught** by its double, -/
theorem catches_shortest : b.Catches (b.shortest tie).value :=
  (holds_inUnits_iff hpos).mp (search_shortest hb hpos tie).1

/-- and its significand has less than 64 bits. -/
theorem significand_shortest_lt : (b.shortest tie).significand < 2 ^ 63 := by
  obtain ⟨hholds, hcoarsest⟩ := search_shortest hb hpos tie
  have hcaught := ((holds_inUnits_iff hpos).mp hholds).le.2
  generalize (b.shortest tie).significand = d, (b.shortest tie).exponent = k at *
  have hunit : (0 : ℚ) < 2 ^ b.exponent := by positivity
  rw [div_le_iff₀ hunit] at hcaught
  have hmantissa : (b.mantissa : ℚ) + 1 ≤ 2 ^ 53 := by exact_mod_cast hb.mantissa_lt
  -- A unit in the last place is not much larger than the grid.
  have hgrid : (2 : ℚ) ^ b.exponent ≤ 20 * 10 ^ k := by
    rcases hcoarsest with rfl | hnone
    · have hbits := hb.log2_le hpos
      have hleast := hb.le_exponent
      have hgreatest := hb.exponent_le
      have hten := le_ten_zpow (p := b.mantissa.log2 + b.exponent) (by omega) (by omega)
      have htwo : (2 : ℚ) ^ (b.exponent - 1) ≤ 2 ^ (b.mantissa.log2 + b.exponent - 1) :=
        zpow_le_zpow_right₀ one_le_two (by omega)
      rw [zpow_sub_one₀ two_ne_zero b.exponent] at htwo
      linarith
    · have hcoarse : ¬2 * (10 : ℚ) ^ (k + 1) < 2 ^ b.exponent :=
        fun h => nearest?_ne_none_of_fine hpos h tie hnone
      rw [zpow_add_one₀ (by norm_num), not_lt] at hcoarse
      linarith
  have hpow : (0 : ℚ) < 10 ^ k := by positivity
  have hbound : (d : ℚ) < 2 ^ 63 := by
    refine lt_of_mul_lt_mul_right ?_ hpow.le
    calc (d : ℚ) * 10 ^ k ≤ (b.mantissa + 1) * 2 ^ b.exponent := by linarith
      _ ≤ 2 ^ 53 * (20 * 10 ^ k) := mul_le_mul hmantissa hgrid hunit.le (by positivity)
      _ < 2 ^ 63 * 10 ^ k := by linarith
  exact_mod_cast hbound

end Search

end Shortest

end SoundSheet.Decimal
