import Mathlib.Tactic.Ring
import SoundSheet.Proofs.Decimal.Rounding

/-!
# Products and quotients of doubles

A double is read as an exact binary fraction from its bits, and it is computed
with in an unpacked form. The two forms say the same (`unpack_eq`,
`ofFloat_pack`), and so a product or quotient of positive doubles is the double
that catches the exact product or quotient (`mul_eq_of_catches`,
`div_eq_of_catches`).
-/

namespace SoundSheet.Decimal

open Float.Model Float.Model.UnpackedFloat

/-! ## Bits -/

section Bits

variable {x y : Float} {b : Binary}

/-- What a double stands for, by the three parts of its bits. -/
theorem ofFloat_eq (x : Float) : Reading.ofFloat x =
    if x.toBits.toNat / 2 ^ 52 % 2 ^ 11 = 2047 then
      if x.toBits.toNat % 2 ^ 52 = 0 then .infinite (decide (2 ^ 63 ≤ x.toBits.toNat)) else .nan
    else if x.toBits.toNat / 2 ^ 52 % 2 ^ 11 = 0 then
      .finite ⟨decide (2 ^ 63 ≤ x.toBits.toNat), x.toBits.toNat % 2 ^ 52, -1074⟩
    else
      .finite ⟨decide (2 ^ 63 ≤ x.toBits.toNat), 2 ^ 52 + x.toBits.toNat % 2 ^ 52,
        Int.ofNat (x.toBits.toNat / 2 ^ 52 % 2 ^ 11) - 1075⟩ :=
  rfl

/-- **The bits of a finite double**: the sign, an exponent that is not the
greatest, and a fraction, which has a further bit in front unless the exponent
is zero. -/
theorem ofFloat_eq_finite_iff :
    Reading.ofFloat x = .finite b ↔ ∃ exponent fraction : ℕ, exponent < 2047 ∧ fraction < 2 ^ 52 ∧
      x.toBits.toNat = 2 ^ 63 * b.negative.toNat + 2 ^ 52 * exponent + fraction ∧
      b.mantissa = (if exponent = 0 then fraction else 2 ^ 52 + fraction) ∧
      b.exponent = (if exponent = 0 then -1074 else (exponent : ℤ) - 1075) := by
  have hlt : x.toBits.toNat < 2 ^ 64 := x.toBits.toNat_lt
  obtain ⟨negative, mantissa, power⟩ := b
  rw [ofFloat_eq]
  generalize x.toBits.toNat = bits at hlt
  dsimp only
  constructor
  · intro h
    have hnegative : bits / 2 ^ 63 = (decide (2 ^ 63 ≤ bits)).toNat := by
      by_cases hbit : 2 ^ 63 ≤ bits
      · rw [decide_eq_true hbit, Bool.toNat_true]
        omega
      · rw [decide_eq_false hbit, Bool.toNat_false]
        omega
    split at h
    · split at h <;> cases h
    · next hfinite =>
      refine ⟨bits / 2 ^ 52 % 2 ^ 11, bits % 2 ^ 52, by omega, by omega, ?_⟩
      split at h
      · next hzero =>
        cases h
        refine ⟨by rw [← hnegative]; omega, (if_pos hzero).symm, (if_pos hzero).symm⟩
      · next hzero =>
        cases h
        refine ⟨by rw [← hnegative]; omega, (if_neg hzero).symm, (if_neg hzero).symm⟩
  · rintro ⟨exponent, fraction, hexponent, hfraction, rfl, hmantissa, hpower⟩
    have hexp : (2 ^ 63 * negative.toNat + 2 ^ 52 * exponent + fraction) / 2 ^ 52 % 2 ^ 11
        = exponent := by
      omega
    have hfrac : (2 ^ 63 * negative.toNat + 2 ^ 52 * exponent + fraction) % 2 ^ 52 = fraction := by
      omega
    have hnegative : decide (2 ^ 63 ≤ 2 ^ 63 * negative.toNat + 2 ^ 52 * exponent + fraction)
        = negative := by
      cases negative with
      | false => exact decide_eq_false (by simp only [Bool.toNat_false]; omega)
      | true => exact decide_eq_true (by simp only [Bool.toNat_true]; omega)
    rw [hexp, hfrac, hnegative, if_neg (by omega), hmantissa, hpower]
    by_cases hzero : exponent = 0
    · simp only [if_pos hzero]
    · simp only [if_neg hzero]
      rfl

theorem isDouble_of_ofFloat (h : Reading.ofFloat x = .finite b) : b.IsDouble := by
  obtain ⟨exponent, fraction, hexponent, hfraction, -, hmantissa, hpower⟩ :=
    ofFloat_eq_finite_iff.mp h
  by_cases hzero : exponent = 0
  · rw [if_pos hzero] at hmantissa hpower
    exact ⟨by omega, by omega, by omega, by omega⟩
  · rw [if_neg hzero] at hmantissa hpower
    exact ⟨by omega, by omega, by omega, by omega⟩

/-- **A finite double is what it stands for.** -/
theorem eq_of_ofFloat (hx : Reading.ofFloat x = .finite b) (hy : Reading.ofFloat y = .finite b) :
    x = y := by
  obtain ⟨exponent, fraction, -, hfraction, hbits, hmantissa, hpower⟩ :=
    ofFloat_eq_finite_iff.mp hx
  obtain ⟨exponent', fraction', -, hfraction', hbits', hmantissa', hpower'⟩ :=
    ofFloat_eq_finite_iff.mp hy
  have heq : exponent = exponent' ∧ fraction = fraction' := by
    rw [hmantissa] at hmantissa'
    rw [hpower] at hpower'
    split_ifs at hmantissa' hpower' <;> omega
  have hsame : x.toBits = y.toBits :=
    UInt64.toNat_inj.mp (by rw [hbits, hbits', heq.1, heq.2])
  obtain ⟨⟨xbits, _⟩⟩ := x
  obtain ⟨⟨ybits, _⟩⟩ := y
  obtain rfl : xbits = ybits := hsame
  rfl

end Bits

theorem toNat_packComponents (exponent : BitVec 11) (fraction : BitVec 52) :
    (packComponents .binary64 .positive exponent fraction).toNat
      = 2 ^ 52 * exponent.toNat + fraction.toNat := by
  have hexponent := exponent.isLt
  have hfraction := fraction.isLt
  rw [packComponents, BitVec.toNat_append, BitVec.toNat_append,
    ← Nat.shiftLeft_add_eq_or_of_lt hexponent, ← Nat.shiftLeft_add_eq_or_of_lt hfraction,
    Nat.shiftLeft_eq, Nat.shiftLeft_eq]
  show (0 * _ + _) * _ + _ = _
  ring

theorem toNat_unpackExponent (bits : BitVec 64) :
    (@unpackExponent .binary64 bits).toNat = bits.toNat / 2 ^ 52 % 2 ^ 11 := by
  show (bits.extractLsb' 52 11).toNat = _
  simp [Nat.shiftRight_eq_div_pow]

theorem toNat_unpackMantissa (bits : BitVec 64) :
    (@unpackMantissa .binary64 bits).toNat = bits.toNat % 2 ^ 52 := by
  show (bits.extractLsb' 0 52).toNat = _
  simp

theorem toNat_unpackSign (bits : BitVec 64) :
    (@unpackSign .binary64 bits).toNat = bits.toNat / 2 ^ 63 % 2 := by
  show (bits.extractLsb' 63 1).toNat = _
  simp [Nat.shiftRight_eq_div_pow]

/-! ## The unpacked form -/

section Unpacked

variable {x : Float} {b : Binary}

/-- **A positive double as it is packed.** -/
theorem ofFloat_pack (hb : b.IsDouble) (hsign : b.negative = false) (hpos : 0 < b.mantissa) :
    Reading.ofFloat (.ofModel (pack (.finite .positive b.mantissa b.exponent hpos)))
      = .finite b := by
  have hleast := hb.le_exponent
  have hgreatest := hb.exponent_le
  have hmantissa := hb.mantissa_lt
  have hnormal := hb.normal
  have hbits : (Float.ofModel (pack (.finite .positive b.mantissa b.exponent hpos))).toBits.toNat
      = (if 2 ^ 11 ≤ (b.exponent + (1023 : ℕ) + (52 : ℕ)).toNat + 1 then
          packedInfinity .binary64 .positive
        else if b.mantissa.log2 + 1 = 53 then
          packComponents .binary64 .positive
            (BitVec.ofNat 11 (b.exponent + (1023 : ℕ) + (52 : ℕ)).toNat)
            (BitVec.ofNat 52 b.mantissa)
        else packComponents .binary64 .positive 0#11 (BitVec.ofNat 52 b.mantissa)).toNat := rfl
  have hbit : b.mantissa.log2 + 1 = 53 ↔ 2 ^ 52 ≤ b.mantissa := by
    rw [← Nat.le_log2 hpos.ne']
    have := (Nat.log2_lt hpos.ne').mpr hmantissa
    omega
  rw [ofFloat_eq_finite_iff, hbits, hsign, if_neg (by omega)]
  by_cases hfull : 2 ^ 52 ≤ b.mantissa
  · rw [if_pos (hbit.mpr hfull), toNat_packComponents, BitVec.toNat_ofNat, BitVec.toNat_ofNat]
    refine ⟨(b.exponent + 1075).toNat, b.mantissa - 2 ^ 52, by omega, by omega, ?_, ?_, ?_⟩
    · rw [Bool.toNat_false]
      omega
    · rw [if_neg (by omega)]
      omega
    · rw [if_neg (by omega)]
      omega
  · rw [if_neg (hbit.not.mpr hfull), toNat_packComponents, BitVec.toNat_ofNat]
    refine ⟨0, b.mantissa, by omega, by omega, ?_, (if_pos rfl).symm, ?_⟩
    · show 2 ^ 52 * 0 + b.mantissa % 2 ^ 52 = _
      rw [Bool.toNat_false]
      omega
    · rw [if_pos rfl]
      omega

/-- The sign of a sign bit. -/
def signOf (negative : Bool) : Sign :=
  if negative then .negative else .positive

theorem ofBitVec_unpackSign (bits : BitVec 64) :
    Sign.ofBitVec (@unpackSign .binary64 bits) = signOf (decide (2 ^ 63 ≤ bits.toNat)) := by
  have hlt : bits.toNat < 2 ^ 64 := bits.isLt
  have hbit : @unpackSign .binary64 bits = 0#1 ↔ ¬2 ^ 63 ≤ bits.toNat := by
    rw [BitVec.toNat_eq, toNat_unpackSign]
    show _ = 0 ↔ _
    omega
  rw [Sign.ofBitVec, signOf]
  by_cases hnegative : 2 ^ 63 ≤ bits.toNat
  · rw [decide_eq_true hnegative, if_pos rfl, if_neg (hbit.not.mpr (not_not.mpr hnegative))]
  · rw [decide_eq_false hnegative, if_neg Bool.false_ne_true, if_pos (hbit.mpr hnegative)]

/-- **What a double stands for, unpacked**: the zeros are apart from the other
finite ones. -/
def Reading.unpacked : Reading → UnpackedFloat
  | .nan => .notANumber
  | .infinite negative => .infinity (signOf negative)
  | .finite b =>
    if h : b.mantissa = 0 then .zero (signOf b.negative)
    else .finite (signOf b.negative) b.mantissa b.exponent (Nat.pos_of_ne_zero h)

/-- **A double is unpacked into what it stands for.** -/
theorem unpack_eq (x : Float) : x.toModel.unpack = (Reading.ofFloat x).unpacked := by
  have hvalue : x.toBits.toNat = x.toModel.toBits.toBitVec.toNat := rfl
  rw [Float.Model.unpack, ofFloat_eq, hvalue]
  generalize x.toModel.toBits.toBitVec = bits
  have hexponent := toNat_unpackExponent bits
  have hfraction := toNat_unpackMantissa bits
  have hgreatest :
      @unpackExponent .binary64 bits = -1#_ ↔ bits.toNat / 2 ^ 52 % 2 ^ 11 = 2047 := by
    rw [BitVec.toNat_eq, hexponent]
    rfl
  have hleast : @unpackExponent .binary64 bits = 0#_ ↔ bits.toNat / 2 ^ 52 % 2 ^ 11 = 0 := by
    rw [BitVec.toNat_eq, hexponent]
    rfl
  have hzero : @unpackMantissa .binary64 bits = 0#_ ↔ bits.toNat % 2 ^ 52 = 0 := by
    rw [BitVec.toNat_eq, hfraction]
    rfl
  have hsign := ofBitVec_unpackSign bits
  have hbias : ((Format.binary64.exponentBias : ℤ)
      + (Format.binary64.mantissaBitsWithoutImplicit : ℤ)) = 1075 := rfl
  delta UnpackedFloat.unpack
  by_cases hinfinite : bits.toNat / 2 ^ 52 % 2 ^ 11 = 2047
  · -- An infinity, or no number.
    rw [if_pos (hgreatest.mpr hinfinite), if_pos hinfinite, hsign]
    by_cases hnothing : bits.toNat % 2 ^ 52 = 0
    · rw [if_pos (hzero.mpr hnothing), if_pos hnothing]
      rfl
    · rw [if_neg (hzero.not.mpr hnothing), if_neg hnothing]
      rfl
  rw [if_neg (hgreatest.not.mpr hinfinite), if_neg hinfinite]
  by_cases hsubnormal : bits.toNat / 2 ^ 52 % 2 ^ 11 = 0
  · -- A zero, or a number that lacks bits.
    rw [if_pos (hleast.mpr hsubnormal), if_pos hsubnormal, Reading.unpacked]
    by_cases hnull : bits.toNat % 2 ^ 52 = 0
    · rw [dif_pos (hzero.mpr hnull), dif_pos hnull, hsign]
    · rw [dif_neg (hzero.not.mpr hnull), dif_neg hnull, UnpackedFloat.finite.injEq, hsign,
        hfraction, hexponent, hsubnormal, hbias]
      exact ⟨rfl, rfl, rfl⟩
  · have happend :
        (1#1 ++ @unpackMantissa .binary64 bits).toNat = 2 ^ 52 + bits.toNat % 2 ^ 52 := by
      rw [BitVec.toNat_append, ← Nat.shiftLeft_add_eq_or_of_lt (BitVec.isLt _), hfraction]
      rfl
    have hpos : ¬2 ^ 52 + bits.toNat % 2 ^ 52 = 0 := by omega
    rw [if_neg (hleast.not.mpr hsubnormal), if_neg hsubnormal, Reading.unpacked, dif_neg hpos,
      UnpackedFloat.finite.injEq, hsign, happend, hexponent, hbias]
    exact ⟨rfl, rfl, rfl⟩

end Unpacked

/-! ## Products and quotients -/

/-- **A positive double** and the fraction that it is. -/
structure IsPositive (x : Float) (b : Binary) : Prop where
  /-- It is finite. -/
  ofFloat : Reading.ofFloat x = .finite b
  /-- It is not negative. -/
  negative : b.negative = false
  /-- It is not zero. -/
  pos : 0 < b.mantissa

section Arithmetic

variable {x y t : Float} {a b c : Binary}

theorem IsPositive.unpack (h : IsPositive x b) :
    x.toModel.unpack = .finite .positive b.mantissa b.exponent h.pos := by
  rw [unpack_eq, h.ofFloat, Reading.unpacked, dif_neg h.pos.ne', h.negative]
  rfl

theorem IsPositive.ofModel_pack (h : IsPositive x b) :
    Float.ofModel (pack (.finite .positive b.mantissa b.exponent h.pos)) = x :=
  eq_of_ofFloat (ofFloat_pack (isDouble_of_ofFloat h.ofFloat) h.negative h.pos) h.ofFloat

theorem IsPositive.isDouble (h : IsPositive x b) : b.IsDouble :=
  isDouble_of_ofFloat h.ofFloat

/-- Every fraction of the right form is a double. -/
theorem isPositive_pack (hb : b.IsDouble) (hsign : b.negative = false) (hpos : 0 < b.mantissa) :
    IsPositive (.ofModel (pack (.finite .positive b.mantissa b.exponent hpos))) b :=
  ⟨ofFloat_pack hb hsign hpos, hsign, hpos⟩

/-- **A finite number above zero is a positive double.** -/
theorem exists_isPositive (hfinite : x.isFinite = true) (hx : 0 < x) : ∃ b, IsPositive x b := by
  have hfinite : x.toModel.unpack.isFinite = true := hfinite
  have hlt : UnpackedFloat.lt (.zero .positive) x.toModel.unpack = true := of_decide_eq_true hx
  rw [unpack_eq] at hfinite hlt
  cases hreading : Reading.ofFloat x with
  | nan => rw [hreading] at hfinite; cases hfinite
  | infinite negative => rw [hreading] at hfinite; cases hfinite
  | finite b =>
    rw [hreading, Reading.unpacked] at hlt
    by_cases hzero : b.mantissa = 0
    · rw [dif_pos hzero] at hlt
      cases hlt
    · rw [dif_neg hzero] at hlt
      refine ⟨b, hreading, ?_, Nat.pos_of_ne_zero hzero⟩
      cases hnegative : b.negative with
      | false => rfl
      | true => rw [hnegative] at hlt; cases hlt

theorem IsPositive.isFinite (h : IsPositive x b) : x.isFinite = true := by
  show x.toModel.unpack.isFinite = true
  rw [h.unpack]
  rfl

theorem IsPositive.isInf (h : IsPositive x b) : x.isInf = false := by
  show x.toModel.unpack.isInf = false
  rw [h.unpack]
  rfl

theorem IsPositive.not_le_zero (h : IsPositive x b) : ¬x ≤ 0 := by
  intro hle
  have hle : UnpackedFloat.le x.toModel.unpack (.zero .positive) = true := of_decide_eq_true hle
  rw [h.unpack] at hle
  cases hle

theorem IsPositive.beq_zero (h : IsPositive x b) : (x == 0) = false := by
  show UnpackedFloat.beq x.toModel.unpack (.zero .positive) = false
  rw [h.unpack]
  rfl

/-- **The product of doubles** is the double that catches the exact product. -/
theorem mul_eq_of_catches (hx : IsPositive x a) (hy : IsPositive y c) (ht : IsPositive t b)
    (h : b.Catches (a.value * c.value)) : x * y = t := by
  have hbits : a.exponent + c.exponent ≤
      max (((a.mantissa * c.mantissa).log2 : ℤ) + (a.exponent + c.exponent) - 52) (-1074) := by
    by_cases hleast : a.exponent = -1074 ∧ c.exponent = -1074
    · omega
    · -- One of the mantissas has all bits, and so the product does.
      have hfull : 2 ^ 52 ≤ a.mantissa * c.mantissa := by
        have := hx.isDouble.le_exponent
        have := hy.isDouble.le_exponent
        rcases not_and_or.mp hleast with hne | hne
        · exact (hx.isDouble.normal (by omega)).trans (Nat.le_mul_of_pos_right _ hy.pos)
        · exact (hy.isDouble.normal (by omega)).trans (Nat.le_mul_of_pos_left _ hx.pos)
      have := (Nat.le_log2 (Nat.mul_pos hx.pos hy.pos).ne').mpr hfull
      omega
  have hvalue : a.value * c.value
      = (a.mantissa * c.mantissa : ℕ) * 2 ^ (a.exponent + c.exponent) := by
    rw [Binary.value, Binary.value, zpow_add₀ two_ne_zero]
    push_cast
    ring
  rw [hvalue] at h
  show Float.ofModel (pack (UnpackedFloat.mul .binary64 x.toModel.unpack y.toModel.unpack)) = t
  rw [hx.unpack, hy.unpack]
  show Float.ofModel (pack (roundWithAccuracy .binary64 .positive (a.mantissa * c.mantissa)
    (a.exponent + c.exponent) .exact)) = t
  rw [roundWithAccuracy_of_catches ht.isDouble ht.pos (tells_exact _) hbits h]
  exact ht.ofModel_pack

/-- **The division of mantissas** shifts the dividend until the quotient has all
bits, or stands at the least exponent. -/
theorem exists_divCore {m₁ m₂ : ℕ} (e₁ e₂ : ℤ) (h₁ : 0 < m₁) (h₂ : 0 < m₂) :
    ∃ (s : ℕ) (e : ℤ), s + e = e₁ - e₂ ∧ divCore .binary64 m₁ e₁ m₂ e₂
        = (m₁ * 2 ^ s / m₂, e, accuracyOfFraction (m₁ * 2 ^ s % m₂) m₂)
      ∧ e ≤ max (((m₁ * 2 ^ s / m₂).log2 : ℤ) + e - 52) (-1074) := by
  have htarget : Format.binary64.targetExponent (totalExponent m₁ e₁ - totalExponent m₂ e₂)
      = max ((m₁.log2 : ℤ) - m₂.log2 + (e₁ - e₂) - 53) (-1074) := by
    show max ((m₁.log2 + 1 + e₁) - (m₂.log2 + 1 + e₂) - 53 : ℤ) (-1074) = _
    omega
  obtain ⟨e, he⟩ : ∃ e, e = min (e₁ - e₂)
      (max ((m₁.log2 : ℤ) - m₂.log2 + (e₁ - e₂) - 53) (-1074)) := ⟨_, rfl⟩
  obtain ⟨s, hs⟩ : ∃ s : ℕ, s = (e₁ - e₂ - e).toNat := ⟨_, rfl⟩
  refine ⟨s, e, by omega, ?_, ?_⟩
  · rw [divCore, htarget, ← he, ← hs, Nat.shiftLeft_eq]
  · by_cases hleast : e ≤ -1074
    · omega
    · have hshift : m₂.log2 + 1 + 52 ≤ m₁.log2 + s := by omega
      have hfull : 2 ^ 52 * m₂ ≤ m₁ * 2 ^ s := calc
        2 ^ 52 * m₂ ≤ 2 ^ 52 * 2 ^ (m₂.log2 + 1) := Nat.mul_le_mul_left _ Nat.lt_log2_self.le
        _ = 2 ^ (m₂.log2 + 1 + 52) := by rw [← pow_add, Nat.add_comm]
        _ ≤ 2 ^ (m₁.log2 + s) := Nat.pow_le_pow_right two_pos hshift
        _ = 2 ^ m₁.log2 * 2 ^ s := pow_add 2 _ _
        _ ≤ m₁ * 2 ^ s := Nat.mul_le_mul_right _ (Nat.log2_self_le h₁.ne')
      have hquotient : 2 ^ 52 ≤ m₁ * 2 ^ s / m₂ := (Nat.le_div_iff_mul_le h₂).mpr hfull
      have := (Nat.le_log2 (by omega : m₁ * 2 ^ s / m₂ ≠ 0)).mpr hquotient
      omega

/-- **The quotient of doubles** is the double that catches the exact
quotient. -/
theorem div_eq_of_catches (hx : IsPositive x a) (hy : IsPositive y c) (ht : IsPositive t b)
    (h : b.Catches (a.value / c.value)) : x / y = t := by
  obtain ⟨s, e, hexponent, hcore, hbits⟩ := exists_divCore a.exponent c.exponent hx.pos hy.pos
  have hvalue : a.value / c.value = (a.mantissa * 2 ^ s : ℕ) / c.mantissa * 2 ^ e := by
    have hpos : (0 : ℚ) < c.mantissa := by exact_mod_cast hy.pos
    have hpow : (2 : ℚ) ^ a.exponent = 2 ^ s * 2 ^ e * 2 ^ c.exponent := by
      rw [← zpow_natCast, ← zpow_add₀ two_ne_zero, ← zpow_add₀ two_ne_zero]
      congr 1
      omega
    rw [Binary.value, Binary.value, hpow]
    push_cast
    field_simp
  rw [hvalue] at h
  show Float.ofModel (pack (UnpackedFloat.div .binary64 x.toModel.unpack y.toModel.unpack)) = t
  have hdiv : UnpackedFloat.div .binary64 (.finite .positive a.mantissa a.exponent hx.pos)
      (.finite .positive c.mantissa c.exponent hy.pos) = roundWithAccuracy .binary64 .positive
        (divCore .binary64 a.mantissa a.exponent c.mantissa c.exponent).1
        (divCore .binary64 a.mantissa a.exponent c.mantissa c.exponent).2.1
        (divCore .binary64 a.mantissa a.exponent c.mantissa c.exponent).2.2 := rfl
  rw [hx.unpack, hy.unpack, hdiv, hcore]
  dsimp only
  rw [roundWithAccuracy_of_catches ht.isDouble ht.pos (tells_fraction hy.pos) hbits h]
  exact ht.ofModel_pack

end Arithmetic

/-! ## Whole numbers -/

/-- **A whole number below `2 ^ 53` as a double**. -/
def wholeBinary (m : ℕ) : Binary :=
  ⟨false, m * 2 ^ (52 - m.log2), m.log2 - 52⟩

section Whole

variable {m : ℕ} (hpos : 0 < m) (hlt : m < 2 ^ 53)

include hpos hlt

theorem log2_le_of_lt : m.log2 ≤ 52 :=
  Nat.lt_succ_iff.mp ((Nat.log2_lt hpos.ne').mpr hlt)

theorem mantissa_wholeBinary :
    2 ^ 52 ≤ (wholeBinary m).mantissa ∧ (wholeBinary m).mantissa < 2 ^ 53 := by
  have hlog := log2_le_of_lt hpos hlt
  constructor
  · calc
      2 ^ 52 = 2 ^ m.log2 * 2 ^ (52 - m.log2) := by rw [← pow_add, Nat.add_sub_cancel' hlog]
      _ ≤ m * 2 ^ (52 - m.log2) := Nat.mul_le_mul_right _ (Nat.log2_self_le hpos.ne')
  · calc
      m * 2 ^ (52 - m.log2) < 2 ^ (m.log2 + 1) * 2 ^ (52 - m.log2) :=
        Nat.mul_lt_mul_of_pos_right Nat.lt_log2_self (Nat.two_pow_pos _)
      _ = 2 ^ 53 := by
        rw [← pow_add]
        congr 1
        omega

theorem isDouble_wholeBinary : (wholeBinary m).IsDouble := by
  have hlog := log2_le_of_lt hpos hlt
  obtain ⟨hle, hlt⟩ := mantissa_wholeBinary hpos hlt
  have hexponent : (wholeBinary m).exponent = m.log2 - 52 := rfl
  exact ⟨hlt, by omega, by omega, fun _ => hle⟩

theorem value_wholeBinary : (wholeBinary m).value = m := by
  have hlog := log2_le_of_lt hpos hlt
  have hpow : (2 : ℚ) ^ ((m.log2 : ℤ) - 52) = (2 ^ (52 - m.log2))⁻¹ := by
    rw [← zpow_natCast, ← zpow_neg, Nat.cast_sub hlog]
    congr 1
    push_cast
    ring
  show ((m * 2 ^ (52 - m.log2) : ℕ) : ℚ) * 2 ^ ((m.log2 : ℤ) - 52) = m
  rw [hpow]
  push_cast
  field_simp

/-- A whole number is rounded to itself. -/
theorem round_wholeBinary (hmantissa : 0 < (wholeBinary m).mantissa) :
    UnpackedFloat.round .binary64 .positive m 0
      = .finite .positive (wholeBinary m).mantissa (wholeBinary m).exponent hmantissa := by
  have hlog := log2_le_of_lt hpos hlt
  have hfull := (Nat.le_log2 hmantissa.ne').mpr (mantissa_wholeBinary hpos hlt).1
  have hshift : decreaseExponent m 0 (max ((m.log2 : ℤ) + 0 - 52) (-1074))
      = ((wholeBinary m).mantissa, (wholeBinary m).exponent) := by
    have hamount : (0 - max ((m.log2 : ℤ) + 0 - 52) (-1074)).toNat = 52 - m.log2 := by omega
    rw [decreaseExponent, hamount, Nat.shiftLeft_eq]
    refine Prod.ext rfl ?_
    show (0 : ℤ) - (52 - m.log2 : ℕ) = m.log2 - 52
    omega
  rw [UnpackedFloat.round, targetExponent_totalExponent, hshift]
  dsimp only
  refine roundWithAccuracy_of_catches (isDouble_wholeBinary hpos hlt) hmantissa (tells_exact _)
    (by omega) ?_ .positive
  exact Binary.catches_value (wholeBinary m)

/-- **Whole numbers become doubles as they are.** -/
theorem isPositive_toFloat : IsPositive m.toUInt64.toFloat (wholeBinary m) := by
  obtain ⟨hle, -⟩ := mantissa_wholeBinary hpos hlt
  have hmantissa : 0 < (wholeBinary m).mantissa := by omega
  have hsame : m.toUInt64.toNat = m := UInt64.toNat_ofNat_of_lt' (by
    show m < 2 ^ 64
    omega)
  have hround : UnpackedFloat.ofUInt64 .binary64 m.toUInt64
      = .finite .positive (wholeBinary m).mantissa (wholeBinary m).exponent hmantissa := by
    rw [UnpackedFloat.ofUInt64, hsame, UnpackedFloat.ofNat, UnpackedFloat.ofInt,
      UnpackedFloat.normalize, compare_gt_iff_gt.mpr (by omega : (m : ℤ) > 0)]
    exact round_wholeBinary hpos hlt hmantissa
  refine ⟨?_, rfl, hmantissa⟩
  show Reading.ofFloat (.ofModel (pack (UnpackedFloat.ofUInt64 .binary64 m.toUInt64))) = _
  rw [hround]
  exact ofFloat_pack (isDouble_wholeBinary hpos hlt) rfl hmantissa

end Whole

/-! ## Decimals -/

/-- **A small power of ten as a double**: a power of five, which has few enough
bits, times a power of two. -/
def powerBinary (n : ℕ) : Binary :=
  ⟨false, (wholeBinary (5 ^ n)).mantissa, (wholeBinary (5 ^ n)).exponent + n⟩

theorem value_powerBinary {n : ℕ} (hn : n ≤ 22) : (powerBinary n).value = 10 ^ n := by
  have hlt : 5 ^ n < 2 ^ 53 := (Nat.pow_le_pow_right (by decide) hn).trans_lt (by norm_num)
  have hfive := value_wholeBinary (Nat.pow_pos (by decide)) hlt
  rw [Binary.value] at hfive
  show (wholeBinary (5 ^ n)).mantissa * (2 : ℚ) ^ ((wholeBinary (5 ^ n)).exponent + n) = 10 ^ n
  rw [zpow_add₀ two_ne_zero, ← mul_assoc, hfive, zpow_natCast]
  push_cast
  rw [← mul_pow]
  norm_num

theorem isPositive_exactlyRepresentable : ∀ n (h : n < Float.exactlyRepresentablePowersOfTen.size),
    IsPositive Float.exactlyRepresentablePowersOfTen[n] (powerBinary n) := by
  have htable : ∀ n (h : n < Float.exactlyRepresentablePowersOfTen.size),
      Reading.ofFloat Float.exactlyRepresentablePowersOfTen[n] = .finite (powerBinary n) ∧
        0 < (powerBinary n).mantissa := by
    decide +kernel
  exact fun n h => ⟨(htable n h).1, rfl, (htable n h).2⟩

/-- **A whole number times a power of ten** is the double that catches it. -/
theorem isPositive_ofScientific {m n : ℕ} {b : Binary} (hm : 0 < m) (hn : n ≤ 2048)
    (hb : b.IsDouble) (hsign : b.negative = false) (hpos : 0 < b.mantissa)
    (h : b.Catches (m * 10 ^ n)) : IsPositive (Float.ofScientific m false n) b := by
  have hpack := isPositive_pack hb hsign hpos
  rw [Float.ofScientific]
  split
  · next hsmall =>
    -- Both are doubles themselves.
    obtain ⟨hlt, hle⟩ := hsmall
    rw [← value_powerBinary hle, ← value_wholeBinary hm hlt] at h
    have hproduct := mul_eq_of_catches (isPositive_toFloat hm hlt)
      (isPositive_exactlyRepresentable n (Nat.lt_succ_iff.mpr hle)) hpack h
    exact (congrArg (IsPositive · b) hproduct).mpr hpack
  · have hnotlarge : ¬(n : ℤ) > 2 ^ Format.binary64.exponentBits := by
      show ¬(n : ℤ) > 2 ^ 11
      omega
    have hscaled : UnpackedFloat.ofScientific .binary64 m n
        = .finite .positive b.mantissa b.exponent hpos := by
      have hmantissa : m <<< Format.binary64.mantissaBits * 10 ^ (n : ℤ).toNat
          = m * 10 ^ n * 2 ^ 53 := by
        rw [Nat.shiftLeft_eq, Int.toNat_natCast]
        exact Nat.mul_right_comm m _ _
      rw [UnpackedFloat.ofScientific, dif_neg hm.ne', if_neg hnotlarge, if_neg (by omega),
        if_pos (Int.natCast_nonneg n)]
      show roundWithAccuracy .binary64 .positive
        (m <<< Format.binary64.mantissaBits * 10 ^ (n : ℤ).toNat) (-53) .exact = _
      rw [hmantissa]
      refine roundWithAccuracy_of_catches hb hpos (tells_exact _) ?_ ?_ _
      · have hfull : 2 ^ 52 ≤ m * 10 ^ n * 2 ^ 53 := by
          have := Nat.mul_pos hm (Nat.pow_pos (by decide : 0 < 10) : 0 < 10 ^ n)
          omega
        have := (Nat.le_log2 (by omega)).mpr hfull
        omega
      · have hvalue : ((m * 10 ^ n * 2 ^ 53 : ℕ) : ℚ) * 2 ^ (-53 : ℤ) = m * 10 ^ n := by
          rw [Nat.cast_mul, mul_assoc]
          norm_num
        rwa [hvalue]
    show IsPositive (.ofModel (pack (UnpackedFloat.ofScientific .binary64 m n))) b
    rw [hscaled]
    exact hpack

end SoundSheet.Decimal
