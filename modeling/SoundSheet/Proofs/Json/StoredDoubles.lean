import SoundSheet.Proofs.Json.Numbers
import SoundSheet.Proofs.Json.Scaling

/-!
# Stored doubles are read back

A positive double is stored as its shortest decimal, and read by scaling the
significand of this decimal by its power of ten. Both parts are rounded to
doubles first. Where they are doubles themselves, what is read is the double
that was stored (`reread_eq`). In general it is some positive double
(`exists_reread`), and a normal one changes by less than one part in `10 ^ 14`.
-/

namespace SoundSheet.Json

open SoundSheet.Decimal

/-! ## Reading -/

section Read

variable {s rest : List Char} {d : Digits} {n : Numeral}

/-- A numeral does not begin with blanks. -/
theorem skipBlanks_of_readNumeral (h : readNumeral s = some (n, rest)) : skipBlanks s = s := by
  cases s with
  | nil => rfl
  | cons c s =>
    refine skipBlanks_cons (Bool.eq_false_iff.mpr fun hblank => ?_) s
    have hminus : takeMinus (c :: s) = (false, c :: s) := by
      unfold takeMinus
      split
      · next heq =>
        rw [(List.cons.inj heq).1] at hblank
        exact absurd hblank (by decide)
      · rfl
    have hdigit : c.isDigit = false := by
      simp only [isBlank, Bool.or_eq_true, beq_iff_eq] at hblank
      rcases hblank with ((rfl | rfl) | rfl) | rfl <;> rfl
    have hhead : ∀ c' ∈ (c :: s).head?, c'.isDigit = false := by
      rintro _ ⟨⟩
      exact hdigit
    have hdigits : takeDigits Char.isDigit (c :: s) = ([], c :: s) :=
      takeDigits_append_of_head? (List.forall_mem_nil _) hhead
    rw [readNumeral, hminus] at h
    dsimp only at h
    rw [hdigits] at h
    cases h

/-- **A text that is read as a decimal** has the value of its significand,
scaled. -/
theorem readNumber_of_readsAs (h : ReadsAs s d) (hlt : d.significand < significandLimit) :
    readNumber s
      = (scaleBy (Float.ofScientific d.significand false 0) d.exponent).map (·, []) := by
  obtain ⟨n, hread, hnegative, hsignificand, hscale⟩ := h
  rw [← hsignificand] at hlt
  rw [readNumber, skipBlanks_of_readNumeral hread, hread, ← hsignificand, ← hscale,
    ← numberValue?_eq hnegative hlt]
  show (numberValue? n).bind (fun x => some (x, [])) = _
  rw [Option.map_eq_bind]
  rfl

theorem value_asStored (d : Digits) : (asStored d).value = d.value := by
  rw [asStored]
  split
  · next hwhole =>
    obtain ⟨e, he⟩ := Int.eq_ofNat_of_zero_le hwhole.1
    rw [Digits.value, Digits.value, he]
    show ((d.significand * 10 ^ (e + 1) : ℕ) : ℚ) * 10 ^ (-1 : ℤ) = _ * 10 ^ (e : ℤ)
    rw [zpow_natCast]
    push_cast
    rw [pow_succ]
    field_simp
  · rfl

theorem significand_asStored_pos (h : 0 < d.significand) : 0 < (asStored d).significand := by
  rw [asStored]
  split
  · exact Nat.mul_pos h (Nat.pow_pos (by decide))
  · exact h

theorem significand_asStored_lt (h : d.significand < 2 ^ 63) :
    (asStored d).significand < significandLimit := by
  rw [asStored]
  split
  · next hwhole =>
    obtain ⟨hnonneg, hlength⟩ := hwhole
    have hdigits : (digitsOf d.significand).length ≤ 16 - d.exponent.toNat := by omega
    have hpos := List.length_pos_of_ne_nil (Address.digitsOf_ne_nil d.significand)
    have hlt := (Nat.length_toDigits_le_iff (by decide) (by omega)).mp hdigits
    calc d.significand * 10 ^ (d.exponent.toNat + 1)
        < 10 ^ (16 - d.exponent.toNat) * 10 ^ (d.exponent.toNat + 1) :=
          Nat.mul_lt_mul_of_pos_right hlt (Nat.pow_pos (by decide))
      _ = 10 ^ 17 := by
        rw [← pow_add]
        congr 1
        omega
      _ < significandLimit := by decide
  · exact h.trans (by decide)

end Read

/-! ## Doubles -/

/-- **The decimal that a stored double is read as**. -/
def storedDigits (b : Binary) : Digits :=
  asStored (b.shortest .even)

/-- **The double that is read where one is stored**. -/
def reread (b : Binary) : Option Float :=
  scaleBy (Float.ofScientific (storedDigits b).significand false 0) (storedDigits b).exponent

section Doubles

variable {b : Binary} {x : Float}

section Digits

variable (hb : b.IsDouble) (hpos : 0 < b.mantissa)

include hb hpos

theorem catches_storedDigits :
    b.Catches ((storedDigits b).significand * 10 ^ (storedDigits b).exponent) := by
  have h := catches_shortest hb hpos .even
  rwa [← value_asStored] at h

theorem significand_shortest_pos : 0 < (b.shortest .even).significand := by
  by_contra hzero
  have h := (catches_shortest hb hpos .even).underflow_le hb hpos
  rw [Digits.value, Nat.eq_zero_of_not_pos hzero, Nat.cast_zero, zero_mul] at h
  exact absurd h underflow_pos.not_ge

theorem significand_storedDigits_lt : (storedDigits b).significand < significandLimit :=
  significand_asStored_lt (significand_shortest_lt hb hpos .even)

end Digits

/-- **What is read where a positive double is stored.** -/
theorem readNumber_write (h : IsPositive x b) :
    readNumber (stored.write x) = (reread b).map (·, []) := by
  have hwrite : stored.write x = stored.writeDigits (b.shortest .even) := by
    rw [Style.write, h.ofFloat]
    dsimp only
    rw [h.negative, if_neg Bool.false_ne_true, List.nil_append, Style.writeMagnitude,
      if_neg h.pos.ne']
    rfl
  rw [hwrite]
  exact readNumber_of_readsAs (readsAs_stored (significand_shortest_pos h.isDouble h.pos))
    (significand_storedDigits_lt h.isDouble h.pos)

/-- **A double is read back** if the significand and the power of ten of its
decimal are doubles themselves. -/
theorem reread_eq (h : IsPositive x b) (hsmall : (storedDigits b).significand < 2 ^ 53)
    (hpower : (storedDigits b).exponent.natAbs ≤ 22) : reread b = some x :=
  scaleBy_eq_of_catches h
    (significand_asStored_pos (significand_shortest_pos h.isDouble h.pos)) hsmall hpower
    (catches_storedDigits h.isDouble h.pos)

theorem reread_least :
    (reread ⟨false, 1, -1074⟩).map Reading.ofFloat = some (.finite ⟨false, 1, -1074⟩) := by
  decide +kernel

theorem reread_greatest : ∀ k < 16, ∃ j < 2,
    (reread ⟨false, 2 ^ 53 - 1 - k, 971⟩).map Reading.ofFloat
      = some (.finite ⟨false, 2 ^ 53 - 1 - k + j, 971⟩) := by
  decide +kernel

/-- A unit in the last place is a step. -/
theorem near_next {m j : ℕ} {e : ℤ} (hfull : 2 ^ 52 ≤ m) (hj : j ≤ 1) :
    Near 1 (Binary.value ⟨false, m + j, e⟩) (Binary.value ⟨false, m, e⟩) := by
  have hfull : (2 : ℚ) ^ 52 ≤ m := by exact_mod_cast hfull
  have hj : (j : ℚ) ≤ 1 := by exact_mod_cast hj
  have hunit : (0 : ℚ) ≤ 2 ^ e := by positivity
  have hnonneg : (0 : ℚ) ≤ j := Nat.cast_nonneg j
  have hup : (m + j : ℚ) ≤ m * step := by
    rw [step]
    linarith
  have hdown : (m : ℚ) ≤ (m + j) * step := by
    have := mul_le_mul_of_nonneg_left one_le_step (by linarith : (0 : ℚ) ≤ m + j)
    linarith
  rw [Near, Binary.value, Binary.value, Nat.cast_add, pow_one,
    mul_right_comm _ _ step, mul_right_comm _ _ step]
  exact ⟨mul_le_mul_of_nonneg_right hup hunit, mul_le_mul_of_nonneg_right hdown hunit⟩

/-- **A stored double is read as a positive double**, and a normal one hardly
changes. -/
theorem exists_reread (h : IsPositive x b) : ∃ t c, IsPositive t c ∧ reread b = some t ∧
    (2 ^ 52 ≤ b.mantissa → Near 12 c.value b.value) := by
  have hmantissa := h.isDouble.mantissa_lt
  obtain ⟨negative, m, e⟩ := b
  obtain rfl : negative = false := h.negative
  by_cases hleast : 2 ≤ m
  · by_cases hgreatest : e < 971 ∨ m + 16 < 2 ^ 53
    · exact exists_scaleBy h.isDouble
        (significand_asStored_pos (significand_shortest_pos h.isDouble h.pos))
        (significand_storedDigits_lt h.isDouble h.pos)
        (catches_storedDigits h.isDouble h.pos) hleast hgreatest
    · have he := h.isDouble.exponent_le
      dsimp only at he hmantissa
      obtain rfl : e = 971 := by omega
      obtain ⟨k, hk, rfl⟩ : ∃ k < 16, m = 2 ^ 53 - 1 - k := ⟨2 ^ 53 - 1 - m, by omega, by omega⟩
      obtain ⟨j, hj, hread⟩ := reread_greatest k hk
      obtain ⟨t, ht, hreading⟩ := Option.map_eq_some_iff.mp hread
      refine ⟨t, _, ⟨hreading, rfl, Nat.add_pos_left h.pos j⟩, ht, fun hfull => ?_⟩
      exact (near_next hfull (Nat.lt_succ_iff.mp hj)).mono (by norm_num)
        (mul_nonneg (Nat.cast_nonneg _) (by positivity))
        (mul_nonneg (Nat.cast_nonneg _) (by positivity))
  · have hpos := h.pos
    have hle := h.isDouble.le_exponent
    have hnormal := h.isDouble.normal
    dsimp only at hpos hle hnormal hleast
    obtain rfl : m = 1 := by omega
    obtain rfl : e = -1074 := by omega
    obtain ⟨t, ht, hreading⟩ := Option.map_eq_some_iff.mp reread_least
    exact ⟨t, _, ⟨hreading, rfl, one_pos⟩, ht, fun hfull => absurd hfull (by decide)⟩

end Doubles

end SoundSheet.Json
