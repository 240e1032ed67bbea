import SoundSheet.Decimal.Style
import SoundSheet.Proofs.Address.Names
import SoundSheet.Proofs.Decimal.Literal
import SoundSheet.Proofs.Json.Reading

/-!
# Stored numbers are read digit by digit

A positive decimal is stored with a point among its digits, zeros around them,
or an exponent. Whichever it is, what is read is a numeral whose digits are
those of the decimal (`readsAs_stored`): the very same significand and exponent,
or, for a whole number that is written out, all its digits and the zero behind
the point (`asStored`). If the significand has 64 bits at most, no digit of it
is lost, and the value of the numeral is the significand scaled by the power of
ten (`numberValue?_eq`).
-/

namespace SoundSheet.Json

open SoundSheet.Decimal

/-! ## The value of a numeral -/

/-- More digits make a number larger. -/
theorem le_ofDigitChars (ds : List Char) (significand : Nat) :
    significand ≤ Nat.ofDigitChars 10 ds significand := by
  rw [Nat.ofDigitChars_eq_ofDigitChars_zero]
  exact (Nat.le_mul_of_pos_left _ (Nat.pow_pos (by decide))).trans (Nat.le_add_right _ _)

/-- **Digits are gathered** as long as they make a significand of 64 bits. -/
theorem gather_of_lt {ds : List Char} {significand : Nat}
    (h : Nat.ofDigitChars 10 ds significand < significandLimit) :
    gather significand ds = (Nat.ofDigitChars 10 ds significand, []) := by
  induction ds generalizing significand with
  | nil => rfl
  | cons d ds ih =>
    rw [Nat.ofDigitChars_cons] at h ⊢
    rw [gather, if_pos ((le_ofDigitChars ds _).trans_lt h), ih h]

/-- **The value of a numeral** whose significand has 64 bits. -/
theorem numberValue?_eq {n : Numeral} (hnegative : n.negative = false)
    (h : n.significand < significandLimit) :
    numberValue? n = scaleBy (Float.ofScientific n.significand false 0) n.scale := by
  have hsignificand : n.significand
      = Nat.ofDigitChars 10 n.fraction (Nat.ofDigitChars 10 n.whole 0) :=
    Nat.ofDigitChars_append 0
  rw [hsignificand] at h
  have hscale : ((([] : List Char).length : ℤ) - (n.fraction.length - ([] : List Char).length : ℕ)
      + if n.powerNegative then -(digitsValue n.power : ℤ) else digitsValue n.power) = n.scale := by
    rw [Numeral.scale, List.length_nil]
    omega
  rw [numberValue?, gather_of_lt ((le_ofDigitChars _ _).trans_lt h)]
  dsimp only
  rw [gather_of_lt h, hscale, ← hsignificand, hnegative]
  simp

/-! ## Reading a numeral -/

section Read

variable {mantissa whole fraction power digits : List Char} {negative : Bool}

/-- **A mantissa and an exponent are read as a numeral**, if the mantissa begins
with digits, without a superfluous zero, and does not end in the point. -/
theorem readNumeral_of_spells (hmantissa : SpellsMantissa Char.isDigit mantissa whole fraction)
    (hwhole : isWholePart whole = true) (hpoint : '.' ∈ mantissa → fraction ≠ [])
    (hpower : SpellsPower Char.isDigit power negative digits) :
    readNumeral (mantissa ++ power) = some (⟨false, whole, fraction, negative, digits⟩, []) := by
  have hhead (c : Char) (hc : c ∈ power.head?) : c.isDigit = false ∧ c ≠ '.' := by
    cases hpower with
    | none => cases hc
    | power hmark =>
      cases hc
      refine ⟨digit_of_isPowerMark isDigitClass_isDigit hmark, ?_⟩
      rintro rfl
      exact absurd hmark (by decide)
  have htaken : takePower Char.isDigit power = (negative, digits, []) := by
    cases hpower with
    | none => rfl
    | @power mark sign _ _ hmark hsign hrun =>
      have h := Decimal.takePower_append (s := []) isDigitClass_isDigit hmark hsign hrun
        (fun _ hc => nomatch hc)
      rwa [List.append_nil] at h
  have hminus (s : List Char) (hne : s.head? ≠ some '-') : takeMinus s = (false, s) := by
    unfold takeMinus
    split
    · exact absurd rfl hne
    · rfl
  have hstart := hmantissa.head?_ne isDigitClass_isDigit (x := '-') (by decide) power
  rw [readNumeral, hminus _ hstart]
  dsimp only
  cases hmantissa with
  | whole h =>
    have hfraction : takeFraction power = some ([], power) := by
      unfold takeFraction
      split
      · exact absurd rfl (hhead '.' rfl).2
      · rfl
    rw [takeDigits_append_of_head? h.2 fun c hc => (hhead c hc).1, hwhole, hfraction]
    show some (Numeral.mk _ _ _ (takePower Char.isDigit power).1
      (takePower Char.isDigit power).2.1, (takePower Char.isDigit power).2.2) = _
    rw [htaken]
  | pointed h hfs =>
    have hne : fraction ≠ [] := hpoint (List.mem_append_right _ List.mem_cons_self)
    have hfraction : takeFraction ('.' :: (fraction ++ power)) = some (fraction, power) := by
      rw [takeFraction, takeDigits_append_of_head? hfs fun c hc => (hhead c hc).1]
      obtain ⟨c, fraction, rfl⟩ := List.exists_cons_of_ne_nil hne
      rfl
    rw [List.append_assoc, List.cons_append,
      takeDigits_append_of_head? h.2 (by rintro c ⟨⟩; rfl), hwhole, hfraction]
    show some (Numeral.mk _ _ _ (takePower Char.isDigit power).1
      (takePower Char.isDigit power).2.1, (takePower Char.isDigit power).2.2) = _
    rw [htaken]
  | fraction h => cases hwhole

end Read

/-! ## Stored numbers -/

/-- **A text is read as a decimal**: as a numeral with its digits and its power
of ten. -/
def ReadsAs (s : List Char) (d : Digits) : Prop :=
  ∃ n, readNumeral s = some (n, []) ∧ n.negative = false ∧ n.significand = d.significand
    ∧ n.scale = d.exponent

section Stored

variable {d : Digits} {mantissa whole fraction ds rest : List Char} {c : Char} {e : ℤ}

theorem digitsValue_digitsOf (n : Nat) : digitsValue (digitsOf n) = n :=
  Nat.ofDigitChars_ten_toDigits

theorem isRun_digitsOf (n : Nat) : IsRun Char.isDigit (digitsOf n) :=
  ⟨Address.digitsOf_ne_nil n, fun _ hc => Address.isDigit_of_mem_digitsOf hc⟩

theorem isDigit_zeros (zeros : Nat) : ∀ c ∈ List.replicate zeros '0', c.isDigit = true := by
  intro c hc
  rw [List.eq_of_mem_replicate hc]
  rfl

theorem ne_zero_of_digitsOf {n : Nat} (hpos : 0 < n) (h : digitsOf n = c :: rest) : c ≠ '0' := by
  induction n using Nat.strong_induction_on generalizing c rest with
  | _ n ih =>
    rw [digitsOf, Nat.toDigits_eq_if (by decide)] at h
    split at h
    · next hlt =>
      obtain ⟨rfl, -⟩ := List.cons.inj h
      intro hzero
      have hvalue := Address.digitValue_digitChar hlt
      rw [hzero] at hvalue
      exact hpos.ne' hvalue.symm
    · next hle =>
      obtain ⟨c', rest', heq⟩ := List.exists_cons_of_ne_nil (Address.digitsOf_ne_nil (n / 10))
      have hc := ih (n / 10) (by omega) (by omega) heq
      rw [← digitsOf, heq] at h
      exact (List.cons.inj h).1 ▸ hc

theorem isWholePart_cons (hc : c ≠ '0') (rest : List Char) : isWholePart (c :: rest) = true := by
  rw [isWholePart]
  · exact bne_iff_ne.mpr hc
  · rintro rfl -
    exact hc rfl

/-- **The exponent of a stored number**, which always has a sign. -/
theorem exists_spellsPower (e : ℤ) : ∃ negative digits,
    SpellsPower Char.isDigit ('e' :: ((if decide (0 ≤ e) then ['+'] else []) ++ ofInt e)) negative
      digits ∧ (if negative then -(digitsValue digits : ℤ) else digitsValue digits) = e := by
  obtain n | n := e
  · have hsign : decide (0 ≤ Int.ofNat n) = true := decide_eq_true (Int.natCast_nonneg n)
    rw [hsign, if_pos rfl]
    refine ⟨false, digitsOf n, .power rfl .plus (isRun_digitsOf n), ?_⟩
    rw [digitsValue_digitsOf]
    rfl
  · have hsign : decide (0 ≤ Int.negSucc n) = false :=
      decide_eq_false (Int.negSucc_lt_zero n).not_ge
    rw [hsign, if_neg Bool.false_ne_true]
    refine ⟨true, digitsOf (n + 1), .power rfl .minus (isRun_digitsOf (n + 1)), ?_⟩
    rw [digitsValue_digitsOf]
    rfl

/-- **Digits with a point after the first and an exponent** are read as these
digits. -/
theorem readsAs_withExponent {s : Nat} (hpos : 0 < s) (e : ℤ) :
    ReadsAs (withExponent true (digitsOf s) e) ⟨s, e + 1 - (digitsOf s).length⟩ := by
  obtain ⟨negative, digits, hpower, hvalue⟩ := exists_spellsPower e
  have hdigits := (isRun_digitsOf s).2
  have hs := digitsValue_digitsOf s
  obtain ⟨c, rest, heq⟩ := List.exists_cons_of_ne_nil (Address.digitsOf_ne_nil s)
  have hwhole := isWholePart_cons (ne_zero_of_digitsOf hpos heq) []
  rw [heq] at hdigits hs ⊢
  obtain ⟨hc, hrest⟩ := List.forall_mem_cons.mp hdigits
  have hone : IsRun Char.isDigit [c] :=
    ⟨List.cons_ne_nil c [], List.forall_mem_singleton.mpr hc⟩
  cases rest with
  | nil =>
    have hpoint : '.' ∈ [c] → ([] : List Char) ≠ [] := by
      rintro hmem
      rw [← List.mem_singleton.mp hmem] at hc
      exact absurd hc (by decide)
    have htext : withExponent true [c] e
        = [c] ++ 'e' :: ((if decide (0 ≤ e) then ['+'] else []) ++ ofInt e) := rfl
    rw [htext]
    refine ⟨_, readNumeral_of_spells (.whole hone) hwhole hpoint hpower, rfl, hs, ?_⟩
    show _ - (([] : List Char).length : ℤ) = e + 1 - ([c].length : ℕ)
    rw [hvalue, List.length_nil, List.length_singleton]
    omega
  | cons c' rest =>
    have htext : withExponent true (c :: c' :: rest) e = ([c] ++ '.' :: c' :: rest)
        ++ 'e' :: ((if decide (0 ≤ e) then ['+'] else []) ++ ofInt e) :=
      List.append_assoc (c :: '.' :: c' :: rest) _ _
    rw [htext]
    refine ⟨_, readNumeral_of_spells (.pointed hone hrest) hwhole
      (fun _ => List.cons_ne_nil c' rest) hpower, rfl, hs, ?_⟩
    show _ - ((c' :: rest).length : ℤ) = e + 1 - ((c :: c' :: rest).length : ℕ)
    simp only [hvalue, List.length_cons]
    omega

/-- **Digits around a point** are read as they stand. -/
theorem readsAs_pointed (whole fraction : List Char) (hwhole : isWholePart whole = true)
    (hdigits : ∀ c ∈ whole, c.isDigit = true) (hfraction : IsRun Char.isDigit fraction) :
    ReadsAs (whole ++ '.' :: fraction) ⟨digitsValue (whole ++ fraction), -fraction.length⟩ := by
  have hne : whole ≠ [] := by
    rintro rfl
    cases hwhole
  have h := readNumeral_of_spells (.pointed ⟨hne, hdigits⟩ hfraction.2) hwhole
    (fun _ => hfraction.1) .none
  rw [List.append_nil] at h
  exact ⟨_, h, rfl, rfl, zero_sub _⟩

/-- **Zeros in front of digits** count nothing. -/
theorem readsAs_zeros {s : Nat} (zeros : Nat) :
    ReadsAs ('0' :: '.' :: List.replicate zeros '0' ++ digitsOf s)
      ⟨s, -(zeros + (digitsOf s).length : ℕ)⟩ := by
  have hrun := isRun_digitsOf s
  have hvalue : digitsValue (['0'] ++ (List.replicate zeros '0' ++ digitsOf s)) = s := by
    show Nat.ofDigitChars 10 (List.replicate zeros '0' ++ digitsOf s) 0 = s
    rw [Nat.ofDigitChars_append, Nat.ofDigitChars_replicate_zero, Nat.mul_zero]
    exact digitsValue_digitsOf s
  have h := readsAs_pointed ['0'] _ rfl (List.forall_mem_singleton.mpr rfl)
    ⟨List.append_ne_nil_of_right_ne_nil _ hrun.1,
      List.forall_mem_append.mpr ⟨isDigit_zeros zeros, hrun.2⟩⟩
  rwa [hvalue, List.length_append, List.length_replicate] at h

/-- **Digits with the point among them** are read as these digits. -/
theorem readsAs_splitAt {s : Nat} (hpos : 0 < s) (position : Nat) (hlow : 0 < position)
    (hhigh : position < (digitsOf s).length) :
    ReadsAs ((digitsOf s).take position ++ '.' :: (digitsOf s).drop position)
      ⟨s, -((digitsOf s).length - position : ℕ)⟩ := by
  have hdigits := (isRun_digitsOf s).2
  have hs := digitsValue_digitsOf s
  obtain ⟨c, rest, heq⟩ := List.exists_cons_of_ne_nil (Address.digitsOf_ne_nil s)
  have hwhole : isWholePart ((digitsOf s).take position) = true := by
    obtain ⟨position, rfl⟩ := Nat.exists_eq_succ_of_ne_zero hlow.ne'
    rw [heq, List.take_succ_cons]
    exact isWholePart_cons (ne_zero_of_digitsOf hpos heq) _
  have hfraction : IsRun Char.isDigit ((digitsOf s).drop position) :=
    ⟨fun hnil => hhigh.not_ge (List.drop_eq_nil_iff.mp hnil),
      fun c hc => hdigits c (List.mem_of_mem_drop hc)⟩
  have h := readsAs_pointed _ _ hwhole (fun c hc => hdigits c (List.mem_of_mem_take hc)) hfraction
  rwa [List.take_append_drop, hs, List.length_drop] at h

/-- **The digits of a whole number** are read with all zeros, those behind the
point included. -/
theorem readsAs_whole {s : Nat} (hpos : 0 < s) (zeros : Nat) :
    ReadsAs (digitsOf s ++ List.replicate zeros '0' ++ ['.', '0'])
      ⟨s * 10 ^ (zeros + 1), -1⟩ := by
  have hrun := isRun_digitsOf s
  obtain ⟨c, rest, heq⟩ := List.exists_cons_of_ne_nil (Address.digitsOf_ne_nil s)
  have hwhole : isWholePart (digitsOf s ++ List.replicate zeros '0') = true := by
    rw [heq, List.cons_append]
    exact isWholePart_cons (ne_zero_of_digitsOf hpos heq) _
  have hvalue : digitsValue (digitsOf s ++ List.replicate zeros '0' ++ ['0'])
      = s * 10 ^ (zeros + 1) := by
    have hzero : ['0'] = List.replicate 1 '0' := rfl
    show Nat.ofDigitChars 10 (digitsOf s ++ List.replicate zeros '0' ++ ['0']) 0 = _
    rw [hzero, List.append_assoc, List.replicate_append_replicate, Nat.ofDigitChars_append,
      Nat.ofDigitChars_replicate_zero, Nat.mul_comm]
    exact congrArg (· * _) (digitsValue_digitsOf s)
  have h := readsAs_pointed _ ['0'] hwhole
    (List.forall_mem_append.mpr ⟨hrun.2, isDigit_zeros zeros⟩)
    ⟨List.cons_ne_nil _ _, List.forall_mem_singleton.mpr rfl⟩
  rwa [hvalue] at h

/-- **A decimal as it stands in a stored text.** A whole number of up to sixteen
digits is written out, with one more zero behind the point. -/
def asStored (d : Digits) : Digits :=
  if 0 ≤ d.exponent ∧ (digitsOf d.significand).length + d.exponent ≤ 16 then
    ⟨d.significand * 10 ^ (d.exponent.toNat + 1), -1⟩
  else d

/-- **A stored number is read as the decimal that was written.** -/
theorem readsAs_stored (hpos : 0 < d.significand) :
    ReadsAs (stored.writeDigits d) (asStored d) := by
  obtain ⟨s, e⟩ := d
  have hlength : 0 < (digitsOf s).length := List.length_pos_of_ne_nil (isRun_digitsOf s).1
  generalize hposition : ((digitsOf s).length : ℤ) + e = position
  have hwrite : stored.writeDigits ⟨s, e⟩
      = if decide (position ≤ -5) || decide (16 < position) then
          withExponent true (digitsOf s) (position - 1)
        else placePoint true (digitsOf s) position := by
    rw [← hposition]
    rfl
  rw [hwrite, asStored]
  dsimp only at hpos ⊢
  rw [hposition]
  by_cases hexponent : position ≤ -5 ∨ 16 < position
  · have h := readsAs_withExponent hpos (position - 1)
    have hsame : position - 1 + 1 - ((digitsOf s).length : ℤ) = e := by omega
    rw [if_pos (by simpa using hexponent), if_neg (by omega)]
    rwa [hsame] at h
  rw [if_neg (by simpa using hexponent), placePoint]
  by_cases hsmall : position ≤ 0
  · have h := readsAs_zeros (s := s) (-position).toNat
    have hsame : -(((-position).toNat + (digitsOf s).length : ℕ) : ℤ) = e := by omega
    rw [if_pos hsmall, if_neg (by omega)]
    rwa [hsame] at h
  by_cases hwhole : (digitsOf s).length ≤ position.toNat
  · have h := readsAs_whole hpos (position.toNat - (digitsOf s).length)
    have hsame : position.toNat - (digitsOf s).length = e.toNat := by omega
    rw [if_neg hsmall, if_pos hwhole, if_pos rfl, if_pos (by omega)]
    rwa [hsame] at h ⊢
  · have h := readsAs_splitAt hpos position.toNat (by omega) (by omega)
    have hsame : -(((digitsOf s).length - position.toNat : ℕ) : ℤ) = e := by omega
    rw [if_neg hsmall, if_neg hwhole, if_neg (by omega)]
    rwa [hsame] at h

end Stored

end SoundSheet.Json
