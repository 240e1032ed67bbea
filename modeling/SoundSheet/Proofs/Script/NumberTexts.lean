import SoundSheet.Proofs.Decimal.Prefix
import SoundSheet.Proofs.Formula.CallTree
import SoundSheet.Script.Language

/-!
# Texts that are numbers to a script

A script takes the text of a cell for a number if the whole text is one, white
space aside, and a formula takes it for the number that it starts with. They
take the same number (`coerceNumber_of_ofCellValue`), unless the text names one:
`inf`, `infinity` and `nan`, in any letter case and with a sign or none, are
numbers to a script and none to a formula.
-/

namespace SoundSheet

open SoundSheet.Text SoundSheet.Decimal

theorem Text.isAlpha_of_toLower {c : Char} (h : c.toLower.isAlpha = true) : c.isAlpha = true := by
  unfold Char.toLower at h
  split at h
  · next hupper => exact Bool.or_eq_true_iff.mpr (.inl (Address.isUpper_iff.mpr hupper))
  · exact h

namespace Decimal

variable {t after d : List Char} {digit : Char → Bool}

/-! ## Names of numbers -/

/-- **Whether a text names a number**, behind a sign or none. -/
def isNamed (t : List Char) : Bool :=
  (named? (takeSign t).2).isSome

/-- The name of a number begins with a letter. -/
theorem exists_of_named? (h : (named? t).isSome = true) : ∃ c r, t = c :: r ∧ c.isAlpha = true := by
  unfold named? at h
  split at h
  · next heq =>
    obtain ⟨c, r, rfl, hc, -⟩ := List.map_eq_cons_iff.mp heq
    exact ⟨c, r, rfl, isAlpha_of_toLower (by rw [hc]; decide)⟩
  · next heq =>
    obtain ⟨c, r, rfl, hc, -⟩ := List.map_eq_cons_iff.mp heq
    exact ⟨c, r, rfl, isAlpha_of_toLower (by rw [hc]; decide)⟩
  · next heq =>
    obtain ⟨c, r, rfl, hc, -⟩ := List.map_eq_cons_iff.mp heq
    exact ⟨c, r, rfl, isAlpha_of_toLower (by rw [hc]; decide)⟩
  · cases h

theorem exists_of_isNamed (h : isNamed t = true) :
    ∃ sign negative c r, t = sign ++ c :: r ∧ SpellsSign sign negative ∧ c.isAlpha = true := by
  obtain ⟨sign, ht, hsign⟩ := exists_takeSign t
  obtain ⟨c, r, hname, hc⟩ := exists_of_named? h
  exact ⟨sign, _, c, r, hname ▸ ht, hsign, hc⟩

/-- **A text that names a number starts with no literal.** -/
theorem not_isPrefix_of_isNamed (h : isNamed t = true) (hd : IsLiteral Char.isDigit d) :
    ¬d <+: t ++ after := by
  obtain ⟨sign, negative, c, r, rfl, hsign, hc⟩ := exists_of_isNamed h
  have hdigit : c.isDigit = false := Bool.eq_false_iff.mpr fun hdigit => by
    have hforeign := Formula.isDecimalDigit_of_isAlpha hc
    rw [isDecimalDigit_of_isDigit hdigit] at hforeign
    cases hforeign
  have hne {x : Char} (hx : x.isAlpha = false) : (c :: (r ++ after)).head? ≠ some x := by
    rintro ⟨⟩
    rw [hc] at hx
    cases hx
  -- The sign does not matter: without it the scan finds no number either.
  have hunsigned : Numeral.scan Char.isDigit (c :: (r ++ after)) = none :=
    Formula.scan_of_isAlpha hc hdigit
  rw [Numeral.scan, Formula.takeSign_of_isAlpha hc, Option.map_eq_none_iff] at hunsigned
  refine (scan_eq_none_iff isDigitClass_isDigit).mp ?_ d hd
  rw [List.append_assoc, List.cons_append, Numeral.scan,
    takeSign_append hsign (hne (by decide)) (hne (by decide)), Option.map_eq_none_iff]
  exact hunsigned

/-- A text that names a number begins with no white space. -/
theorem trimStart_append_of_isNamed (h : isNamed t = true) :
    trimStart (t ++ after) = t ++ after := by
  obtain ⟨sign, negative, c, r, rfl, hsign, hc⟩ := exists_of_isNamed h
  cases hsign with
  | none => exact trimStart_cons_of_not_blank _ (Formula.isPlain_of_isAlpha hc).2.2
  | plus => exact trimStart_cons_of_not_blank _ (by decide)
  | minus => exact trimStart_cons_of_not_blank _ (by decide)

/-- White space goes on with no literal. -/
theorem not_extends_of_isBlank (hafter : ∀ c ∈ after, isBlank c = true) :
    ¬Extends isDecimalDigit d after := by
  refine not_extends_of_head? fun c hc => ?_
  have hblank : isBlank c = true := hafter c (List.mem_of_mem_head? hc)
  refine ⟨Bool.eq_false_iff.mpr fun hdigit => ?_, ?_, Bool.eq_false_iff.mpr fun hmark => ?_⟩
  · rw [isBlank_of_isDecimalDigit hdigit] at hblank
    cases hblank
  · rintro rfl
    exact absurd hblank (by decide)
  · rcases Bool.or_eq_true_iff.mp hmark with hmark | hmark
    · exact absurd (eq_of_beq hmark ▸ hblank) (by decide)
    · exact absurd (eq_of_beq hmark ▸ hblank) (by decide)

end Decimal

namespace Script

variable {s : String} {x : Float}

/-- A text is a number to a script if it denotes one as a whole. -/
theorem ofCellValue_text_eq_float_iff :
    ofCellValue (.text s) = .float x ↔ parse? (trim s.toList) = some x := by
  rw [ofCellValue]
  cases parse? (trim s.toList) with
  | none => simp
  | some n => simp

/-- **A text that is a number to a script is the same number to a formula**,
unless it names one, and then it is none. -/
theorem coerceNumber_of_ofCellValue (h : ofCellValue (.text s) = .float x) :
    (CellValue.text s).coerceNumber = if isNamed (trim s.toList) then none else some x := by
  have hparse := ofCellValue_text_eq_float_iff.mp h
  obtain ⟨before, after, hs, hbefore, hafter⟩ := exists_trim s.toList
  generalize trim s.toList = t at hparse hs ⊢
  rw [CellValue.coerceNumber, hs, List.append_assoc]
  by_cases hd : IsLiteral Char.isDigit t
  · have hnamed : isNamed t = false := Bool.eq_false_iff.mpr fun hnamed =>
      not_isPrefix_of_isNamed hnamed hd (List.prefix_append t after)
    rw [hnamed, if_neg Bool.false_ne_true, ← hparse]
    exact parsePrefix?_of_not_extends hbefore hd (not_extends_of_isBlank hafter)
  · have hnamed : isNamed t = true := by
      rw [parse?_of_not_isLiteral hd] at hparse
      obtain ⟨y, hy, -⟩ := Option.map_eq_some_iff.mp hparse
      rw [isNamed, hy]
      rfl
    rw [hnamed, if_pos rfl]
    refine parsePrefix?_eq_none fun d hd => ?_
    rw [trimStart_blank_append hbefore, trimStart_append_of_isNamed hnamed]
    exact not_isPrefix_of_isNamed hnamed hd

/-- The text ` 1.5e3 ` is the same number to both. -/
theorem coerceNumber_of_ofCellValue_blanks :
    ofCellValue (.text " 1.5e3 ") = .float 1500
      ∧ (CellValue.text " 1.5e3 ").coerceNumber = some 1500 := by
  have h : ofCellValue (.text " 1.5e3 ") = .float 1500 :=
    ofCellValue_text_eq_float_iff.mpr (by decide +kernel)
  exact ⟨h, (coerceNumber_of_ofCellValue h).trans (if_neg (by decide))⟩

/-- **The text `inf` is infinity to a script**, and no number to a formula. -/
theorem coerceNumber_inf :
    ofCellValue (.text "inf") = .float (1 / 0) ∧ (CellValue.text "inf").coerceNumber = none :=
  ⟨ofCellValue_text_eq_float_iff.mpr (by decide +kernel), by decide +kernel⟩

end Script

end SoundSheet
