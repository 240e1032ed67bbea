import SoundSheet.Proofs.Decimal.Literal

/-!
# The number that a text starts with

A text starts with the number of the longest decimal literal behind its white
space, whatever follows that literal (`parsePrefix?_literal`) – with one
exception. The scan runs over the digits of every script, and a numeral with a
digit that is not ASCII has no value. So a foreign digit spoils the literal in
front of it, if it goes on with its digits or would begin its exponent
(`Spoils`), as in `1٣` and `1e٣`.
-/

namespace SoundSheet.Decimal

open SoundSheet.Text

variable {d s z rest : List Char} {n : Numeral}

/-! ## Digits and white space -/

/-- **No digit is white space**, of whatever script. -/
theorem isBlank_of_isDecimalDigit {c : Char} (h : isDecimalDigit c = true) : isBlank c = false := by
  -- The gaps between the blank characters that have digits in them.
  have hranges : ∀ range ∈ digitRanges, (0x20 < range.1 ∧ range.2 < 0x85)
      ∨ (0xA0 < range.1 ∧ range.2 < 0x1680) ∨ (0x1680 < range.1 ∧ range.2 < 0x2000)
      ∨ 0x3000 < range.1 := by
    decide
  obtain ⟨range, hmem, hrange⟩ := List.any_eq_true.mp h
  have := hranges range hmem
  simp only [Bool.and_eq_true, decide_eq_true_eq] at hrange
  simp only [isBlank, Bool.or_eq_false_iff, Bool.and_eq_false_iff, beq_eq_false_iff_ne,
    decide_eq_false_iff_not]
  omega

/-- A literal starts with no white space. -/
theorem IsLiteral.trimStart_append (hd : IsLiteral Char.isDigit d) (s : List Char) :
    trimStart (d ++ s) = d ++ s := by
  obtain ⟨c, d, rfl, hc⟩ : ∃ c t, d = c :: t ∧ isBlank c = false := by
    have hrun {ds : List Char} (h : IsRun Char.isDigit ds) :
        ∃ c t, ds = c :: t ∧ isBlank c = false := by
      obtain ⟨c, ds, rfl⟩ := List.exists_cons_of_ne_nil h.1
      exact ⟨c, ds, rfl,
        isBlank_of_isDecimalDigit (isDecimalDigit_of_isDigit (h.2 c List.mem_cons_self))⟩
    obtain ⟨n, ⟨hsign, hmantissa, -⟩⟩ := hd
    cases hsign with
    | plus => exact ⟨'+', _, rfl, by decide⟩
    | minus => exact ⟨'-', _, rfl, by decide⟩
    | none =>
      cases hmantissa with
      | whole h =>
        obtain ⟨c, t, rfl, hc⟩ := hrun h
        exact ⟨c, _, rfl, hc⟩
      | pointed h _ =>
        obtain ⟨c, t, rfl, hc⟩ := hrun h
        exact ⟨c, _, rfl, hc⟩
      | fraction => exact ⟨'.', _, rfl, by decide⟩
  exact trimStart_cons_of_not_blank (d ++ s) hc

/-! ## Foreign digits -/

/-- **A foreign digit**: one of another script. -/
def isForeignDigit (c : Char) : Bool :=
  isDecimalDigit c && !c.isDigit

/-- **How a literal is spoiled** by what follows it: by a foreign digit, or by
an exponent that begins with one, if it has no exponent yet. -/
inductive Spoils (d : List Char) : List Char → Prop
  /-- A foreign digit follows. -/
  | digit {c : Char} (rest : List Char) (h : isForeignDigit c = true) : Spoils d (c :: rest)
  /-- The mark and the sign of an exponent follow, and then a foreign digit. -/
  | power {mark : Char} {sign : List Char} {negative : Bool} {c : Char} (rest : List Char)
      (hpower : d.any isPowerMark = false) (hmark : isPowerMark mark = true)
      (hsign : SpellsSign sign negative) (h : isForeignDigit c = true) :
      Spoils d (mark :: (sign ++ c :: rest))

theorem Spoils.extends (h : Spoils d rest) : Extends isDecimalDigit d rest := by
  cases h with
  | digit rest h => exact .digit rest (Bool.and_eq_true_iff.mp h).1
  | power rest hpower hmark hsign h =>
    exact .power rest hpower hmark hsign (Bool.and_eq_true_iff.mp h).1

/-- **Foreign digits alone go on with a literal** that nothing in ASCII goes on
with. -/
theorem Spoils.of_extends (h : Extends isDecimalDigit d rest)
    (hascii : ¬Extends Char.isDigit d rest) : Spoils d rest := by
  have hforeign {c : Char} (hc : isDecimalDigit c = true) (hne : ¬c.isDigit = true) :
      isForeignDigit c = true := by
    rw [isForeignDigit, hc, Bool.eq_false_iff.mpr hne]
    rfl
  cases h with
  | digit rest h => exact .digit rest (hforeign h fun hc => hascii (.digit rest hc))
  | point rest hpoint hpower => exact absurd (.point rest hpoint hpower) hascii
  | power rest hpower hmark hsign h =>
    exact .power rest hpower hmark hsign
      (hforeign h fun hc => hascii (.power rest hpower hmark hsign hc))

/-! ## Literals and whole texts -/

/-- **A literal is read as a whole text**, as the number it spells. -/
theorem parse?_of_spells (hd : Spells Char.isDigit d n) : parse? d = some n.toFloat := by
  rw [parse?, scan_of_spells isDigitClass_isDigit hd]

/-- **Any other text is the name of a number**, or none. -/
theorem parse?_of_not_isLiteral (hd : ¬IsLiteral Char.isDigit d) :
    parse? d = (named? (takeSign d).2).map fun x => if (takeSign d).1 then -x else x := by
  rw [parse?]
  split
  · next n heq =>
    obtain ⟨t, ht, hn⟩ := exists_scan heq
    rw [List.append_nil] at ht
    exact absurd ⟨n, ht ▸ hn⟩ hd
  · rfl

/-! ## Literals at the start -/

/-- **The number of the literal in front is read** if no digit of any script
goes on with it. -/
theorem parsePrefix?_of_not_extends (hz : ∀ c ∈ z, isBlank c = true)
    (hd : IsLiteral Char.isDigit d) (h : ¬Extends isDecimalDigit d rest) :
    parsePrefix? (z ++ (d ++ rest)) = parse? d := by
  obtain ⟨n, hn⟩ := hd
  have hdigits := hn.forall_mem_digits
  have hscan : Numeral.scan isDecimalDigit (d ++ rest) = some (n, rest) :=
    scan_of_not_extends isDigitClass_isDecimalDigit
      (hn.change fun c hc => isDecimalDigit_of_isDigit (hdigits c hc)) h
  rw [parsePrefix?, trimStart_blank_append hz, IsLiteral.trimStart_append ⟨n, hn⟩, hscan,
    parse?_of_spells hn]
  exact if_pos (Numeral.isAscii_iff.mpr hdigits)

/-- **A longer numeral with a foreign digit has no value**: if it were all in
ASCII digits, it would be a longer literal. -/
theorem parsePrefix?_of_spoils (hz : ∀ c ∈ z, isBlank c = true)
    (hd : IsLongest Char.isDigit d (d ++ rest)) (h : Spoils d rest) :
    parsePrefix? (z ++ (d ++ rest)) = none := by
  rw [parsePrefix?, trimStart_blank_append hz, hd.literal.trimStart_append]
  cases hscan : Numeral.scan isDecimalDigit (d ++ rest) with
  | none => rfl
  | some result =>
    obtain ⟨m, r⟩ := result
    refine if_neg fun hascii => ?_
    obtain ⟨d', hs, hm, hd'⟩ := (scan_eq_some_iff isDigitClass_isDecimalDigit).mp hscan
    have hle : d'.length ≤ d.length :=
      hd.longest d' ⟨m, hm.change (Numeral.isAscii_iff.mp hascii)⟩ ⟨r, hs.symm⟩
    obtain ⟨n, hn⟩ := hd.literal
    obtain ⟨longer, hlonger, hstart, hlength⟩ := IsLiteral.exists_longer
      ⟨n, hn.change fun c hc => isDecimalDigit_of_isDigit (hn.forall_mem_digits c hc)⟩ h.extends
    have := hd'.longest longer hlonger hstart
    omega

/-- **Nothing is read** where no literal stands. -/
theorem parsePrefix?_eq_none (h : ∀ d, IsLiteral Char.isDigit d → ¬d <+: trimStart s) :
    parsePrefix? s = none := by
  rw [parsePrefix?]
  cases hscan : Numeral.scan isDecimalDigit (trimStart s) with
  | none => rfl
  | some result =>
    obtain ⟨n, r⟩ := result
    refine if_neg fun hascii => ?_
    obtain ⟨d, hs, hn⟩ := exists_scan hscan
    exact h d ⟨n, hn.change (Numeral.isAscii_iff.mp hascii)⟩ ⟨r, hs.symm⟩

/-- **The number that a text starts with.** White space and a literal, the
longest one there, denote the number of the literal, whatever follows it, unless
it is spoiled by a foreign digit; and any other text starts with no number. -/
theorem parsePrefix?_literal (s : List Char) :
    (∀ z d rest, s = z ++ (d ++ rest) → (∀ c ∈ z, isBlank c = true) →
        IsLongest Char.isDigit d (d ++ rest) →
        ∃ x, parse? d = some x ∧ (¬Spoils d rest → parsePrefix? s = some x)
          ∧ (Spoils d rest → parsePrefix? s = none))
      ∧ ((∀ d, IsLiteral Char.isDigit d → ¬d <+: trimStart s) → parsePrefix? s = none) := by
  refine ⟨?_, parsePrefix?_eq_none⟩
  rintro z d rest rfl hz hd
  obtain ⟨n, hn⟩ := hd.literal
  have hparse := parse?_of_spells hn
  refine ⟨n.toFloat, hparse, fun h => ?_, parsePrefix?_of_spoils hz hd⟩
  rw [← hparse]
  exact parsePrefix?_of_not_extends hz hd.literal
    fun hextends => h (.of_extends hextends hd.not_extends)

/-- It is read of ` -1.5e3x`. -/
theorem parsePrefix?_literal_signed :
    (∀ c ∈ [' '], isBlank c = true)
      ∧ IsLongest Char.isDigit ['-', '1', '.', '5', 'e', '3'] ['-', '1', '.', '5', 'e', '3', 'x']
      ∧ ¬Spoils ['-', '1', '.', '5', 'e', '3'] ['x']
      ∧ parsePrefix? [' ', '-', '1', '.', '5', 'e', '3', 'x'] = some (-1500) := by
  have hd : IsLongest Char.isDigit ['-', '1', '.', '5', 'e', '3']
      (['-', '1', '.', '5', 'e', '3'] ++ ['x']) :=
    isLongest_of_scan isDigitClass_isDigit (n := ⟨true, ['1'], ['5'], false, ['3']⟩) rfl
  have hx : ¬Spoils ['-', '1', '.', '5', 'e', '3'] ['x'] := fun h =>
    not_extends_of_head? (by rintro c ⟨⟩; exact ⟨rfl, by decide, rfl⟩) h.extends
  obtain ⟨x, hparse, hread, -⟩ :=
    (parsePrefix?_literal [' ', '-', '1', '.', '5', 'e', '3', 'x']).1 [' '] _ ['x'] rfl
      isBlank_of_mem_space hd
  have hvalue : parse? ['-', '1', '.', '5', 'e', '3'] = some (-1500) := by decide +kernel
  exact ⟨isBlank_of_mem_space, hd, hx, (hread hx).trans (hparse.symm.trans hvalue)⟩

/-- **A literal in front of a foreign digit is not read**: `1` is the longest
literal that `1٣` starts with, and its number is one. -/
theorem parsePrefix?_spoiled :
    IsLongest Char.isDigit ['1'] ['1', '٣'] ∧ parse? ['1'] = some 1
      ∧ parsePrefix? ['1', '٣'] = none :=
  ⟨isLongest_of_scan isDigitClass_isDigit (d := ['1']) (n := ⟨false, ['1'], [], false, []⟩) rfl,
    by decide +kernel, by decide⟩

end SoundSheet.Decimal
