import SoundSheet.Decimal.Numeral

/-!
# Decimal literals

A **decimal literal** is an optional sign, digits with an optional point among
or around them, and an optional exponent. What counts as a digit is left open,
as for the scan that reads literals. `Spells` says which numeral a literal is
the text of.

The scan reads the longest literal that a text starts with, and nothing if there
is none (`scan_eq_some_iff`, `scan_eq_none_iff`). It decides at every part of a
literal by the next characters alone, so what has to be seen is when a literal
can be gone on with (`Extends`). Where it can, a longer literal begins the text
(`IsLiteral.exists_longer`); where it cannot, the scan stops behind it
(`scan_of_not_extends`).
-/

namespace SoundSheet.Decimal

open SoundSheet.Text

/-! ## The text of a numeral -/

/-- **The texts of a sign**, and whether it is a minus. -/
inductive SpellsSign : List Char → Bool → Prop
  | none : SpellsSign [] false
  | plus : SpellsSign ['+'] false
  | minus : SpellsSign ['-'] true

/-- **A run of digits**, at least one. -/
def IsRun (digit : Char → Bool) (s : List Char) : Prop :=
  s ≠ [] ∧ ∀ c ∈ s, digit c = true

/-- **The texts of a mantissa**, with the digits before and behind the point. -/
inductive SpellsMantissa (digit : Char → Bool) : List Char → List Char → List Char → Prop
  /-- Digits without a point. -/
  | whole {ds : List Char} (h : IsRun digit ds) : SpellsMantissa digit ds ds []
  /-- Digits, a point, and maybe more digits. -/
  | pointed {ds fs : List Char} (h : IsRun digit ds) (hfs : ∀ c ∈ fs, digit c = true) :
      SpellsMantissa digit (ds ++ '.' :: fs) ds fs
  /-- A point and digits. -/
  | fraction {fs : List Char} (h : IsRun digit fs) : SpellsMantissa digit ('.' :: fs) [] fs

/-- Whether a character marks an exponent. -/
def isPowerMark (c : Char) : Bool :=
  c == 'e' || c == 'E'

/-- **The texts of an exponent**, with its sign and its digits. -/
inductive SpellsPower (digit : Char → Bool) : List Char → Bool → List Char → Prop
  /-- No exponent. -/
  | none : SpellsPower digit [] false []
  /-- A mark, a sign and digits. -/
  | power {mark : Char} {sign ds : List Char} {negative : Bool} (hmark : isPowerMark mark = true)
      (hsign : SpellsSign sign negative) (h : IsRun digit ds) :
      SpellsPower digit (mark :: (sign ++ ds)) negative ds

/-- **The texts of a numeral**. -/
inductive Spells (digit : Char → Bool) : List Char → Numeral → Prop
  | parts {sign mantissa power whole fraction digits : List Char} {negative powerNegative : Bool}
      (hsign : SpellsSign sign negative) (hmantissa : SpellsMantissa digit mantissa whole fraction)
      (hpower : SpellsPower digit power powerNegative digits) :
      Spells digit (sign ++ (mantissa ++ power)) ⟨negative, whole, fraction, powerNegative, digits⟩

/-- **A decimal literal** in digits of some kind. -/
def IsLiteral (digit : Char → Bool) (s : List Char) : Prop :=
  ∃ n, Spells digit s n

/-- **The longest literal** that a text starts with. -/
structure IsLongest (digit : Char → Bool) (d s : List Char) : Prop where
  /-- It is a literal. -/
  literal : IsLiteral digit d
  /-- The text starts with it. -/
  isPrefix : d <+: s
  /-- The text starts with no longer one. -/
  longest : ∀ d', IsLiteral digit d' → d' <+: s → d'.length ≤ d.length

/-- **How a literal can be gone on with**: by a digit, by a point if it has
neither point nor exponent, or by an exponent if it has none. -/
inductive Extends (digit : Char → Bool) (d : List Char) : List Char → Prop
  /-- A digit follows. -/
  | digit {c : Char} (rest : List Char) (h : digit c = true) : Extends digit d (c :: rest)
  /-- The first point follows. -/
  | point (rest : List Char) (hpoint : '.' ∉ d) (hpower : d.any isPowerMark = false) :
      Extends digit d ('.' :: rest)
  /-- The mark, the sign and the first digit of an exponent follow. -/
  | power {mark : Char} {sign : List Char} {negative : Bool} {c : Char} (rest : List Char)
      (hpower : d.any isPowerMark = false) (hmark : isPowerMark mark = true)
      (hsign : SpellsSign sign negative) (h : digit c = true) :
      Extends digit d (mark :: (sign ++ c :: rest))

/-- **Digits are told apart** from the other characters of a literal. -/
def IsDigitClass (digit : Char → Bool) : Prop :=
  ∀ c ∈ ['+', '-', '.', 'e', 'E'], digit c = false

theorem isDigitClass_of_any {digit : Char → Bool}
    (h : ['+', '-', '.', 'e', 'E'].any digit = false) : IsDigitClass digit :=
  fun c hc => Bool.eq_false_iff.mpr (List.any_eq_false.mp h c hc)

theorem isDigitClass_isDigit : IsDigitClass Char.isDigit :=
  isDigitClass_of_any rfl

theorem isDigitClass_isDecimalDigit : IsDigitClass isDecimalDigit :=
  isDigitClass_of_any rfl

section Scan

variable {digit : Char → Bool} {s t r sign mantissa power whole fraction ds d : List Char}
  {negative : Bool} {n : Numeral}

/-! ## Signs and runs of digits -/

theorem takeSign_of_head? (hplus : s.head? ≠ some '+') (hminus : s.head? ≠ some '-') :
    takeSign s = (false, s) := by
  unfold takeSign
  split
  · exact absurd rfl hminus
  · exact absurd rfl hplus
  · rfl

/-- A sign is taken if what follows does not start with one. -/
theorem takeSign_append (h : SpellsSign sign negative) (hplus : s.head? ≠ some '+')
    (hminus : s.head? ≠ some '-') : takeSign (sign ++ s) = (negative, s) := by
  cases h with
  | none => exact takeSign_of_head? hplus hminus
  | plus => rfl
  | minus => rfl

/-- What is taken is a sign. -/
theorem exists_takeSign (s : List Char) :
    ∃ sign, s = sign ++ (takeSign s).2 ∧ SpellsSign sign (takeSign s).1 := by
  unfold takeSign
  split
  · exact ⟨['-'], rfl, .minus⟩
  · exact ⟨['+'], rfl, .plus⟩
  · exact ⟨[], rfl, .none⟩

/-- All digits are taken up to one that is none. -/
theorem takeDigits_append_of_head? (hds : ∀ c ∈ ds, digit c = true)
    (hs : ∀ c ∈ s.head?, digit c = false) : takeDigits digit (ds ++ s) = (ds, s) := by
  have hstop : s.takeWhile digit = [] ∧ s.dropWhile digit = s := by
    cases s with
    | nil => exact ⟨rfl, rfl⟩
    | cons c s =>
      have hc : ¬digit c = true := by rw [hs c rfl]; exact Bool.false_ne_true
      exact ⟨List.takeWhile_cons_of_neg hc, List.dropWhile_cons_of_neg hc⟩
  rw [takeDigits, List.takeWhile_append_of_pos hds, List.dropWhile_append_of_pos hds, hstop.1,
    hstop.2, List.append_nil]

/-- What is taken are digits, and no digit follows. -/
theorem takeDigits_spec (digit : Char → Bool) (s : List Char) :
    s = (takeDigits digit s).1 ++ (takeDigits digit s).2
      ∧ ∀ c ∈ (takeDigits digit s).1, digit c = true :=
  ⟨List.takeWhile_append_dropWhile.symm, List.all_eq_true.mp List.all_takeWhile⟩

/-! ## The mantissa -/

section Mantissa

variable (hclass : IsDigitClass digit)

include hclass

theorem not_digit_point : digit '.' = false :=
  hclass '.' (by decide)

theorem digit_of_isPowerMark {c : Char} (h : isPowerMark c = true) : digit c = false := by
  rcases Bool.or_eq_true_iff.mp h with h | h
  · exact eq_of_beq h ▸ hclass 'e' (by decide)
  · exact eq_of_beq h ▸ hclass 'E' (by decide)

theorem head?_ne_of_digit {x : Char} (hx : x ∈ ['+', '-', '.', 'e', 'E'])
    (h : IsRun digit ds) (s : List Char) : (ds ++ s).head? ≠ some x := by
  obtain ⟨c, ds, rfl⟩ := List.exists_cons_of_ne_nil h.1
  intro heq
  have hc : digit c = true := h.2 c List.mem_cons_self
  obtain rfl : c = x := Option.some.inj heq
  rw [hclass c hx] at hc
  exact Bool.false_ne_true hc

/-- A mantissa starts with no sign. -/
theorem SpellsMantissa.head?_ne {x : Char} (hx : x ∈ ['+', '-'])
    (h : SpellsMantissa digit mantissa whole fraction) (s : List Char) :
    (mantissa ++ s).head? ≠ some x := by
  have hmem : x ∈ ['+', '-', '.', 'e', 'E'] := List.mem_append_left ['.', 'e', 'E'] hx
  cases h with
  | whole h => exact head?_ne_of_digit hclass hmem h s
  | pointed h hfs =>
    rw [List.append_assoc]
    exact head?_ne_of_digit hclass hmem h _
  | fraction h =>
    rintro ⟨⟩
    exact absurd hx (by decide)

/-- **A mantissa is taken** if neither a digit nor its first point follows. -/
theorem takeMantissa_append (h : SpellsMantissa digit mantissa whole fraction)
    (hdigit : ∀ c ∈ s.head?, digit c = false) (hpoint : '.' ∉ mantissa → s.head? ≠ some '.') :
    takeMantissa digit (mantissa ++ s) = some (whole, fraction, s) := by
  have hnotdigit (t : List Char) : ∀ c ∈ ('.' :: t).head?, digit c = false := by
    rintro c ⟨⟩
    exact not_digit_point hclass
  cases h with
  | whole h =>
    have htaken := takeDigits_append_of_head? h.2 hdigit
    have hmem : '.' ∉ mantissa := fun hmem =>
      absurd (h.2 _ hmem) (by rw [not_digit_point hclass]; exact Bool.false_ne_true)
    obtain ⟨c, ds, rfl⟩ := List.exists_cons_of_ne_nil h.1
    rw [takeMantissa, htaken]
    cases s with
    | nil => rfl
    | cons x s =>
      have hx : x ≠ '.' := fun heq => hpoint hmem (congrArg some heq)
      simp [hx]
  | pointed h hfs =>
    have htaken := takeDigits_append_of_head? h.2 (hnotdigit (fraction ++ s))
    rw [List.append_assoc, List.cons_append, takeMantissa, htaken]
    obtain ⟨c, ds, rfl⟩ := List.exists_cons_of_ne_nil h.1
    simp only [takeDigits_append_of_head? hfs hdigit]
  | fraction h =>
    have htaken := takeDigits_append_of_head? (List.forall_mem_nil _) (hnotdigit (fraction ++ s))
    have htaken' := takeDigits_append_of_head? h.2 hdigit
    obtain ⟨c, fs, rfl⟩ := List.exists_cons_of_ne_nil h.1
    rw [List.nil_append] at htaken
    rw [List.cons_append, takeMantissa, htaken]
    simp only [htaken']

end Mantissa

/-- What is taken is a mantissa. -/
theorem exists_takeMantissa (h : takeMantissa digit s = some (whole, fraction, r)) :
    ∃ mantissa, s = mantissa ++ r ∧ SpellsMantissa digit mantissa whole fraction := by
  obtain ⟨hs, hdigits⟩ := takeDigits_spec digit s
  rw [takeMantissa] at h
  split at h
  · next rest heq =>
    obtain ⟨hrest, hfraction⟩ := takeDigits_spec digit rest
    rw [heq] at hs
    split at h
    · cases h
    · next fs rest' hne heq' =>
      obtain ⟨rfl, rfl, rfl⟩ := h
      rw [heq'] at hrest hfraction
      refine ⟨'.' :: fraction, by rw [hs, hrest]; rfl, .fraction ⟨?_, hfraction⟩⟩
      rintro rfl
      exact hne rfl
  · cases h
  · next ds rest hne heq =>
    obtain ⟨hrest, hfraction⟩ := takeDigits_spec digit rest
    obtain ⟨rfl, rfl, rfl⟩ := h
    rw [heq] at hs hdigits
    refine ⟨whole ++ '.' :: (takeDigits digit rest).1, hs.trans ?_,
      .pointed ⟨hne, hdigits⟩ hfraction⟩
    rw [List.append_assoc]
    exact congrArg (fun t => whole ++ '.' :: t) hrest
  · next hne _ heq =>
    obtain ⟨rfl, rfl, rfl⟩ := h
    rw [heq] at hs hdigits
    exact ⟨whole, hs, .whole ⟨hne, hdigits⟩⟩

/-! ## The exponent -/

/-- **An exponent is taken** if no digit follows it. -/
theorem takePower_append (hclass : IsDigitClass digit) {mark : Char}
    (hmark : isPowerMark mark = true) (hsign : SpellsSign sign negative) (h : IsRun digit ds)
    (hdigit : ∀ c ∈ s.head?, digit c = false) :
    takePower digit (mark :: (sign ++ (ds ++ s))) = (negative, ds, s) := by
  have hmark' : mark = 'e' ∨ mark = 'E' := by simpa [isPowerMark] using hmark
  rw [takePower, if_pos hmark', takeSign_append hsign (head?_ne_of_digit hclass (by decide) h s)
    (head?_ne_of_digit hclass (by decide) h s)]
  dsimp only
  rw [takeDigits_append_of_head? h.2 hdigit]
  obtain ⟨c, ds, rfl⟩ := List.exists_cons_of_ne_nil h.1
  rfl

/-- What is taken is an exponent. -/
theorem exists_takePower (digit : Char → Bool) (s : List Char) :
    ∃ power, s = power ++ (takePower digit s).2.2
      ∧ SpellsPower digit power (takePower digit s).1 (takePower digit s).2.1 := by
  cases s with
  | nil => exact ⟨[], rfl, .none⟩
  | cons c rest =>
    rw [takePower]
    by_cases hmark : c = 'e' ∨ c = 'E'
    · rw [if_pos hmark]
      obtain ⟨sign, hsign, hspells⟩ := exists_takeSign rest
      obtain ⟨hrest, hdigits⟩ := takeDigits_spec digit (takeSign rest).2
      dsimp only
      generalize takeDigits digit (takeSign rest).2 = run at hrest hdigits
      obtain ⟨ds, after⟩ := run
      cases ds with
      | nil => exact ⟨[], rfl, .none⟩
      | cons d ds =>
        refine ⟨c :: (sign ++ d :: ds), ?_, .power (by simpa [isPowerMark] using hmark) hspells
          ⟨List.cons_ne_nil d ds, hdigits⟩⟩
        rw [hsign, hrest]
        simp
    · rw [if_neg hmark]
      exact ⟨[], rfl, .none⟩

/-- **No exponent is taken** where none can begin. -/
theorem takePower_of_not_extends (hpower : d.any isPowerMark = false)
    (h : ¬Extends digit d s) : takePower digit s = (false, [], s) := by
  obtain ⟨power, hs, hspells⟩ := exists_takePower digit s
  generalize hp : takePower digit s = result at hs hspells
  obtain ⟨negative, digits, rest⟩ := result
  cases hspells with
  | none => rw [hs]; rfl
  | @power mark sign ds negative hmark hsign hrun =>
    refine absurd ?_ h
    obtain ⟨c, ds, rfl⟩ := List.exists_cons_of_ne_nil hrun.1
    rw [hs]
    show Extends digit d (mark :: (sign ++ c :: ds) ++ rest)
    rw [List.cons_append, List.append_assoc]
    exact .power _ hpower hmark hsign (hrun.2 c List.mem_cons_self)

/-! ## Marks of an exponent -/

section Marks

variable (hclass : IsDigitClass digit)

include hclass

theorem any_isPowerMark_of_digits (h : ∀ c ∈ ds, digit c = true) :
    ds.any isPowerMark = false := by
  rw [List.any_eq_false]
  intro c hc hmark
  exact absurd (h c hc) (by rw [digit_of_isPowerMark hclass hmark]; exact Bool.false_ne_true)

/-- A sign and a mantissa hold no mark of an exponent. -/
theorem any_isPowerMark_of_spells (hsign : SpellsSign sign negative)
    (h : SpellsMantissa digit mantissa whole fraction) :
    (sign ++ mantissa).any isPowerMark = false := by
  have hmantissa : mantissa.any isPowerMark = false := by
    cases h with
    | whole h => exact any_isPowerMark_of_digits hclass h.2
    | pointed h hfs =>
      rw [List.any_append, any_isPowerMark_of_digits hclass h.2, List.any_cons,
        any_isPowerMark_of_digits hclass hfs]
      rfl
    | fraction h =>
      rw [List.any_cons, any_isPowerMark_of_digits hclass h.2]
      rfl
  rw [List.any_append, hmantissa]
  cases hsign <;> rfl

end Marks

/-! ## The scan -/

/-- What begins with neither a digit nor a point nor a mark goes on with no
literal. -/
theorem not_extends_of_head?
    (h : ∀ c ∈ s.head?, digit c = false ∧ c ≠ '.' ∧ isPowerMark c = false) :
    ¬Extends digit d s := by
  rintro (⟨_, hc⟩ | _ | ⟨_, -, hmark, -, -⟩)
  · rw [(h _ rfl).1] at hc
    exact Bool.false_ne_true hc
  · exact (h _ rfl).2.1 rfl
  · rw [(h _ rfl).2.2] at hmark
    exact Bool.false_ne_true hmark

/-- **What the scan reads is a literal.** -/
theorem exists_scan (h : Numeral.scan digit s = some (n, r)) :
    ∃ d, s = d ++ r ∧ Spells digit d n := by
  obtain ⟨sign, hs, hsign⟩ := exists_takeSign s
  rw [Numeral.scan] at h
  dsimp only at h
  obtain ⟨⟨whole, fraction, t⟩, htaken, heq⟩ := Option.map_eq_some_iff.mp h
  obtain ⟨mantissa, ht, hmantissa⟩ := exists_takeMantissa htaken
  obtain ⟨power, hr, hpower⟩ := exists_takePower digit t
  obtain ⟨rfl, rfl⟩ := Prod.mk.inj heq
  refine ⟨sign ++ (mantissa ++ power), ?_, .parts hsign hmantissa hpower⟩
  rw [hs, ht, List.append_assoc, List.append_assoc, ← hr]

/-- **A literal is read** where it cannot be gone on with. -/
theorem scan_of_not_extends (hclass : IsDigitClass digit) (hd : Spells digit d n)
    (h : ¬Extends digit d s) : Numeral.scan digit (d ++ s) = some (n, s) := by
  have hdigit : ∀ c ∈ s.head?, digit c = false := by
    intro c hc
    obtain ⟨rest, rfl⟩ := List.head?_eq_some_iff.mp hc
    exact Bool.eq_false_iff.mpr fun hc => h (.digit rest hc)
  cases hd with
  | @parts sign mantissa power whole fraction digits _ _ hsign hmantissa hpower =>
    rw [List.append_assoc, List.append_assoc, Numeral.scan,
      takeSign_append hsign (hmantissa.head?_ne hclass (by decide) _)
        (hmantissa.head?_ne hclass (by decide) _)]
    dsimp only
    cases hpower with
    | none =>
      rw [List.append_nil] at h
      have hmark := any_isPowerMark_of_spells hclass hsign hmantissa
      have hpoint : '.' ∉ mantissa → s.head? ≠ some '.' := by
        intro hmem hs
        obtain ⟨rest, rfl⟩ := List.head?_eq_some_iff.mp hs
        have hsign' : '.' ∉ sign := by cases hsign <;> decide
        exact h (.point rest (List.not_mem_append hsign' hmem) hmark)
      rw [List.nil_append, takeMantissa_append hclass hmantissa hdigit hpoint]
      simp only [Option.map_some, takePower_of_not_extends hmark h]
    | @power mark powerSign _ _ hmark hpowerSign hrun =>
      have hnotdigit := digit_of_isPowerMark hclass hmark
      have hpoint : mark ≠ '.' := by
        rintro rfl
        exact absurd hmark (by decide)
      have htaken : takeMantissa digit (mantissa ++ mark :: (powerSign ++ (digits ++ s)))
          = some (whole, fraction, mark :: (powerSign ++ (digits ++ s))) :=
        takeMantissa_append hclass hmantissa (by rintro c ⟨⟩; exact hnotdigit)
          (fun _ heq => hpoint (Option.some.inj heq))
      rw [List.cons_append, List.append_assoc, htaken]
      simp only [Option.map_some, takePower_append hclass hmark hpowerSign hrun hdigit]

/-- A literal that ends the text is read. -/
theorem scan_of_spells (hclass : IsDigitClass digit) (hd : Spells digit d n) :
    Numeral.scan digit d = some (n, []) := by
  have h : Numeral.scan digit (d ++ []) = some (n, []) :=
    scan_of_not_extends hclass hd (by rintro ⟨⟩)
  rwa [List.append_nil] at h

/-! ## The longest literal -/

theorem IsRun.concat {c : Char} (h : ∀ c ∈ ds, digit c = true) (hc : digit c = true) :
    IsRun digit (ds ++ [c]) :=
  ⟨List.concat_ne_nil c ds, List.forall_mem_append.mpr ⟨h, List.forall_mem_singleton.mpr hc⟩⟩

theorem SpellsMantissa.concat {c : Char} (h : SpellsMantissa digit mantissa whole fraction)
    (hc : digit c = true) :
    ∃ whole' fraction', SpellsMantissa digit (mantissa ++ [c]) whole' fraction' := by
  cases h with
  | whole h => exact ⟨_, _, .whole (.concat h.2 hc)⟩
  | pointed h hfs =>
    rw [List.append_assoc]
    exact ⟨_, _, .pointed h (IsRun.concat hfs hc).2⟩
  | fraction h => exact ⟨_, _, .fraction (.concat h.2 hc)⟩

/-- **A literal without an exponent** is a sign and a mantissa. -/
theorem Spells.of_any_isPowerMark (hd : Spells digit d n) (hpower : d.any isPowerMark = false) :
    ∃ sign mantissa negative whole fraction, d = sign ++ mantissa ∧ SpellsSign sign negative
      ∧ SpellsMantissa digit mantissa whole fraction := by
  cases hd with
  | @parts sign mantissa power whole fraction digits negative _ hsign hmantissa hexponent =>
    cases hexponent with
    | none =>
      exact ⟨sign, mantissa, negative, whole, fraction, by rw [List.append_nil], hsign, hmantissa⟩
    | power hmark => simp [hmark] at hpower

/-- A digit behind a literal belongs to it. -/
theorem IsLiteral.concat {c : Char} (hd : IsLiteral digit d) (hc : digit c = true) :
    IsLiteral digit (d ++ [c]) := by
  obtain ⟨n, hd⟩ := hd
  cases hd with
  | @parts sign mantissa power whole fraction digits _ _ hsign hmantissa hpower =>
    rw [List.append_assoc, List.append_assoc]
    cases hpower with
    | none =>
      obtain ⟨whole', fraction', hmantissa'⟩ := hmantissa.concat hc
      rw [List.nil_append, ← List.append_nil (mantissa ++ [c])]
      exact ⟨_, .parts hsign hmantissa' .none⟩
    | power hmark hpowerSign hrun =>
      rw [List.cons_append, List.append_assoc]
      exact ⟨_, .parts hsign hmantissa (.power hmark hpowerSign (.concat hrun.2 hc))⟩

/-- A point behind a literal that has none, nor an exponent, belongs to it. -/
theorem IsLiteral.concat_point (hd : IsLiteral digit d) (hpoint : '.' ∉ d)
    (hpower : d.any isPowerMark = false) : IsLiteral digit (d ++ ['.']) := by
  obtain ⟨n, hd⟩ := hd
  obtain ⟨sign, mantissa, negative, whole, fraction, rfl, hsign, hmantissa⟩ :=
    hd.of_any_isPowerMark hpower
  have hpointed : SpellsMantissa digit (mantissa ++ ['.']) mantissa [] := by
    cases hmantissa with
    | whole h => exact .pointed h (List.forall_mem_nil _)
    | pointed h hfs => simp at hpoint
    | fraction h => simp at hpoint
  rw [List.append_assoc, ← List.append_nil (mantissa ++ ['.'])]
  exact ⟨_, .parts hsign hpointed .none⟩

/-- An exponent behind a literal that has none belongs to it. -/
theorem IsLiteral.append_power (hd : IsLiteral digit d) (hpower : d.any isPowerMark = false)
    (h : SpellsPower digit power negative ds) : IsLiteral digit (d ++ power) := by
  obtain ⟨n, hd⟩ := hd
  obtain ⟨sign, mantissa, _, whole, fraction, rfl, hsign, hmantissa⟩ :=
    hd.of_any_isPowerMark hpower
  rw [List.append_assoc]
  exact ⟨_, .parts hsign hmantissa h⟩

/-- **Where a literal can be gone on with, there is a longer one.** -/
theorem IsLiteral.exists_longer (hd : IsLiteral digit d) (h : Extends digit d s) :
    ∃ d', IsLiteral digit d' ∧ d' <+: d ++ s ∧ d.length < d'.length := by
  suffices hnext : ∃ t u, t ≠ [] ∧ s = t ++ u ∧ IsLiteral digit (d ++ t) by
    obtain ⟨t, u, hne, rfl, hlonger⟩ := hnext
    refine ⟨d ++ t, hlonger, ⟨u, List.append_assoc d t u⟩, ?_⟩
    have := List.length_pos_iff.mpr hne
    rw [List.length_append]
    omega
  cases h with
  | @digit c rest hc => exact ⟨[c], rest, List.cons_ne_nil c [], rfl, hd.concat hc⟩
  | point rest hpoint hpower =>
    exact ⟨['.'], rest, List.cons_ne_nil '.' [], rfl, hd.concat_point hpoint hpower⟩
  | @power mark sign _ c rest hpower hmark hsign hc =>
    refine ⟨mark :: (sign ++ [c]), rest, List.cons_ne_nil _ _, by simp, ?_⟩
    exact hd.append_power hpower (.power hmark hsign (IsRun.concat (List.forall_mem_nil _) hc))

/-- The longest literal cannot be gone on with. -/
theorem IsLongest.not_extends (hd : IsLongest digit d (d ++ s)) : ¬Extends digit d s := by
  intro h
  obtain ⟨d', hd', hstart, hlonger⟩ := hd.literal.exists_longer h
  exact absurd (hd.longest d' hd' hstart) (Nat.not_le.mpr hlonger)

/-- **A text that starts with a literal starts with a longest one.** -/
theorem exists_isLongest {d : List Char} (hd : IsLiteral digit d) (hstart : d <+: s) :
    ∃ d', IsLongest digit d' s := by
  by_cases hlongest : ∀ d', IsLiteral digit d' → d' <+: s → d'.length ≤ d.length
  · exact ⟨d, hd, hstart, hlongest⟩
  · obtain ⟨d', hd', hstart', hlonger⟩ : ∃ d', IsLiteral digit d' ∧ d' <+: s
        ∧ d.length < d'.length := by
      simpa using hlongest
    exact exists_isLongest hd' hstart'
termination_by s.length - d.length
decreasing_by
  have := hstart'.length_le
  omega

/-- The longest literal is read. -/
theorem IsLongest.scan_eq (hclass : IsDigitClass digit) (hd : IsLongest digit d (d ++ s)) :
    ∃ n, Spells digit d n ∧ Numeral.scan digit (d ++ s) = some (n, s) := by
  obtain ⟨n, hn⟩ := hd.literal
  exact ⟨n, hn, scan_of_not_extends hclass hn hd.not_extends⟩

/-- **What the scan reads is the longest literal.** -/
theorem scan_eq_some_iff (hclass : IsDigitClass digit) :
    Numeral.scan digit s = some (n, r) ↔
      ∃ d, s = d ++ r ∧ Spells digit d n ∧ IsLongest digit d s := by
  constructor
  · intro h
    obtain ⟨d, hs, hn⟩ := exists_scan h
    obtain ⟨d', hd'⟩ := exists_isLongest ⟨n, hn⟩ ⟨r, hs.symm⟩
    obtain ⟨r', rfl⟩ := hd'.isPrefix
    obtain ⟨n', -, h'⟩ := hd'.scan_eq hclass
    obtain ⟨rfl, rfl⟩ := Prod.mk.inj (Option.some.inj (h.symm.trans h'))
    obtain rfl := List.append_cancel_right hs
    exact ⟨d', rfl, hn, hd'⟩
  · rintro ⟨d, rfl, hn, hd⟩
    exact scan_of_not_extends hclass hn hd.not_extends

/-- A literal that the scan stops behind is the longest one. -/
theorem isLongest_of_scan (hclass : IsDigitClass digit)
    (h : Numeral.scan digit (d ++ r) = some (n, r)) : IsLongest digit d (d ++ r) := by
  obtain ⟨d', hs, -, hd'⟩ := (scan_eq_some_iff hclass).mp h
  obtain rfl := List.append_cancel_right hs
  exact hd'

/-- **The scan reads nothing** if the text starts with no literal. -/
theorem scan_eq_none_iff (hclass : IsDigitClass digit) :
    Numeral.scan digit s = none ↔ ∀ d, IsLiteral digit d → ¬d <+: s := by
  constructor
  · intro h d hd hstart
    obtain ⟨d', hd'⟩ := exists_isLongest hd hstart
    obtain ⟨r, rfl⟩ := hd'.isPrefix
    obtain ⟨n, -, h'⟩ := hd'.scan_eq hclass
    rw [h] at h'
    cases h'
  · intro h
    cases hscan : Numeral.scan digit s with
    | none => rfl
    | some result =>
      obtain ⟨d, hs, hn⟩ := exists_scan hscan
      exact absurd ⟨result.2, hs.symm⟩ (h d ⟨result.1, hn⟩)

end Scan

/-! ## Kinds of digits -/

section Kinds

variable {digit digit' : Char → Bool} {d s mantissa power whole fraction ds : List Char}
  {negative : Bool} {n : Numeral}

theorem IsRun.change (h : IsRun digit s) (hs : ∀ c ∈ s, digit' c = true) : IsRun digit' s :=
  ⟨h.1, hs⟩

theorem SpellsMantissa.change (h : SpellsMantissa digit mantissa whole fraction)
    (hwhole : ∀ c ∈ whole, digit' c = true) (hfraction : ∀ c ∈ fraction, digit' c = true) :
    SpellsMantissa digit' mantissa whole fraction := by
  cases h with
  | whole h => exact .whole (h.change hwhole)
  | pointed h _ => exact .pointed (h.change hwhole) hfraction
  | fraction h => exact .fraction (h.change hfraction)

theorem SpellsPower.change (h : SpellsPower digit power negative ds)
    (hds : ∀ c ∈ ds, digit' c = true) : SpellsPower digit' power negative ds := by
  cases h with
  | none => exact .none
  | power hmark hsign h => exact .power hmark hsign (h.change hds)

/-- **All digits of a numeral**. -/
def Numeral.digits (n : Numeral) : List Char :=
  n.whole ++ n.fraction ++ n.power

/-- A literal is one in every kind of digits that its digits are of. -/
theorem Spells.change (h : Spells digit d n) (hdigits : ∀ c ∈ n.digits, digit' c = true) :
    Spells digit' d n := by
  obtain ⟨hsign, hmantissa, hpower⟩ := h
  obtain ⟨hwhole, hfraction⟩ := List.forall_mem_append.mp (List.forall_mem_append.mp hdigits).1
  exact .parts hsign (hmantissa.change hwhole hfraction)
    (hpower.change (List.forall_mem_append.mp hdigits).2)

/-- The digits of a literal are digits. -/
theorem Spells.forall_mem_digits (h : Spells digit d n) : ∀ c ∈ n.digits, digit c = true := by
  obtain ⟨hsign, hmantissa, hpower⟩ := h
  refine List.forall_mem_append.mpr ⟨List.forall_mem_append.mpr ?_, ?_⟩
  · cases hmantissa with
    | whole h => exact ⟨h.2, List.forall_mem_nil _⟩
    | pointed h hfs => exact ⟨h.2, hfs⟩
    | fraction h => exact ⟨List.forall_mem_nil _, h.2⟩
  · cases hpower with
    | none => exact List.forall_mem_nil _
    | power hmark hsign h => exact h.2

theorem Numeral.isAscii_iff : n.isAscii = true ↔ ∀ c ∈ n.digits, c.isDigit = true := by
  simp [Numeral.isAscii, Numeral.digits, or_imp, forall_and, and_assoc]

end Kinds

end SoundSheet.Decimal
