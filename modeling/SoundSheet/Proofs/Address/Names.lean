import Mathlib.Algebra.Order.Ring.Nat
import Mathlib.Data.List.Induction
import Mathlib.Data.List.TakeWhile
import Mathlib.Tactic.Ring
import SoundSheet.Address.Region

/-!
# Names of cells

The two halves of a cell name are numerals, in which every digit counts by its
place (`placeValue`). Names are read from the left, digit by digit, and every
product and sum on the way has to be a word of 64 bits. Since a numeral only
grows as it is read on, nothing is lost by this: reading fails exactly if the
number itself is no word (`readOn?_zero`).

Column letters count from one to twenty-six, so every number has exactly one
spelling in them. Row digits count from zero, so a number has one spelling that
does not start with a zero, and all others come of it by zeros in front. Hence a
text that names a cell is the written name of that cell, but for the leading
zeros of its row number (`write_eq_withoutZeros`), and two texts name the same
cell exactly if they agree without these.
-/

namespace SoundSheet

open SoundSheet.Decimal SoundSheet.Text

namespace Address

/-! ## Values of numerals -/

/-- **The number that digits denote in a base**: every digit counts by its
place. -/
def placeValue (base : Nat) (digit : Char → Nat) : List Char → Nat
  | [] => 0
  | c :: rest => digit c * base ^ rest.length + placeValue base digit rest

section PlaceValue

variable {base : Nat} {digit : Char → Nat}

/-- A digit at the end moves all others one place up. -/
theorem placeValue_append_singleton (s : List Char) (c : Char) :
    placeValue base digit (s ++ [c]) = base * placeValue base digit s + digit c := by
  induction s with
  | nil => simp [placeValue]
  | cons d s ih =>
    rw [List.cons_append, placeValue, placeValue, ih, List.length_append, List.length_singleton]
    ring

theorem word?_eq_none {n : Nat} (h : limit < n) : word? n = none :=
  if_neg (Nat.not_le.mpr h)

theorem word?_eq_some {n : Nat} (h : n ≤ limit) : word? n = some n :=
  if_pos h

/-- **Reading on with checks on the way** is reading on, with one check at the
end. -/
theorem readOn?_eq (hbase : 0 < base) : ∀ (s : List Char) {n : Nat}, n ≤ limit →
    readOn? base digit n s = word? (n * base ^ s.length + placeValue base digit s)
  | [], n, hn => by
    rw [readOn?, placeValue, List.length_nil, Nat.pow_zero, Nat.mul_one, Nat.add_zero,
      word?_eq_some hn]
  | c :: rest, n, hn => by
    have hvalue : n * base ^ (c :: rest).length + placeValue base digit (c :: rest)
        = (base * n + digit c) * base ^ rest.length + placeValue base digit rest := by
      rw [placeValue, List.length_cons]
      ring
    rw [readOn?, hvalue]
    by_cases h : base * n + digit c ≤ limit
    · rw [word?_eq_some (by omega), Option.bind_some, word?_eq_some h, Option.bind_some]
      exact readOn?_eq hbase rest h
    · -- the number has outgrown a word, and is at least as large at the end
      have hle : base * n + digit c ≤ (base * n + digit c) * base ^ rest.length :=
        Nat.le_mul_of_pos_right _ (Nat.pow_pos hbase)
      rw [word?_eq_none (n := _ + placeValue base digit rest) (by omega)]
      by_cases hproduct : base * n ≤ limit
      · rw [word?_eq_some hproduct, Option.bind_some, word?_eq_none (by omega)]
        rfl
      · rw [word?_eq_none (by omega)]
        rfl

theorem readOn?_zero (hbase : 0 < base) (s : List Char) :
    readOn? base digit 0 s = word? (placeValue base digit s) := by
  rw [readOn?_eq hbase s (Nat.zero_le _), Nat.zero_mul, Nat.zero_add]

/-- A number that is counted from one is a word above zero. -/
theorem bind_fromZero?_eq_some_iff {n m : Nat} :
    (word? n).bind fromZero? = some m ↔ n = m + 1 ∧ n ≤ limit := by
  by_cases h : n ≤ limit
  · rw [word?_eq_some h, Option.bind_some]
    cases n with
    | zero =>
      exact iff_of_false (Option.some_ne_none m).symm fun heq => Nat.succ_ne_zero m heq.1.symm
    | succ n =>
      rw [fromZero?, Option.some.injEq]
      exact ⟨fun heq => ⟨congrArg (· + 1) heq, h⟩, fun heq => Nat.succ.inj heq.1⟩
  · rw [word?_eq_none (Nat.not_le.mp h)]
    exact iff_of_false (Option.some_ne_none m).symm fun heq => h heq.2

end PlaceValue

/-! ## Column letters -/

/-- The number, counted from one, that column letters denote. -/
def columnNumber (letters : List Char) : Nat :=
  placeValue 26 letterValue letters

theorem isUpper_iff {c : Char} : c.isUpper ↔ 'A' ≤ c ∧ c ≤ 'Z' := by
  exact decide_eq_true_iff (p := 'A' ≤ c ∧ c ≤ 'Z')

theorem toNat_of_isUpper {c : Char} (h : c.isUpper) : 65 ≤ c.toNat ∧ c.toNat ≤ 90 :=
  isUpper_iff.mp h

theorem toNat_letter : ∀ {d : Nat}, d < 26 → (letter d).toNat = 65 + d := by
  decide

theorem isUpper_letter {d : Nat} (h : d < 26) : (letter d).isUpper := by
  rw [isUpper_iff, Char.le_def, Char.le_def, UInt32.le_iff_toNat_le, UInt32.le_iff_toNat_le]
  show 65 ≤ (letter d).toNat ∧ (letter d).toNat ≤ 90
  rw [toNat_letter h]
  omega

theorem letterValue_letter {d : Nat} (h : d < 26) : letterValue (letter d) = d + 1 := by
  rw [letterValue, toNat_letter h, show 'A'.toNat = 65 from rfl]
  omega

/-- A capital letter is the letter of what it counts. -/
theorem exists_letter_eq {c : Char} (h : c.isUpper) : ∃ d < 26, letter d = c := by
  have hc := toNat_of_isUpper h
  refine ⟨c.toNat - 65, by omega, Char.toNat_inj.mp ?_⟩
  rw [toNat_letter (by omega)]
  omega

/-- **Column letters denote the number that they were made of.** -/
theorem columnNumber_columnLetters (n : Nat) : columnNumber (columnLetters n) = n := by
  induction n using Nat.strong_induction_on with
  | _ n ih =>
    cases n with
    | zero =>
      rw [columnLetters_zero]
      rfl
    | succ n =>
      rw [columnLetters_succ, columnNumber, placeValue_append_singleton, ← columnNumber,
        ih (n / 26) (by omega), letterValue_letter (Nat.mod_lt n (by decide))]
      omega

/-- **Every row of capital letters is made of the number that it denotes.** -/
theorem columnLetters_columnNumber {letters : List Char} (h : ∀ c ∈ letters, c.isUpper) :
    columnLetters (columnNumber letters) = letters := by
  induction letters using List.reverseRecOn with
  | nil => exact columnLetters_zero
  | append_singleton letters c ih =>
    obtain ⟨d, hd, rfl⟩ := exists_letter_eq (h c (by simp))
    have hrest := ih fun c hc => h c (List.mem_append_left _ hc)
    rw [columnNumber, placeValue_append_singleton, ← columnNumber, letterValue_letter hd,
      ← Nat.add_assoc, columnLetters_succ]
    rw [show (26 * columnNumber letters + d) / 26 = columnNumber letters by omega,
      show (26 * columnNumber letters + d) % 26 = d by omega, hrest]

theorem isUpper_of_mem_columnLetters {n : Nat} {c : Char} (h : c ∈ columnLetters n) :
    c.isUpper := by
  induction n using Nat.strong_induction_on with
  | _ n ih =>
    cases n with
    | zero =>
      rw [columnLetters_zero] at h
      exact nomatch h
    | succ n =>
      rw [columnLetters_succ] at h
      rcases List.mem_append.mp h with h | h
      · exact ih (n / 26) (by omega) h
      · rw [List.mem_singleton.mp h]
        exact isUpper_letter (Nat.mod_lt n (by decide))

theorem columnLabel_ne_nil (col : Nat) : columnLabel col ≠ [] := by
  rw [columnLabel, columnLetters_succ]
  exact List.append_ne_nil_of_right_ne_nil _ (List.cons_ne_nil _ _)

/-! ## Row digits -/

/-- The number that decimal digits denote. -/
def decimalNumber (digits : List Char) : Nat :=
  placeValue 10 digitValue digits

theorem isDigit_iff {c : Char} : c.isDigit ↔ '0' ≤ c ∧ c ≤ '9' := by
  rw [Char.isDigit, Bool.and_eq_true, decide_eq_true_iff, decide_eq_true_iff]
  exact Iff.rfl

theorem toNat_of_isDigit {c : Char} (h : c.isDigit) : 48 ≤ c.toNat ∧ c.toNat ≤ 57 :=
  isDigit_iff.mp h

theorem digitValue_lt {c : Char} (h : c.isDigit) : digitValue c < 10 := by
  have hc := toNat_of_isDigit h
  rw [digitValue, show '0'.toNat = 48 from rfl]
  omega

/-- A digit stands for what it counts. -/
theorem digitsOf_digitValue {c : Char} (h : c.isDigit) : digitsOf (digitValue c) = [c] := by
  have hc := toNat_of_isDigit h
  have hchar : (digitValue c).digitChar = c := by
    refine Char.toNat_inj.mp ?_
    rw [Nat.toNat_digitChar_of_lt_ten (digitValue_lt h), digitValue, show '0'.toNat = 48 from rfl]
    omega
  rw [digitsOf, Nat.toDigits_of_lt_base (digitValue_lt h), hchar]

theorem digitValue_digitChar {d : Nat} (h : d < 10) : digitValue d.digitChar = d := by
  rw [digitValue, Nat.toNat_digitChar_of_lt_ten h, show '0'.toNat = 48 from rfl]
  omega

/-- **Digits denote the number that they were made of.** -/
theorem decimalNumber_digitsOf (n : Nat) : decimalNumber (digitsOf n) = n := by
  induction n using Nat.strong_induction_on with
  | _ n ih =>
    rw [digitsOf, Nat.toDigits_eq_if (by decide)]
    split
    · next hlt =>
      rw [decimalNumber, placeValue, placeValue, digitValue_digitChar hlt]
      simp
    · next hle =>
      rw [decimalNumber, placeValue_append_singleton, ← decimalNumber, ← digitsOf,
        ih (n / 10) (by omega), digitValue_digitChar (Nat.mod_lt n (by decide))]
      omega

/-- **Digits that do not start with a zero** are made of the number that they
denote. -/
theorem digitsOf_decimalNumber {digits : List Char} (hne : digits ≠ [])
    (hdigits : ∀ c ∈ digits, c.isDigit) (hhead : digits.head? ≠ some '0') :
    digitsOf (decimalNumber digits) = digits := by
  induction digits using List.reverseRecOn with
  | nil => exact absurd rfl hne
  | append_singleton digits c ih =>
    have hc : c.isDigit := hdigits c (by simp)
    cases digits with
    | nil =>
      rw [List.nil_append, decimalNumber, placeValue, placeValue]
      simpa using digitsOf_digitValue hc
    | cons d digits =>
      have hrest := ih (List.cons_ne_nil _ _) (fun c hc => hdigits c (List.mem_append_left _ hc))
        hhead
      -- the digits before the last one are those of a number above zero
      have hpos : 0 < decimalNumber (d :: digits) := by
        refine Nat.pos_of_ne_zero fun hzero => ?_
        rw [hzero] at hrest
        rw [List.cons_append, ← (List.cons.inj hrest).1] at hhead
        exact hhead rfl
      rw [decimalNumber, placeValue_append_singleton, ← decimalNumber, digitsOf,
        ← Nat.toDigits_append_toDigits (by decide) hpos (digitValue_lt hc), ← digitsOf, hrest,
        ← digitsOf, digitsOf_digitValue hc]

/-- Zeros in front count nothing. -/
theorem decimalNumber_dropWhile (digits : List Char) :
    decimalNumber (digits.dropWhile (· == '0')) = decimalNumber digits := by
  induction digits with
  | nil => rfl
  | cons c digits ih =>
    rw [List.dropWhile_cons]
    split
    · next hzero =>
      obtain rfl : c = '0' := beq_iff_eq.mp hzero
      rw [ih, decimalNumber, decimalNumber, placeValue, show digitValue '0' = 0 from rfl,
        Nat.zero_mul, Nat.zero_add]
    · rfl

/-- **The digits of a number above zero** are any that denote it, but for zeros
in front. -/
theorem digitsOf_eq_dropWhile {digits : List Char} (hdigits : ∀ c ∈ digits, c.isDigit)
    (hpos : 0 < decimalNumber digits) :
    digitsOf (decimalNumber digits) = digits.dropWhile (· == '0') := by
  rw [← decimalNumber_dropWhile] at hpos ⊢
  refine digitsOf_decimalNumber (fun hnil => ?_) (fun c hc => ?_) fun hhead => ?_
  · rw [hnil] at hpos
    exact absurd hpos (Nat.lt_irrefl 0)
  · exact hdigits c (List.dropWhile_sublist _ |>.subset hc)
  · have hnot := List.head?_dropWhile_not (· == '0') digits
    rw [hhead] at hnot
    exact absurd hnot (by decide)

theorem isDigit_of_mem_digitsOf {n : Nat} {c : Char} (h : c ∈ digitsOf n) : c.isDigit :=
  Nat.isDigit_of_mem_toDigits (by decide) (by decide) h

/-- The digits of a number are digits only. -/
theorem not_mem_digitsOf {c : Char} (hc : c.isDigit = false) (n : Nat) : c ∉ digitsOf n :=
  fun h => by
    rw [isDigit_of_mem_digitsOf h] at hc
    exact Bool.false_ne_true hc.symm

theorem digitsOf_ne_nil (n : Nat) : digitsOf n ≠ [] := by
  rw [digitsOf, Nat.toDigits_eq_if (by decide)]
  split
  · exact List.cons_ne_nil _ _
  · exact List.append_ne_nil_of_right_ne_nil _ (List.cons_ne_nil _ _)

/-! ## Letters and digits of a name -/

/-- **Letters and digits that spell an address**: one or more capital letters
and one or more digits, and the numbers that they denote, which are those of the
column and the row counted from one, are at most the largest word. -/
structure Spells (letters digits : List Char) (a : Address) : Prop where
  /-- There are letters. -/
  letters_ne_nil : letters ≠ []
  /-- They are capital letters. -/
  upper : ∀ c ∈ letters, 'A' ≤ c ∧ c ≤ 'Z'
  /-- There are digits. -/
  digits_ne_nil : digits ≠ []
  /-- They are decimal digits. -/
  digit : ∀ c ∈ digits, '0' ≤ c ∧ c ≤ '9'
  /-- The letters denote the column. -/
  col_eq : columnNumber letters = a.col + 1
  /-- The column number is a word. -/
  col_le : columnNumber letters ≤ 2 ^ 64 - 1
  /-- The digits denote the row. -/
  row_eq : decimalNumber digits = a.row + 1
  /-- The row number is a word. -/
  row_le : decimalNumber digits ≤ 2 ^ 64 - 1

theorem not_isUpper_of_isDigit {c : Char} (h : c.isDigit) : ¬c.isUpper := by
  intro hupper
  have hdigit := toNat_of_isDigit h
  have hletter := toNat_of_isUpper hupper
  omega

section Split

variable {letters digits : List Char} (hletters : ∀ c ∈ letters, c.isUpper)
  (hdigits : ∀ c ∈ digits, c.isDigit)

include hletters hdigits

/-- The letters of a name end where its digits start. -/
theorem lettersOf_append : lettersOf (letters ++ digits) = letters := by
  rw [lettersOf, List.takeWhile_append_of_pos hletters]
  cases digits with
  | nil => exact List.append_nil _
  | cons c digits =>
    rw [List.takeWhile_cons_of_neg (not_isUpper_of_isDigit (hdigits c List.mem_cons_self)),
      List.append_nil]

theorem numberOf_append : numberOf (letters ++ digits) = digits := by
  rw [numberOf, List.dropWhile_append_of_pos hletters]
  cases digits with
  | nil => rfl
  | cons c digits =>
    exact List.dropWhile_cons_of_neg (not_isUpper_of_isDigit (hdigits c List.mem_cons_self))

end Split

theorem lettersOf_append_numberOf (s : List Char) : lettersOf s ++ numberOf s = s :=
  List.takeWhile_append_dropWhile

theorem isUpper_of_mem_lettersOf {s : List Char} {c : Char} (h : c ∈ lettersOf s) : c.isUpper :=
  List.mem_takeWhile_imp h

theorem hasShape_iff {s : List Char} :
    hasShape s ↔ lettersOf s ≠ [] ∧ numberOf s ≠ [] ∧ ∀ c ∈ numberOf s, c.isDigit := by
  rw [hasShape, Bool.and_eq_true, Bool.and_eq_true, decide_eq_true_iff, decide_eq_true_iff,
    List.all_eq_true, and_assoc]

theorem columnIndex?_eq_some_iff {letters : List Char} {col : Nat} :
    columnIndex? letters = some col ↔ letters ≠ [] ∧ (∀ c ∈ letters, c.isUpper)
      ∧ columnNumber letters = col + 1 ∧ columnNumber letters ≤ limit := by
  rw [columnIndex?, readOn?_zero (by decide), ← columnNumber]
  split
  · next h =>
    rw [bind_fromZero?_eq_some_iff]
    exact ⟨fun hcol => ⟨h.1, List.all_eq_true.mp h.2, hcol⟩, fun hcol => hcol.2.2⟩
  · next h =>
    refine iff_of_false (fun heq => nomatch heq) fun hcol => h ⟨hcol.1, ?_⟩
    exact List.all_eq_true.mpr hcol.2.1

theorem rowIndex?_eq_some_iff {digits : List Char} {row : Nat} :
    rowIndex? digits = some row
      ↔ decimalNumber digits = row + 1 ∧ decimalNumber digits ≤ limit := by
  rw [rowIndex?, readOn?_zero (by decide), ← decimalNumber, bind_fromZero?_eq_some_iff]

/-- **A text names an address** if it is made of letters and digits that spell
it. -/
theorem parse?_append {letters digits : List Char} {a : Address} (h : Spells letters digits a) :
    parse? (letters ++ digits) = some a := by
  have hletters : ∀ c ∈ letters, c.isUpper := fun c hc => isUpper_iff.mpr (h.upper c hc)
  have hdigits : ∀ c ∈ digits, c.isDigit := fun c hc => isDigit_iff.mpr (h.digit c hc)
  have hcol := columnIndex?_eq_some_iff.mpr ⟨h.letters_ne_nil, hletters, h.col_eq, h.col_le⟩
  have hrow := rowIndex?_eq_some_iff.mpr ⟨h.row_eq, h.row_le⟩
  have hshape : hasShape (letters ++ digits) := by
    rw [hasShape_iff, lettersOf_append hletters hdigits, numberOf_append hletters hdigits]
    exact ⟨h.letters_ne_nil, h.digits_ne_nil, hdigits⟩
  rw [parse?, if_pos hshape, lettersOf_append hletters hdigits,
    numberOf_append hletters hdigits, hcol, hrow]
  rfl

/-- **Only such a text does**, and its letters and digits are those that it
falls into. -/
theorem spells_of_parse? {s : List Char} {a : Address} (h : parse? s = some a) :
    Spells (lettersOf s) (numberOf s) a := by
  rw [parse?] at h
  split at h
  · next hshape =>
    obtain ⟨hletters, hnumber, hdigits⟩ := hasShape_iff.mp hshape
    obtain ⟨col, hcol, h⟩ := Option.bind_eq_some_iff.mp h
    obtain ⟨row, hrow, h⟩ := Option.bind_eq_some_iff.mp h
    obtain rfl := Option.some.inj h
    obtain ⟨-, -, hcol, hcol_le⟩ := columnIndex?_eq_some_iff.mp hcol
    obtain ⟨hrow, hrow_le⟩ := rowIndex?_eq_some_iff.mp hrow
    exact ⟨hletters, fun c hc => isUpper_iff.mp (isUpper_of_mem_lettersOf hc), hnumber,
      fun c hc => isDigit_iff.mp (hdigits c hc), hcol, hcol_le, hrow, hrow_le⟩
  · cases h

/-! ## Written names -/

/-- The written name of an address whose row and column are small enough spells
it. -/
theorem spells_write {a : Address} (hrow : a.row < limit) (hcol : a.col < limit) :
    Spells (columnLabel a.col) (digitsOf (rowNumber a.row)) a := by
  have hcolumn : columnNumber (columnLabel a.col) = a.col + 1 := columnNumber_columnLetters _
  have hdecimal : decimalNumber (digitsOf (rowNumber a.row)) = a.row + 1 := by
    rw [decimalNumber_digitsOf, rowNumber_of_lt hrow]
  exact ⟨columnLabel_ne_nil _, fun c hc => isUpper_iff.mp (isUpper_of_mem_columnLetters hc),
    digitsOf_ne_nil _, fun c hc => isDigit_iff.mp (isDigit_of_mem_digitsOf hc), hcolumn,
    hcolumn.trans_le hcol, hdecimal, hdecimal.trans_le hrow⟩

theorem parse?_write {a : Address} (hrow : a.row < limit) (hcol : a.col < limit) :
    parse? a.write = some a :=
  parse?_append (spells_write hrow hcol)

/-- A text without the leading zeros of its row number. -/
def withoutZeros (s : List Char) : List Char :=
  lettersOf s ++ (numberOf s).dropWhile (· == '0')

section Parsed

variable {s : List Char} {a : Address} (h : parse? s = some a)

include h

theorem row_lt_of_parse? : a.row < limit := by
  have hrow := (spells_of_parse? h).row_le
  rw [(spells_of_parse? h).row_eq] at hrow
  exact hrow

theorem col_lt_of_parse? : a.col < limit := by
  have hcol := (spells_of_parse? h).col_le
  rw [(spells_of_parse? h).col_eq] at hcol
  exact hcol

/-- **A text that names an address is its written name**, but for leading
zeros. -/
theorem write_eq_withoutZeros : a.write = withoutZeros s := by
  have hspells := spells_of_parse? h
  have hletters : columnLabel a.col = lettersOf s := by
    rw [columnLabel, ← hspells.col_eq]
    exact columnLetters_columnNumber fun c hc => isUpper_of_mem_lettersOf hc
  have hdigits : digitsOf (rowNumber a.row) = (numberOf s).dropWhile (· == '0') := by
    rw [rowNumber_of_lt (row_lt_of_parse? h), ← hspells.row_eq]
    refine digitsOf_eq_dropWhile (fun c hc => isDigit_iff.mpr (hspells.digit c hc)) ?_
    rw [hspells.row_eq]
    exact Nat.succ_pos _
  rw [write, hletters, hdigits, withoutZeros]

/-- **Two texts name the same address** exactly if they agree but for leading
zeros. -/
theorem eq_iff_withoutZeros_eq {t : List Char} {b : Address} (ht : parse? t = some b) :
    a = b ↔ withoutZeros s = withoutZeros t := by
  rw [← write_eq_withoutZeros h, ← write_eq_withoutZeros ht]
  refine ⟨congrArg write, fun hwrite => Option.some.inj ?_⟩
  rw [← parse?_write (row_lt_of_parse? h) (col_lt_of_parse? h), hwrite,
    parse?_write (row_lt_of_parse? ht) (col_lt_of_parse? ht)]

end Parsed

end Address

/-! ## Names of regions -/

namespace Region

/-- A text without colons ends at the first colon behind it. -/
theorem splitColon?_append {s : List Char} (h : ':' ∉ s) (t : List Char) :
    splitColon? (s ++ ':' :: t) = some (s, t) := by
  induction s with
  | nil => rfl
  | cons c s ih =>
    have hc : c ≠ ':' := fun heq => h (heq ▸ List.mem_cons_self)
    rw [List.cons_append, splitColon?, if_neg hc, ih fun hs => h (List.mem_cons_of_mem _ hs)]
    rfl

/-- **Written names are made of capital letters and digits.** -/
theorem toNat_of_mem_write {a : Address} {c : Char} (h : c ∈ a.write) :
    48 ≤ c.toNat ∧ c.toNat ≤ 90 ∧ c.toNat ≠ 58 := by
  rcases List.mem_append.mp h with h | h
  · have hc := Address.toNat_of_isUpper (Address.isUpper_of_mem_columnLetters h)
    omega
  · have hc := Address.toNat_of_isDigit (Address.isDigit_of_mem_digitsOf h)
    omega

/-- There is no white space in them. -/
theorem isBlank_of_mem_write {a : Address} {c : Char} (h : c ∈ a.write) : isBlank c = false := by
  obtain ⟨hlow, hhigh, -⟩ := toNat_of_mem_write h
  simp only [isBlank, Bool.or_eq_false_iff, Bool.and_eq_false_iff, beq_eq_false_iff_ne,
    decide_eq_false_iff_not]
  omega

theorem trim_write (a : Address) : trim a.write = a.write :=
  trim_eq_self fun _ hc => isBlank_of_mem_write hc

/-- **The written name of a region names it**, if its corners are small
enough. -/
theorem parse?_toText {r : Region}
    (hfirst : r.first.row < Address.limit ∧ r.first.col < Address.limit)
    (hlast : r.last.row < Address.limit ∧ r.last.col < Address.limit) :
    parse? r.toText.toList = some r := by
  have htext : r.toText.toList = r.first.write ++ ':' :: r.last.write := by
    simp only [toText, Address.toText, String.toList_append, String.toList_ofList,
      List.append_assoc]
    rfl
  have hcolon : ':' ∉ r.first.write := fun h => (toNat_of_mem_write h).2.2 rfl
  rw [htext, parse?, splitColon?_append hcolon]
  dsimp only
  rw [trim_write, trim_write, Address.parse?_write hfirst.1 hfirst.2,
    Address.parse?_write hlast.1 hlast.2]

end Region

/-! ## Names and addresses -/

namespace Address

/-- **Names and addresses are inverse to each other**, on all numbers that are
words of 64 bits. The texts that name an address are those made of capital
letters and digits whose numbers, counted from one, are words; and they name the
address with these numbers. An address with smaller row and column has a written
name, which names it, and so has a region of two such addresses. A text that
names an address is its written name when the leading zeros of its row number
are left out, and two such texts name the same address exactly if they agree
without these zeros. -/
theorem parse?_write_inverse :
    (∀ s a, parse? s = some a
        ↔ ∃ letters digits, s = letters ++ digits ∧ Spells letters digits a)
      ∧ (∀ a : Address, a.row < 2 ^ 64 - 1 → a.col < 2 ^ 64 - 1 →
          parse? a.toText.toList = some a)
      ∧ (∀ r : Region, r.first.row < 2 ^ 64 - 1 → r.first.col < 2 ^ 64 - 1 →
          r.last.row < 2 ^ 64 - 1 → r.last.col < 2 ^ 64 - 1 →
            Region.parse? r.toText.toList = some r)
      ∧ (∀ s a, parse? s = some a → a.toText.toList = withoutZeros s)
      ∧ ∀ s t a b, parse? s = some a → parse? t = some b →
          (a = b ↔ withoutZeros s = withoutZeros t) := by
  have hlist : ∀ a : Address, a.toText.toList = a.write := fun a => String.toList_ofList
  refine ⟨fun s a => ⟨fun h => ?_, fun h => ?_⟩, fun a hrow hcol => ?_,
    fun r hfirst hfirst' hlast hlast' => Region.parse?_toText ⟨hfirst, hfirst'⟩ ⟨hlast, hlast'⟩,
    fun s a h => ?_, fun s t a b hs ht => eq_iff_withoutZeros_eq hs ht⟩
  · exact ⟨_, _, (lettersOf_append_numberOf s).symm, spells_of_parse? h⟩
  · obtain ⟨letters, digits, rfl, hspells⟩ := h
    exact parse?_append hspells
  · rw [hlist]
    exact parse?_write hrow hcol
  · rw [hlist]
    exact write_eq_withoutZeros h

/-- The last column and the last row that have names. -/
example : parse? "GKGWBYLWRXTLPO18446744073709551615".toList
    = some ⟨2 ^ 64 - 2, 2 ^ 64 - 2⟩ := by decide +kernel

/-- There is no name for the column behind it. -/
example : parse? "GKGWBYLWRXTLPP1".toList = none := by decide +kernel

end Address

end SoundSheet
