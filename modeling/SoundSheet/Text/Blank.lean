/-!
# Blank characters and trimming

Formulas, ranges and numbers all set aside the white space around them. What
counts as white space is the Unicode property White_Space, which is wider than
the four ASCII blanks: it holds the no-break space, the ideographic space and
the line and paragraph separators as well.

Texts are lists of characters here and in every module that takes a text
apart, so that each function is a recursion on the data.
-/

namespace SoundSheet.Text

/-- **White space**: the characters with the Unicode property White_Space. -/
def isBlank (c : Char) : Bool :=
  let n := c.toNat
  (9 ≤ n && n ≤ 13) || n == 32 || n == 0x85 || n == 0xA0 || n == 0x1680
    || (0x2000 ≤ n && n ≤ 0x200A) || n == 0x2028 || n == 0x2029 || n == 0x202F
    || n == 0x205F || n == 0x3000

/-- The text without the white space it starts with. -/
def trimStart (s : List Char) : List Char :=
  s.dropWhile isBlank

/-- The text without the white space it ends with. -/
def trimEnd (s : List Char) : List Char :=
  (s.reverse.dropWhile isBlank).reverse

/-- The text without the white space at either end. -/
def trim (s : List Char) : List Char :=
  trimEnd (trimStart s)

/-! ## What trimming does -/

/-- A space is white space. -/
theorem isBlank_of_mem_space : ∀ c ∈ [' '], isBlank c = true :=
  List.forall_mem_singleton.mpr rfl

theorem trimStart_nil : trimStart [] = [] := rfl

theorem trimStart_cons_of_blank {c : Char} (s : List Char) (h : isBlank c = true) :
    trimStart (c :: s) = trimStart s :=
  List.dropWhile_cons_of_pos h

theorem trimStart_cons_of_not_blank {c : Char} (s : List Char) (h : isBlank c = false) :
    trimStart (c :: s) = c :: s :=
  List.dropWhile_cons_of_neg (by rw [h]; exact Bool.false_ne_true)

/-- White space in front of a text is taken away. -/
theorem trimStart_blank_append {z : List Char} (hz : ∀ c ∈ z, isBlank c = true) (s : List Char) :
    trimStart (z ++ s) = trimStart s :=
  List.dropWhile_append_of_pos hz

/-- A text is white space and what is left when that is taken away. -/
theorem exists_trimStart (s : List Char) :
    ∃ z, (∀ c ∈ z, isBlank c = true) ∧ s = z ++ trimStart s :=
  ⟨s.takeWhile isBlank, List.all_eq_true.mp List.all_takeWhile,
    List.takeWhile_append_dropWhile.symm⟩

/-- What is left begins with a character that is no white space. -/
theorem isBlank_head_trimStart {c : Char} {s r : List Char} (h : trimStart s = c :: r) :
    isBlank c = false := by
  induction s with
  | nil => cases h
  | cons d s ih =>
    cases hd : isBlank d with
    | true => exact ih (by rw [← h, trimStart_cons_of_blank s hd])
    | false =>
      rw [trimStart_cons_of_not_blank s hd] at h
      cases h
      exact hd

theorem trimStart_eq_self {s : List Char} (h : ∀ c ∈ s, isBlank c = false) :
    trimStart s = s := by
  cases s with
  | nil => rfl
  | cons c s => exact trimStart_cons_of_not_blank s (h c List.mem_cons_self)

/-- A text without white space is left as it is. -/
theorem trim_eq_self {s : List Char} (h : ∀ c ∈ s, isBlank c = false) : trim s = s := by
  rw [trim, trimStart_eq_self h, trimEnd, ← trimStart,
    trimStart_eq_self fun c hc => h c (List.mem_reverse.mp hc), List.reverse_reverse]

end SoundSheet.Text
