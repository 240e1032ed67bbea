import Mathlib.Data.Finset.Lattice.Fold
import Mathlib.Data.Fintype.Basic
import Mathlib.Order.Lattice.Nat
import SoundSheet.Formula.Evaluation
import SoundSheet.Proofs.Address.Names
import SoundSheet.Proofs.Formula.Writing

/-!
# Trees of calls

A call of a builtin may have calls for arguments. Here such formulas are trees:
of calls of the builtins that make texts, tempos, beats, tones and envelopes,
each with as many arguments as it accepts, down to leaves that are quoted texts,
unsigned numerals and names of cells (`CallTree`). The conditions on names,
digits and numbers of arguments are part of the tree, so every tree is a
formula.

The tokens of a tree are tight and stay in one piece, and so the arguments of a
call are handed on as the texts of its subtrees (`CallTree.argumentTexts_call`).
Of the rules for what an argument means, one of the first three or the last
holds for a leaf, which therefore is a cell or a value
(`Leaf.argumentValue_token`), and the one for calls holds for a call
(`CallTree.argumentValue_text`).
-/

namespace SoundSheet

open SoundSheet.Text SoundSheet.Decimal

/-! ## Names -/

theorem Text.isLower_iff {c : Char} : c.isLower = true ↔ 'a' ≤ c ∧ c ≤ 'z' := by
  show (decide ('a' ≤ c) && decide (c ≤ 'z')) = true ↔ _
  rw [Bool.and_eq_true, decide_eq_true_iff, decide_eq_true_iff]

theorem Text.toNat_of_isAlpha {c : Char} (h : c.isAlpha = true) :
    65 ≤ c.toNat ∧ c.toNat ≤ 122 := by
  rcases Bool.or_eq_true_iff.mp h with hupper | hlower
  · have := Address.toNat_of_isUpper hupper
    omega
  · have hlower : 97 ≤ c.toNat ∧ c.toNat ≤ 122 := isLower_iff.mp hlower
    omega

theorem Text.isAlpha_of_toUpper {c : Char} (h : c.toUpper.isAlpha = true) : c.isAlpha = true := by
  unfold Char.toUpper at h
  split at h
  · next hlower => exact Bool.or_eq_true_iff.mpr (.inr (isLower_iff.mpr hlower))
  · exact h

/-- **The names of builtins are made of letters.** -/
theorem Builtin.isAlpha_of_find? {name : List Char} {b : Builtin} (h : find? name = some b) :
    name ≠ [] ∧ ∀ c ∈ name, c.isAlpha = true := by
  rw [find?] at h
  have hnamed := List.find?_some h
  obtain ⟨written, hwritten, heq⟩ := List.any_eq_true.mp hnamed
  have hletters : ∀ written ∈ b.name :: b.aliases,
      written.toList ≠ [] ∧ written.toList.all Char.isAlpha = true := by
    cases b <;> decide
  obtain ⟨hne, halpha⟩ := hletters written hwritten
  rw [eq_of_beq heq] at hne halpha
  refine ⟨fun hnil => hne (by rw [hnil]; rfl), fun c hc => ?_⟩
  exact isAlpha_of_toUpper (List.all_eq_true.mp halpha _ (List.mem_map_of_mem hc))

namespace Formula

/-! ## Characters -/

/-- The characters from the digits to the small letters are plain. -/
theorem isPlain_of_toNat {c : Char} (hlow : 48 ≤ c.toNat) (hhigh : c.toNat ≤ 122) : IsPlain c := by
  refine ⟨?_, Bool.eq_false_iff.mpr fun h => ?_, ?_⟩
  · rintro rfl
    exact absurd hlow (by decide)
  · simp only [isPunctuation, Bool.or_eq_true, beq_iff_eq] at h
    rcases h with (((((rfl | rfl) | rfl) | rfl) | rfl) | rfl) | rfl <;>
      exact absurd hlow (by decide)
  · simp only [isBlank, Bool.or_eq_false_iff, Bool.and_eq_false_iff, beq_eq_false_iff_ne,
      decide_eq_false_iff_not]
    omega

theorem isPlain_of_isAlpha {c : Char} (h : c.isAlpha = true) : IsPlain c := by
  have hc := toNat_of_isAlpha h
  exact isPlain_of_toNat (by omega) hc.2

/-- The name of a builtin is a plain word. -/
theorem isPlain_of_find? {name : List Char} {b : Builtin} (h : Builtin.find? name = some b) :
    ∀ c ∈ name, IsPlain c :=
  fun c hc => isPlain_of_isAlpha ((Builtin.isAlpha_of_find? h).2 c hc)

/-- It stays in one piece. -/
theorem wholeFrom_name {name : List Char} {b : Builtin} (h : Builtin.find? name = some b) :
    WholeFrom 0 [name] :=
  .singleton (not_isMark_of_isPlain (isPlain_of_find? h))

theorem isPlain_of_isDigit {c : Char} (h : c.isDigit = true) : IsPlain c := by
  have hc := Address.toNat_of_isDigit h
  exact isPlain_of_toNat hc.1 (by omega)

/-- No letter is a decimal digit, of whatever script. -/
theorem isDecimalDigit_of_isAlpha {c : Char} (h : c.isAlpha = true) : isDecimalDigit c = false := by
  have hc := toNat_of_isAlpha h
  have hranges : ∀ range ∈ digitRanges, range.2 < 65 ∨ 122 < range.1 := by decide
  rw [isDecimalDigit, inRanges, List.any_eq_false]
  intro range hrange
  have := hranges range hrange
  rw [Bool.and_eq_true, decide_eq_true_eq, decide_eq_true_eq]
  omega

/-! ## Texts that are no calls -/

/-- **A text that is neither a cell nor a call** means a number or a text. -/
theorem argumentValue_of_constant {s : List Char} (hshape : Address.hasShape s = false)
    (hcall : isCall s = false) (nested : List Char → Plan CellValue) :
    ∃ v : CellValue, v.isError = false ∧ argumentValue nested s = .done v := by
  unfold argumentValue Argument.ofText
  rw [hshape, hcall]
  cases decimal? s with
  | some n => exact ⟨.number n, rfl, rfl⟩
  | none =>
    cases whole? s with
    | some n => exact ⟨.number n, rfl, rfl⟩
    | none => exact ⟨.text _, rfl, rfl⟩

/-- Cells and calls begin with a letter. -/
theorem argumentValue_of_head {c : Char} (halpha : c.isAlpha = false) (hblank : isBlank c = false)
    (hopen : c ≠ '(') (s : List Char) (nested : List Char → Plan CellValue) :
    ∃ v : CellValue, v.isError = false ∧ argumentValue nested (c :: s) = .done v := by
  have hupper : c.isUpper = false := (Bool.or_eq_false_iff.mp halpha).1
  refine argumentValue_of_constant ?_ ?_ nested
  · rw [Address.hasShape, Address.lettersOf, List.takeWhile_cons, hupper]
    rfl
  · rw [isCall, List.dropWhile_cons, halpha, if_neg Bool.false_ne_true,
      trimStart_cons_of_not_blank s hblank]
    split
    · next heq => exact absurd (List.cons.inj heq).1 hopen
    · rfl

/-! ## Texts of calls -/

theorem joinTokens_cons (t : Token) {tokens : List Token} (hne : tokens ≠ []) :
    joinTokens (t :: tokens) = t ++ ' ' :: joinTokens tokens := by
  obtain ⟨u, tokens, rfl⟩ := List.exists_cons_of_ne_nil hne
  rw [joinTokens, List.intercalate_cons_cons, List.append_assoc]
  rfl

theorem joinTokens_concat {tokens : List Token} (hne : tokens ≠ []) (u : Token) :
    joinTokens (tokens ++ [u]) = joinTokens tokens ++ ' ' :: u := by
  induction tokens with
  | nil => exact absurd rfl hne
  | cons t tokens ih =>
    cases tokens with
    | nil =>
      rw [List.singleton_append, joinTokens_cons t (List.cons_ne_nil _ _), joinTokens, joinTokens,
        List.intercalate_singleton, List.intercalate_singleton]
    | cons v tokens =>
      have hrest := ih (List.cons_ne_nil _ _)
      rw [List.cons_append, joinTokens_cons t (by simp), hrest,
        joinTokens_cons t (List.cons_ne_nil _ _), List.append_assoc]
      rfl

/-- **The text of a call**: its name, a space, and the other tokens between
parentheses, with spaces around them. -/
theorem exists_joinTokens_call (name : Token) (tokens : List Token) :
    ∃ z z', (∀ c ∈ z, isBlank c = true) ∧ (∀ c ∈ z', isBlank c = true)
      ∧ joinTokens (name :: ['('] :: (tokens ++ [[')']]))
        = name ++ ' ' :: '(' :: (z ++ joinTokens tokens ++ z' ++ [')']) := by
  rw [joinTokens_cons name (List.cons_ne_nil _ _), joinTokens_cons ['('] (by simp)]
  cases tokens with
  | nil => exact ⟨[' '], [], isBlank_of_mem_space, nofun, rfl⟩
  | cons t tokens =>
    refine ⟨[' '], [' '], isBlank_of_mem_space, isBlank_of_mem_space, ?_⟩
    rw [joinTokens_concat (List.cons_ne_nil _ _)]
    simp

section Letter

variable {c : Char} {s : List Char}

theorem takeSign_of_isAlpha (hletter : c.isAlpha = true) : takeSign (c :: s) = (false, c :: s) := by
  unfold takeSign
  split
  · next heq =>
    rw [(List.cons.inj heq).1] at hletter
    exact absurd hletter (by decide)
  · next heq =>
    rw [(List.cons.inj heq).1] at hletter
    exact absurd hletter (by decide)
  · rfl

/-- **No number begins with a letter.** -/
theorem scan_of_isAlpha (hletter : c.isAlpha = true) {digit : Char → Bool}
    (hdigit : digit c = false) : Numeral.scan digit (c :: s) = none := by
  have hmantissa : takeMantissa digit (c :: s) = none := by
    have hpoint : c ≠ '.' := by
      rintro rfl
      exact absurd hletter (by decide)
    have hdigits : takeDigits digit (c :: s) = ([], c :: s) := by
      rw [takeDigits, List.takeWhile_cons, List.dropWhile_cons, hdigit]
      rfl
    rw [takeMantissa, hdigits]
    simp [hpoint]
  rw [Numeral.scan, takeSign_of_isAlpha hletter]
  dsimp only
  rw [hmantissa]
  rfl

/-- No name of a number holds a parenthesis. -/
theorem named?_of_mem (hclose : ')' ∈ s) : named? s = none := by
  have hlower : ')' ∈ s.map Char.toLower := List.mem_map.mpr ⟨')', hclose, by decide⟩
  unfold named?
  split
  · next heq => exact absurd (heq ▸ hlower) (by decide)
  · next heq => exact absurd (heq ▸ hlower) (by decide)
  · next heq => exact absurd (heq ▸ hlower) (by decide)
  · rfl

/-- A text that begins with a letter and holds a parenthesis is no number, -/
theorem decimal?_of_isAlpha (hletter : c.isAlpha = true) (htrim : trim (c :: s) = c :: s)
    (hclose : ')' ∈ c :: s) : decimal? (c :: s) = none := by
  have hdigit : c.isDigit = false := by
    rw [Bool.eq_false_iff]
    intro hdigit
    have := Address.toNat_of_isDigit hdigit
    have := toNat_of_isAlpha hletter
    omega
  have hparse : parse? (c :: s) = none := by
    rw [parse?, scan_of_isAlpha hletter hdigit, takeSign_of_isAlpha hletter]
    dsimp only
    rw [named?_of_mem hclose]
    rfl
  rw [decimal?, htrim, hparse]
  split <;> rfl

/-- nor does it begin with one, -/
theorem whole?_of_isAlpha (hletter : c.isAlpha = true) : whole? (c :: s) = none := by
  rw [whole?, parsePrefix?, trimStart_cons_of_not_blank s (isPlain_of_isAlpha hletter).2.2,
    scan_of_isAlpha hletter (isDecimalDigit_of_isAlpha hletter)]

/-- and it is no name of a cell. -/
theorem hasShape_of_mem (hclose : ')' ∈ s) : Address.hasShape s = false := by
  rw [Bool.eq_false_iff]
  intro hshape
  obtain ⟨-, -, hdigits⟩ := Address.hasShape_iff.mp hshape
  rw [← Address.lettersOf_append_numberOf s] at hclose
  rcases List.mem_append.mp hclose with hletter | hdigit
  · exact absurd (Address.isUpper_of_mem_lettersOf hletter) (by decide)
  · exact absurd (hdigits _ hdigit) (by decide)

end Letter

/-- **The text of a call means the call.** -/
theorem argumentValue_joinTokens_call {name : Token} {b : Builtin}
    (hname : Builtin.find? name = some b) {tokens : List Token}
    (htokens : Separable (name :: ['('] :: (tokens ++ [[')']])))
    (nested : List Char → Plan CellValue) :
    argumentValue nested (joinTokens (name :: ['('] :: (tokens ++ [[')']])))
      = nested (joinTokens (name :: ['('] :: (tokens ++ [[')']]))) := by
  have htrim := htokens.trim_joinTokens
  obtain ⟨z, z', -, -, hmiddle⟩ := exists_joinTokens_call name tokens
  rw [hmiddle] at htrim ⊢
  generalize z ++ joinTokens tokens ++ z' = middle at htrim ⊢
  obtain ⟨hne, halpha⟩ := Builtin.isAlpha_of_find? hname
  have hspace : Char.isAlpha ' ' = false := by decide
  have hcall : isCall (name ++ ' ' :: '(' :: (middle ++ [')'])) = true := by
    have hopen : trimStart (' ' :: '(' :: (middle ++ [')'])) = '(' :: (middle ++ [')']) := by
      rw [trimStart_cons_of_blank _ (by decide), trimStart_cons_of_not_blank _ (by decide)]
    rw [isCall, List.takeWhile_append_of_pos halpha, List.dropWhile_append_of_pos halpha,
      List.takeWhile_cons, List.dropWhile_cons, hspace, if_neg Bool.false_ne_true,
      if_neg Bool.false_ne_true, List.append_nil, hopen, hname]
    simp
  have hclose : ')' ∈ name ++ ' ' :: '(' :: (middle ++ [')']) := by simp
  obtain ⟨c, rest, rfl⟩ := List.exists_cons_of_ne_nil hne
  have hletter : c.isAlpha = true := halpha c List.mem_cons_self
  rw [List.cons_append] at htrim hcall hclose ⊢
  unfold argumentValue Argument.ofText
  rw [hasShape_of_mem hclose, decimal?_of_isAlpha hletter htrim hclose, whole?_of_isAlpha hletter,
    hcall]
  rfl

/-! ## Trees -/

/-- **A leaf of a tree**. -/
inductive Leaf where
  /-- A text between quotes, without quotes inside. -/
  | quoted (text : List Char) (h : '"' ∉ text)
  /-- Digits, and maybe a point with the digits of a fraction. -/
  | number (whole : List Char) (fraction : Option (List Char)) (hne : whole ≠ [])
      (hwhole : ∀ c ∈ whole, c.isDigit = true)
      (hfraction : ∀ digits ∈ fraction, ∀ c ∈ digits, c.isDigit = true)
  /-- The name of a cell. -/
  | cell (name : List Char) (a : Address) (h : Address.parse? name = some a)

/-- How many arguments the builtins of a tree accept. There are no others in a
tree. -/
def Accepts : Builtin → Nat → Prop
  | .concat, n => 2 ≤ n
  | .metronome, n => n ≤ 1
  | .oscillator, n => n = 4
  | .beat, n => n = 2
  | .adsr, n => n = 4
  | _, _ => False

/-- **A tree of calls**. -/
inductive CallTree where
  /-- No call, but a leaf. -/
  | leaf (l : Leaf)
  /-- A call of a builtin by its name, in any letter case, with so many
  arguments. -/
  | call (name : List Char) {builtin : Builtin} (hname : Builtin.find? name = some builtin)
      {n : Nat} (haccepts : Accepts builtin n) (args : Fin n → CallTree)

/-- The token of a leaf. -/
def Leaf.token : Leaf → Token
  | quoted text _ => ['"'] ++ text ++ ['"']
  | number whole fraction .. => whole ++ fraction.elim [] fun digits => '.' :: digits
  | cell name .. => name

/-- The cell that a leaf names, if there is one. -/
def Leaf.cells : Leaf → List Address
  | cell _ a _ => [a]
  | _ => []

namespace CallTree

/-- **The tokens of a tree**. -/
def tokens : CallTree → List Token
  | leaf l => [l.token]
  | call name _ _ args =>
    name :: ['('] :: (List.intercalate [[',']] (List.ofFn fun i => (args i).tokens) ++ [[')']])

/-- **The height of a tree**: how many calls are nested on the longest path. -/
def height : CallTree → Nat
  | leaf _ => 0
  | call _ _ _ args => (Finset.univ.sup fun i => (args i).height) + 1

/-- A call is higher than its arguments by one. -/
theorem succ_lt_height_call_iff {name : List Char} {builtin : Builtin}
    {hname : Builtin.find? name = some builtin} {n : Nat} {haccepts : Accepts builtin n}
    {args : Fin n → CallTree} {room : Nat} :
    room + 1 < (call name hname haccepts args).height ↔ ∃ i, room < (args i).height := by
  rw [height, Nat.succ_lt_succ_iff, Finset.lt_sup_iff]
  simp

/-- A tree without calls is a leaf. -/
theorem exists_eq_leaf {t : CallTree} (h : ¬0 < t.height) : ∃ l, t = leaf l := by
  cases t with
  | leaf l => exact ⟨l, rfl⟩
  | call => exact absurd (Nat.succ_pos _) h

/-- **The cells that a tree names**. -/
def cells : CallTree → List Address
  | leaf l => l.cells
  | call _ _ _ args => (List.ofFn fun i => (args i).cells).flatten

/-- The text of a tree with a space between any two tokens. -/
def text (t : CallTree) : List Char :=
  joinTokens t.tokens

end CallTree

/-! ## Reading a tree -/

/-- Numerals are made of digits and points. -/
theorem Leaf.isPlain_of_mem_number {whole : List Char} {fraction : Option (List Char)}
    (hwhole : ∀ c ∈ whole, c.isDigit = true)
    (hfraction : ∀ digits ∈ fraction, ∀ c ∈ digits, c.isDigit = true) :
    ∀ c ∈ whole ++ fraction.elim [] fun digits => '.' :: digits, IsPlain c := by
  intro c hc
  rcases List.mem_append.mp hc with hc | hc
  · exact isPlain_of_isDigit (hwhole c hc)
  · cases fraction with
    | none => exact absurd hc List.not_mem_nil
    | some digits =>
      rcases List.mem_cons.mp hc with rfl | hc
      · exact ⟨by decide, by decide, by decide⟩
      · exact isPlain_of_isDigit (hfraction digits rfl c hc)

/-- Names of cells are made of capital letters and digits. -/
theorem Leaf.isPlain_of_mem_cell {name : List Char} {a : Address}
    (h : Address.parse? name = some a) : name ≠ [] ∧ ∀ c ∈ name, IsPlain c := by
  obtain ⟨hletters, -, hdigits⟩ := Address.hasShape_iff.mp (Address.hasShape_of_parse? h)
  refine ⟨fun hnil => hletters (by rw [hnil]; rfl), fun c hc => ?_⟩
  rw [← Address.lettersOf_append_numberOf name] at hc
  rcases List.mem_append.mp hc with hletter | hdigit
  · have := Address.toNat_of_isUpper (Address.isUpper_of_mem_lettersOf hletter)
    exact isPlain_of_toNat (by omega) (by omega)
  · exact isPlain_of_isDigit (hdigits c hdigit)

/-- **A leaf is a token by itself**, and no punctuation character. -/
theorem Leaf.tight_token (l : Leaf) : Tight [l.token] ∧ ¬IsMark l.token := by
  cases l with
  | quoted text h =>
    refine ⟨tight_quoted h, ?_⟩
    rintro ⟨c, hc, -⟩
    have := congrArg List.length hc
    simp [token] at this
  | number whole fraction hne hwhole hfraction =>
    have hplain := isPlain_of_mem_number hwhole hfraction
    exact ⟨tight_of_isPlain (List.append_ne_nil_of_left_ne_nil hne _) hplain,
      not_isMark_of_isPlain hplain⟩
  | cell name a h =>
    obtain ⟨hne, hplain⟩ := isPlain_of_mem_cell h
    exact ⟨tight_of_isPlain hne hplain, not_isMark_of_isPlain hplain⟩

/-- **A leaf means the cell it names, or a value.** -/
theorem Leaf.argumentValue_token (l : Leaf) (nested : List Char → Plan CellValue) :
    (∃ a ∈ l.cells, argumentValue nested l.token = Plan.lookup a)
      ∨ ∃ v : CellValue, v.isError = false ∧ argumentValue nested l.token = .done v := by
  cases l with
  | quoted text h =>
    exact .inr (argumentValue_of_head (by decide) (by decide) (by decide) (text ++ ['"']) nested)
  | number whole fraction hne hwhole hfraction =>
    obtain ⟨c, digits, rfl⟩ := List.exists_cons_of_ne_nil hne
    have hdigit : c.isDigit = true := hwhole c List.mem_cons_self
    have halpha : c.isAlpha = false := by
      rw [Bool.eq_false_iff]
      intro halpha
      have := Address.toNat_of_isDigit hdigit
      have := toNat_of_isAlpha halpha
      omega
    refine .inr (argumentValue_of_head halpha (isPlain_of_isDigit hdigit).2.2 ?_ _ nested)
    rintro rfl
    exact absurd hdigit (by decide)
  | cell name a h =>
    refine .inl ⟨a, List.mem_singleton_self a, ?_⟩
    rw [token, argumentValue, Argument.ofText, if_pos (Address.hasShape_of_parse? h)]
    dsimp only
    rw [Plan.lookupText, h]

namespace CallTree

theorem tokens_ne_nil (t : CallTree) : t.tokens ≠ [] := by
  cases t <;> exact List.cons_ne_nil _ _

/-- **The tokens of a tree are tight.** -/
theorem tight_tokens (t : CallTree) : Tight t.tokens := by
  induction t with
  | leaf l => exact l.tight_token.1
  | call name hname _ args ih =>
    have hne := (Builtin.isAlpha_of_find? hname).1
    have hplain := tight_of_isPlain hne (isPlain_of_find? hname)
    refine .call (hplain.isToken name List.mem_cons_self) (hplain.closed name List.mem_cons_self) ?_
    exact List.forall_mem_ofFn_iff.mpr ih

/-- **They stay in one piece.** -/
theorem wholeFrom_tokens (t : CallTree) : WholeFrom 0 t.tokens := by
  induction t with
  | leaf l => exact .singleton l.tight_token.2
  | call name hname _ args ih =>
    have hargs := WholeFrom.intercalate_comma (List.forall_mem_ofFn_iff.mpr ih)
    exact (wholeFrom_name hname).append (.parenthesized hargs)

/-- **The arguments of a call are the texts of its subtrees.** -/
theorem argumentTexts_call {n : Nat} (args : Fin n → CallTree) :
    argumentTexts
        (['('] :: (List.intercalate [[',']] (List.ofFn fun i => (args i).tokens) ++ [[')']]))
      = List.ofFn fun i => (args i).text := by
  rw [Formula.argumentTexts_call
    (List.forall_mem_ofFn_iff.mpr fun i => (args i).tight_tokens)
    (List.forall_mem_ofFn_iff.mpr fun i => (args i).wholeFrom_tokens)
    (List.forall_mem_ofFn_iff.mpr fun i => (args i).tokens_ne_nil), List.map_ofFn]
  rfl

/-- **The text of a call means the call.** -/
theorem argumentValue_text {t : CallTree} (h : 0 < t.height) (nested : List Char → Plan CellValue) :
    argumentValue nested t.text = nested t.text := by
  cases t with
  | leaf l => exact absurd h (Nat.lt_irrefl 0)
  | call name hname haccepts args =>
    exact argumentValue_joinTokens_call hname
      (call name hname haccepts args).tight_tokens.separable nested

end CallTree

end Formula

end SoundSheet
