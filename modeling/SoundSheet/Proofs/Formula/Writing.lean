import SoundSheet.Proofs.Formula.Tokens

/-!
# Tokens that are written down

`Proofs.Formula.Tokens` starts from a text and reads its tokens again. Here the
tokens come first, and a text is written for them: one after another, with any
number of spaces before, between and after them (`SpacedOut`). No space at all
is needed where one of two neighbours is a punctuation character. So the tokens
of a formula in which no two words stand side by side (`Tight`) are read from
every such text (`Tight.tokenize_eq`).

In the same way the arguments of a call come first, each a run of tokens. If its
parentheses match and its commas are inside of them, a run is left in one piece
wherever it stands (`WholeFrom`), and a call that is written with such runs
between its parentheses has these for its arguments
(`argumentTexts_parenthesized`).
-/

namespace SoundSheet.Formula

open SoundSheet.Text

/-! ## Texts with spaces -/

/-- **A text of tokens**, with any number of spaces before, between and after
them. -/
inductive SpacedOut : List Token → List Char → Prop
  /-- Spaces alone. -/
  | nil (n : Nat) : SpacedOut [] (List.replicate n ' ')
  /-- Spaces, a token and a text of the other tokens. -/
  | cons (n : Nat) (t : Token) {tokens : List Token} {s : List Char} (h : SpacedOut tokens s) :
      SpacedOut (t :: tokens) (List.replicate n ' ' ++ t ++ s)

/-- Joined tokens have one space between any two. -/
theorem spacedOut_joinTokens (tokens : List Token) : SpacedOut tokens (joinTokens tokens) := by
  -- the tokens behind the first have a space in front of them
  have hbehind : ∀ (t : Token) (tokens : List Token),
      SpacedOut (t :: tokens) (' ' :: joinTokens (t :: tokens)) := by
    intro t tokens
    induction tokens generalizing t with
    | nil =>
      have h := SpacedOut.cons 1 t (.nil 0)
      rw [List.replicate_zero, List.append_nil] at h
      rwa [joinTokens, List.intercalate_singleton]
    | cons u tokens ih => exact .cons 1 t (ih u)
  cases tokens with
  | nil => exact .nil 0
  | cons t tokens =>
    cases tokens with
    | nil =>
      have h := SpacedOut.cons 0 t (.nil 0)
      rw [List.replicate_zero, List.append_nil, List.nil_append] at h
      rwa [joinTokens, List.intercalate_singleton]
    | cons u tokens => exact .cons 0 t (hbehind u tokens)

/-- Spaces in front of a text make no tokens. -/
theorem tokenize_spaces (n : Nat) (s : List Char) :
    tokenize (List.replicate n ' ' ++ s) = tokenize s := by
  induction n with
  | zero => rfl
  | succ n ih =>
    rw [List.replicate_succ, List.cons_append, tokenize, cut_space]
    exact ih

/-! ## Tight tokens -/

/-- **A punctuation token**. -/
def IsMark (t : Token) : Prop :=
  ∃ c, t = [c] ∧ isPunctuation c = true

/-- **Tokens that need no spaces between them**: of two neighbours one is a
punctuation character. -/
structure Tight (tokens : List Token) : Prop where
  /-- They are tokens. -/
  isToken : ∀ t ∈ tokens, IsToken t
  /-- Their quotes are closed. -/
  closed : ∀ t ∈ tokens, quotedAfter false t = false
  /-- No two words stand side by side. -/
  apart : tokens.IsChain fun t u => IsMark t ∨ IsMark u

/-- The word that is begun ends where a text of tokens starts with a space or a
punctuation character. -/
theorem SpacedOut.cut_eq {tokens : List Token} {s : List Char} (h : SpacedOut tokens s)
    (hmark : ∀ t ∈ tokens.head?, IsMark t) : cut false s = ([], tokenize s) := by
  cases h with
  | nil n =>
    cases n with
    | zero => rfl
    | succ n => exact cut_space _
  | cons n t h =>
    cases n with
    | zero =>
      obtain ⟨c, rfl, hc⟩ := hmark t rfl
      rw [List.replicate_zero, List.nil_append, List.singleton_append, tokenize,
        cut_punctuation hc]
      rfl
    | succ n => exact cut_space _

/-- **A token in front of such a text** is the first one. -/
theorem IsToken.tokenize_append {t : Token} (h : IsToken t) (hclosed : quotedAfter false t = false)
    {s : List Char} (hs : IsMark t ∨ cut false s = ([], tokenize s)) :
    tokenize (t ++ s) = t :: tokenize s := by
  by_cases hmark : IsMark t
  · obtain ⟨c, rfl, hc⟩ := hmark
    rw [tokenize, List.singleton_append, cut_punctuation hc]
    rfl
  · cases h with
    | punctuation hc => exact absurd ⟨_, rfl, hc⟩ hmark
    | word hword htrim hne =>
      rw [tokenize, cut_append hword, hclosed, hs.resolve_left hmark]
      simp [flush, htrim, hne]

/-- **Tight tokens are read from every text of them.** -/
theorem Tight.tokenize_eq {tokens : List Token} (h : Tight tokens) {s : List Char}
    (hs : SpacedOut tokens s) : tokenize s = tokens := by
  induction hs with
  | nil n =>
    rw [← List.append_nil (List.replicate n ' '), tokenize_spaces]
    rfl
  | @cons n t tokens s hs ih =>
    have hrest : Tight tokens := ⟨fun u hu => h.isToken u (List.mem_cons_of_mem _ hu),
      fun u hu => h.closed u (List.mem_cons_of_mem _ hu), h.apart.tail⟩
    rw [List.append_assoc, tokenize_spaces, (h.isToken t List.mem_cons_self).tokenize_append
      (h.closed t List.mem_cons_self), ih hrest]
    by_cases hmark : IsMark t
    · exact .inl hmark
    · refine .inr (hs.cut_eq fun u hu => ?_)
      exact ((List.isChain_cons.mp h.apart).1 u hu).resolve_left hmark

namespace Tight

variable {tokens tokens' : List Token}

theorem separable (h : Tight tokens) : Separable tokens :=
  .of_closed h.isToken h.closed

/-- A single token is tight. -/
theorem singleton {t : Token} (h : IsToken t) (hclosed : quotedAfter false t = false) :
    Tight [t] :=
  ⟨List.forall_mem_singleton.mpr h, List.forall_mem_singleton.mpr hclosed, .singleton t⟩

theorem nil : Tight [] :=
  ⟨fun _ h => absurd h List.not_mem_nil, fun _ h => absurd h List.not_mem_nil, .nil⟩

/-- **Tight tokens on both sides of a punctuation character** are tight. -/
theorem append_mark {c : Char} (hc : isPunctuation c = true) (h : Tight tokens)
    (h' : Tight tokens') : Tight (tokens ++ [c] :: tokens') := by
  have hclosed : quotedAfter false [c] = false := by
    have hquote : c ≠ '"' := by
      rintro rfl
      exact absurd hc (by decide)
    simp [quotedAfter, hquote]
  refine ⟨List.forall_mem_append.mpr ⟨h.isToken, ?_⟩, List.forall_mem_append.mpr ⟨h.closed, ?_⟩,
    List.isChain_append.mpr ⟨h.apart, List.isChain_cons.mpr ⟨?_, h'.apart⟩, ?_⟩⟩
  · exact List.forall_mem_cons.mpr ⟨.punctuation hc, h'.isToken⟩
  · exact List.forall_mem_cons.mpr ⟨hclosed, h'.closed⟩
  · exact fun u _ => .inl ⟨c, rfl, hc⟩
  · intro t _ u hu
    obtain rfl : [c] = u := Option.some.inj hu
    exact .inr ⟨c, rfl, hc⟩

/-- So are runs of tight tokens with commas between them. -/
theorem intercalate_comma {runs : List (List Token)} (h : ∀ run ∈ runs, Tight run) :
    Tight (List.intercalate [[',']] runs) := by
  induction runs with
  | nil => exact nil
  | cons run runs ih =>
    obtain ⟨hrun, hruns⟩ := List.forall_mem_cons.mp h
    cases runs with
    | nil => rwa [List.intercalate_singleton]
    | cons next runs =>
      rw [List.intercalate_cons_cons, List.append_assoc]
      exact hrun.append_mark (by decide) (ih hruns)

/-- **The tokens of a call** are tight if those of its arguments are. -/
theorem call {name : Token} (hname : IsToken name) (hclosed : quotedAfter false name = false)
    {runs : List (List Token)} (h : ∀ run ∈ runs, Tight run) :
    Tight (name :: ['('] :: (List.intercalate [[',']] runs ++ [[')']])) :=
  (singleton hname hclosed).append_mark (by decide)
    ((intercalate_comma h).append_mark (by decide) nil)

end Tight

/-! ## Plain words -/

/-- **A character of which plain words are made**: no quote, no punctuation and
no white space. -/
def IsPlain (c : Char) : Prop :=
  c ≠ '"' ∧ isPunctuation c = false ∧ isBlank c = false

/-- Plain characters neither open quotes nor end the word. -/
theorem isWord_of_isPlain {w : List Char} (h : ∀ c ∈ w, IsPlain c) :
    IsWord false w ∧ quotedAfter false w = false := by
  induction w with
  | nil => exact ⟨trivial, rfl⟩
  | cons c w ih =>
    obtain ⟨⟨hquote, hpunctuation, hblank⟩, hw⟩ := List.forall_mem_cons.mp h
    have hspace : c ≠ ' ' := by
      rintro rfl
      exact absurd hblank (by decide)
    have hsame : quotedAfter false [c] = false := by simp [quotedAfter, hquote]
    obtain ⟨hword, hclosed⟩ := ih hw
    refine ⟨⟨.inr (.inr ⟨hpunctuation, hspace⟩), by rwa [hsame]⟩, ?_⟩
    rw [← List.singleton_append, quotedAfter_append, hsame, hclosed]

/-- **A plain word is a token.** -/
theorem tight_of_isPlain {w : List Char} (hne : w ≠ []) (h : ∀ c ∈ w, IsPlain c) : Tight [w] :=
  .singleton (.word (isWord_of_isPlain h).1 (trim_eq_self fun c hc => (h c hc).2.2) hne)
    (isWord_of_isPlain h).2

/-- It is no punctuation character. -/
theorem not_isMark_of_isPlain {w : List Char} (h : ∀ c ∈ w, IsPlain c) : ¬IsMark w := by
  rintro ⟨c, rfl, hc⟩
  rw [(h c List.mem_cons_self).2.1] at hc
  exact Bool.false_ne_true hc

/-- A text without quotes inside of quotes is a word up to its end. -/
theorem isWord_quoted {s : List Char} (h : '"' ∉ s) :
    IsWord true s ∧ quotedAfter true s = true := by
  induction s with
  | nil => exact ⟨trivial, rfl⟩
  | cons c s ih =>
    have hquote : c ≠ '"' := fun heq => h (heq ▸ List.mem_cons_self)
    have hsame : quotedAfter true [c] = true := by simp [quotedAfter, hquote]
    obtain ⟨hword, hquoted⟩ := ih fun hs => h (List.mem_cons_of_mem c hs)
    refine ⟨⟨.inr (.inl rfl), by rwa [hsame]⟩, ?_⟩
    rw [← List.singleton_append, quotedAfter_append, hsame, hquoted]

/-- **A text between quotes is a token**, if it has no quotes inside. -/
theorem tight_quoted {s : List Char} (h : '"' ∉ s) : Tight [['"'] ++ s ++ ['"']] := by
  obtain ⟨hword, hquoted⟩ := isWord_quoted h
  refine .singleton (.word ?_ ?_ (by simp)) ?_
  · rw [isWord_append, isWord_append, quotedAfter_append]
    exact ⟨⟨⟨.inl rfl, trivial⟩, hword⟩, .inl rfl, trivial⟩
  · exact trim_append_append (by decide) (by simp) (by decide) (by simp) s
  · rw [quotedAfter_append, quotedAfter_append, show quotedAfter false ['"'] = true from rfl,
      hquoted]
    rfl

/-! ## Runs in one piece -/

/-- **A run of tokens that is left in one piece** by a split at commas, wherever
it stands in so many parentheses or more. -/
def WholeFrom (least : Int) (run : List Token) : Prop :=
  ∀ depth, least ≤ depth → ∀ rest,
    splitRuns depth (run ++ rest) = (run ++ (splitRuns depth rest).1, (splitRuns depth rest).2)

/-- A token that ends no run is put in front of the first one. -/
theorem splitRuns_cons {depth : Int} {token : Token}
    (h : ¬(token = [','] ∧ nestingAfter depth token = 0)) (rest : List Token) :
    splitRuns depth (token :: rest)
      = (token :: (splitRuns (nestingAfter depth token) rest).1,
          (splitRuns (nestingAfter depth token) rest).2) := by
  rw [splitRuns]
  exact if_neg h

namespace WholeFrom

variable {least : Int} {run run' : List Token}

theorem nil (least : Int) : WholeFrom least [] :=
  fun _ _ _ => rfl

theorem append (h : WholeFrom least run) (h' : WholeFrom least run') :
    WholeFrom least (run ++ run') := by
  intro depth hdepth rest
  rw [List.append_assoc, h depth hdepth, h' depth hdepth, List.append_assoc]

theorem mono {more : Int} (h : WholeFrom least run) (hmore : least ≤ more) :
    WholeFrom more run :=
  fun depth hdepth => h depth (Int.le_trans hmore hdepth)

/-- A word. -/
theorem singleton {t : Token} (h : ¬IsMark t) : WholeFrom least [t] := by
  intro depth _ rest
  have hne : ∀ {c}, isPunctuation c = true → t ≠ [c] := fun hc heq => h ⟨_, heq, hc⟩
  have hsame : nestingAfter depth t = depth := by
    rw [nestingAfter, if_neg (hne (by decide)), if_neg (hne (by decide))]
  rw [List.singleton_append, splitRuns_cons fun h => hne (by decide) h.1, hsame]
  rfl

/-- A comma inside parentheses. -/
theorem comma : WholeFrom 1 [[',']] := by
  intro depth hdepth rest
  have hsame : nestingAfter depth [','] = depth := rfl
  rw [List.singleton_append, splitRuns_cons (by rw [hsame]; omega), hsame]
  rfl

/-- **Runs with commas between them** are in one piece inside of parentheses. -/
theorem intercalate_comma {runs : List (List Token)} (h : ∀ run ∈ runs, WholeFrom 0 run) :
    WholeFrom 1 (List.intercalate [[',']] runs) := by
  induction runs with
  | nil => exact nil 1
  | cons run runs ih =>
    obtain ⟨hrun, hruns⟩ := List.forall_mem_cons.mp h
    have hrun : WholeFrom 1 run := hrun.mono (by omega)
    cases runs with
    | nil => rwa [List.intercalate_singleton]
    | cons next runs =>
      rw [List.intercalate_cons_cons]
      exact (hrun.append comma).append (ih hruns)

/-- **A run in parentheses** is in one piece if it is so inside of them. -/
theorem parenthesized (h : WholeFrom 1 run) : WholeFrom 0 (['('] :: (run ++ [[')']])) := by
  intro depth hdepth rest
  have hopen : nestingAfter depth ['('] = depth + 1 := rfl
  have hclose : nestingAfter (depth + 1) [')'] = depth := by
    rw [nestingAfter, if_neg (by decide), if_pos rfl]
    omega
  have hnoComma : ∀ {d : Int} {c : Char}, c ≠ ',' → ¬([c] = [','] ∧ nestingAfter d [c] = 0) :=
    fun hc h => hc (List.singleton_inj.mp h.1)
  rw [List.cons_append, splitRuns_cons (hnoComma (by decide)), hopen, List.append_assoc,
    h _ (by omega), List.singleton_append, splitRuns_cons (hnoComma (by decide)), hclose]
  simp

end WholeFrom

/-- **Runs in one piece are split at the commas between them.** -/
theorem splitRuns_intercalate {run : List Token} (hrun : WholeFrom 0 run)
    {runs : List (List Token)} (hruns : ∀ run ∈ runs, WholeFrom 0 run) :
    splitRuns 0 (List.intercalate [[',']] (run :: runs)) = (run, runs) := by
  induction runs generalizing run with
  | nil =>
    have h := hrun 0 (Int.le_refl 0) []
    rw [List.append_nil, splitRuns_nil, List.append_nil] at h
    rwa [List.intercalate_singleton]
  | cons next runs ih =>
    obtain ⟨hnext, hruns⟩ := List.forall_mem_cons.mp hruns
    rw [List.intercalate_cons_cons, List.append_assoc, hrun 0 (Int.le_refl 0),
      List.singleton_append, splitRuns]
    rw [show nestingAfter 0 [','] = 0 from rfl, ih hnext hruns]
    simp

/-- All runs are kept if the last one is not empty. -/
theorem dropEmptyLast_eq_self {runs : List (List Token)} (h : runs.getLast? ≠ some []) :
    dropEmptyLast runs = runs := by
  induction runs with
  | nil => rfl
  | cons run runs ih =>
    cases runs with
    | nil => exact if_neg fun hrun => h (congrArg some hrun)
    | cons next runs =>
      rw [List.getLast?_cons_cons] at h
      exact congrArg (run :: ·) (ih h)

/-- **The arguments of a call are the runs it is written with**, if these are
trimmed and in one piece, and the last one is not empty. -/
theorem argumentTexts_parenthesized {runs : List (List Token)}
    (htrim : ∀ run ∈ runs, trim (joinTokens run) = joinTokens run)
    (hwhole : ∀ run ∈ runs, WholeFrom 0 run) (hlast : runs.getLast? ≠ some []) :
    argumentTexts (['('] :: (List.intercalate [[',']] runs ++ [[')']])) = runs.map joinTokens := by
  rw [argumentTexts, inner_parenthesized]
  cases runs with
  | nil => rfl
  | cons run runs =>
    rw [splitRuns_intercalate (hwhole run List.mem_cons_self)
      fun run hrun => hwhole run (List.mem_cons_of_mem _ hrun)]
    dsimp only
    rw [dropEmptyLast_eq_self hlast]
    exact List.map_congr_left htrim

/-- So it is with runs that are tight, in one piece and not empty. -/
theorem argumentTexts_call {runs : List (List Token)} (htight : ∀ run ∈ runs, Tight run)
    (hwhole : ∀ run ∈ runs, WholeFrom 0 run) (hne : ∀ run ∈ runs, run ≠ []) :
    argumentTexts (['('] :: (List.intercalate [[',']] runs ++ [[')']])) = runs.map joinTokens :=
  argumentTexts_parenthesized (fun run hrun => (htight run hrun).separable.trim_joinTokens) hwhole
    fun hlast => hne [] (List.mem_of_getLast? hlast) rfl

end SoundSheet.Formula
