import Mathlib.Data.List.Chain
import Mathlib.Data.List.TakeWhile
import SoundSheet.Formula.ArgumentList

/-!
# Tokens that are read again

The arguments of a call are handed on as texts, and a call nested in one of them
is cut into tokens once more. What it then consists of are the very tokens that
the outer formula had in that place (`tokenize_joinTokens_run`), whatever they
hold: quotes in the middle, punctuation inside quotes, tabs and line breaks, and
a quote that is never closed.

Why this is so can be said of a token alone. A token is a punctuation character,
or a trimmed word that has no punctuation and no space outside its quotes; and
wherever another token follows, all its quotes are closed (`Separable`). Cutting
a text yields such tokens (`separable_tokenize`), a run of such tokens consists
of such tokens, and written one after another with spaces between them they are
cut where they were joined (`Separable.tokenize_joinTokens`).

White space around a formula is not part of any token (`tokenize_trim`), even
where a quote is left open: the word that it joins is trimmed.
-/

namespace SoundSheet

namespace Text

/-! ## Trimmed texts -/

/-- What is trimmed off is white space before and after. -/
theorem exists_trim (s : List Char) : ∃ before after,
    s = before ++ trim s ++ after ∧ (∀ c ∈ before, isBlank c = true)
      ∧ ∀ c ∈ after, isBlank c = true := by
  refine ⟨s.takeWhile isBlank, ((trimStart s).reverse.takeWhile isBlank).reverse, ?_,
    fun c hc => List.mem_takeWhile_imp hc,
    fun c hc => List.mem_takeWhile_imp (List.mem_reverse.mp hc)⟩
  have hend : trim s ++ ((trimStart s).reverse.takeWhile isBlank).reverse = trimStart s := by
    rw [trim, trimEnd, ← List.reverse_append, List.takeWhile_append_dropWhile,
      List.reverse_reverse]
  rw [List.append_assoc, hend, trimStart, List.takeWhile_append_dropWhile]

/-- A text begins with no white space if none is trimmed off its start. -/
theorem trimStart_eq_self_iff {s : List Char} :
    trimStart s = s ↔ ∀ c ∈ s.head?, isBlank c = false := by
  cases s with
  | nil => simp [trimStart_nil]
  | cons c s =>
    rw [List.head?_cons]
    constructor
    · intro h d hd
      obtain rfl : c = d := Option.some.inj hd
      exact isBlank_head_trimStart h
    · intro h
      exact trimStart_cons_of_not_blank s (h c rfl)

/-- **A text is trimmed** if it neither begins nor ends with white space. -/
theorem trim_eq_self_of {s : List Char} (hfirst : ∀ c ∈ s.head?, isBlank c = false)
    (hlast : ∀ c ∈ s.getLast?, isBlank c = false) : trim s = s := by
  have hreverse : trimStart s.reverse = s.reverse :=
    trimStart_eq_self_iff.mpr (by rwa [List.head?_reverse])
  rw [trim, trimStart_eq_self_iff.mpr hfirst, trimEnd, ← trimStart, hreverse,
    List.reverse_reverse]

/-- A trimmed text begins with no white space. -/
theorem isBlank_head_trim {s : List Char} : ∀ c ∈ (trim s).head?, isBlank c = false := by
  intro c hc
  have hprefix : trim s <+: trimStart s := by
    rw [trim, trimEnd, ← List.reverse_suffix, List.reverse_reverse]
    exact List.dropWhile_suffix isBlank
  obtain ⟨rest, hrest⟩ := hprefix
  obtain ⟨t, ht⟩ : ∃ t, trim s = c :: t := List.head?_eq_some_iff.mp hc
  rw [ht] at hrest
  exact isBlank_head_trimStart hrest.symm

/-- Nor does it end with any. -/
theorem isBlank_getLast_trim {s : List Char} : ∀ c ∈ (trim s).getLast?, isBlank c = false := by
  intro c hc
  rw [trim, trimEnd, List.getLast?_reverse] at hc
  obtain ⟨t, ht⟩ := List.head?_eq_some_iff.mp hc
  exact isBlank_head_trimStart ht

theorem trim_trim (s : List Char) : trim (trim s) = trim s :=
  trim_eq_self_of isBlank_head_trim isBlank_getLast_trim

/-- **Trimmed texts around a middle** make a trimmed text. -/
theorem trim_append_append {s t : List Char} (hs : trim s = s) (hs' : s ≠ []) (ht : trim t = t)
    (ht' : t ≠ []) (middle : List Char) : trim (s ++ middle ++ t) = s ++ middle ++ t := by
  refine trim_eq_self_of (fun c hc => ?_) fun c hc => ?_
  · rw [List.append_assoc, List.head?_append_of_ne_nil _ hs', ← hs] at hc
    exact isBlank_head_trim c hc
  · rw [List.getLast?_append_of_ne_nil _ ht', ← ht] at hc
    exact isBlank_getLast_trim c hc

/-- White space in front of a text is trimmed off. -/
theorem trim_blank_append {z : List Char} (hz : ∀ c ∈ z, isBlank c = true) (s : List Char) :
    trim (z ++ s) = trim s := by
  rw [trim, trim, trimStart_blank_append hz]

/-- So is white space behind it. -/
theorem trim_append_blank {z : List Char} (hz : ∀ c ∈ z, isBlank c = true) (s : List Char) :
    trim (s ++ z) = trim s := by
  have hstart : trimStart z = [] := List.dropWhile_eq_nil_iff.mpr hz
  rw [trim, trim, trimStart, List.dropWhile_append, ← trimStart, ← trimStart]
  cases h : trimStart s with
  | nil => rw [hstart]; rfl
  | cons c t =>
    rw [List.isEmpty_cons, if_neg Bool.false_ne_true, trimEnd, List.reverse_append,
      List.dropWhile_append_of_pos fun d hd => hz d (List.mem_reverse.mp hd), trimEnd]

end Text

namespace Formula

open SoundSheet.Text

/-! ## Quotes and words -/

/-- **Whether the place behind a text is inside quotes**, given whether the
place in front of it is. -/
def quotedAfter (quoted : Bool) (s : List Char) : Bool :=
  s.foldl (fun quoted c => if c = '"' then !quoted else quoted) quoted

theorem quotedAfter_append (quoted : Bool) (s t : List Char) :
    quotedAfter quoted (s ++ t) = quotedAfter (quotedAfter quoted s) t :=
  List.foldl_append

/-- White space opens and closes no quotes. -/
theorem quotedAfter_of_blank {s : List Char} (h : ∀ c ∈ s, isBlank c = true) (quoted : Bool) :
    quotedAfter quoted s = quoted := by
  induction s with
  | nil => rfl
  | cons c s ih =>
    have hc : c ≠ '"' := by
      rintro rfl
      exact absurd (h '"' List.mem_cons_self) (by decide)
    rw [quotedAfter, List.foldl_cons, if_neg hc]
    exact ih fun d hd => h d (List.mem_cons_of_mem c hd)

/-- **A character that words go on with** from a place inside or outside
quotes. -/
def GoesOn (quoted : Bool) (c : Char) : Prop :=
  c = '"' ∨ quoted = true ∨ (isPunctuation c = false ∧ c ≠ ' ')

/-- **A word** from a place inside or outside quotes: a text without punctuation
and spaces outside quotes. -/
def IsWord (quoted : Bool) : List Char → Prop
  | [] => True
  | c :: rest => GoesOn quoted c ∧ IsWord (quotedAfter quoted [c]) rest

theorem isWord_append {quoted : Bool} {s t : List Char} :
    IsWord quoted (s ++ t) ↔ IsWord quoted s ∧ IsWord (quotedAfter quoted s) t := by
  induction s generalizing quoted with
  | nil => exact (and_iff_right trivial).symm
  | cons c s ih =>
    rw [List.cons_append, IsWord, IsWord, ih, and_assoc]
    rfl

/-- A word without the white space around it is a word, and closes the same
quotes. -/
theorem isWord_trim {w : List Char} (h : IsWord false w) :
    IsWord false (trim w) ∧ quotedAfter false (trim w) = quotedAfter false w := by
  obtain ⟨before, after, hw, hbefore, hafter⟩ := exists_trim w
  rw [hw, isWord_append, isWord_append, quotedAfter_of_blank hbefore] at h
  refine ⟨h.1.2, ?_⟩
  conv_rhs => rw [hw, quotedAfter_append, quotedAfter_append, quotedAfter_of_blank hbefore,
    quotedAfter_of_blank hafter]

/-! ## Cutting -/

/-- A character that the word goes on with is put in front of it. -/
theorem cut_cons {quoted : Bool} {c : Char} (h : GoesOn quoted c) (s : List Char) :
    cut quoted (c :: s)
      = (c :: (cut (quotedAfter quoted [c]) s).1, (cut (quotedAfter quoted [c]) s).2) := by
  rw [cut]
  by_cases hquote : c = '"'
  · simp [hquote, quotedAfter]
  · have hsame : quotedAfter quoted [c] = quoted := by simp [quotedAfter, hquote]
    rw [if_neg hquote, hsame]
    rcases h with h | rfl | ⟨hpunctuation, hspace⟩
    · exact absurd h hquote
    · rfl
    · cases quoted with
      | true => rfl
      | false => simp [hpunctuation, hspace]

/-- **A word in front of a text** is put in front of the word that the text
begins with. -/
theorem cut_append {quoted : Bool} {w : List Char} (h : IsWord quoted w) (s : List Char) :
    cut quoted (w ++ s)
      = (w ++ (cut (quotedAfter quoted w) s).1, (cut (quotedAfter quoted w) s).2) := by
  induction w generalizing quoted with
  | nil => rfl
  | cons c w ih =>
    rw [List.cons_append, cut_cons h.1, ih h.2]
    rfl

theorem ne_quote_of_isPunctuation {c : Char} (h : isPunctuation c = true) : c ≠ '"' := by
  rintro rfl
  exact absurd h (by decide)

theorem quotedAfter_punctuation {c : Char} (h : isPunctuation c = true) (quoted : Bool) :
    quotedAfter quoted [c] = quoted := by
  simp [quotedAfter, ne_quote_of_isPunctuation h]

theorem cut_punctuation {c : Char} (h : isPunctuation c = true) (s : List Char) :
    cut false (c :: s) = ([], [c] :: tokenize s) := by
  rw [cut, if_neg (ne_quote_of_isPunctuation h), if_neg Bool.false_ne_true, if_pos h]
  rfl

theorem cut_space (s : List Char) : cut false (' ' :: s) = ([], tokenize s) := rfl

/-- **Induction along a cut.** The first character is one that a word goes on
with, or else it stands outside of quotes and is a punctuation character or a
space. -/
@[elab_as_elim]
theorem cutInduction {motive : Bool → List Char → Prop} (nil : ∀ quoted, motive quoted [])
    (word : ∀ quoted c s, GoesOn quoted c → motive (quotedAfter quoted [c]) s →
      motive quoted (c :: s))
    (punctuation : ∀ c s, isPunctuation c = true → motive false s → motive false (c :: s))
    (space : ∀ s, motive false s → motive false (' ' :: s)) (quoted : Bool) (s : List Char) :
    motive quoted s := by
  induction s generalizing quoted with
  | nil => exact nil quoted
  | cons c s ih =>
    by_cases hgo : GoesOn quoted c
    · exact word quoted c s hgo (ih _)
    · obtain ⟨-, hquoted, hstop⟩ := not_or.mp hgo |>.imp id not_or.mp
      obtain rfl : quoted = false := eq_false_of_ne_true hquoted
      cases hpunctuation : isPunctuation c with
      | true => exact punctuation c s hpunctuation (ih false)
      | false =>
        obtain rfl : c = ' ' := not_not.mp fun hspace => hstop ⟨hpunctuation, hspace⟩
        exact space s (ih false)

/-! ## Tokens -/

/-- **A token**: a punctuation character, or a trimmed word. -/
inductive IsToken : Token → Prop
  /-- A punctuation character by itself. -/
  | punctuation {c : Char} (h : isPunctuation c = true) : IsToken [c]
  /-- A word, trimmed, that something is left of. -/
  | word {w : List Char} (hword : IsWord false w) (htrim : trim w = w) (hne : w ≠ []) : IsToken w

theorem IsToken.ne_nil {t : Token} (h : IsToken t) : t ≠ [] := by
  cases h with
  | punctuation h => exact List.cons_ne_nil _ _
  | word _ _ hne => exact hne

/-- No punctuation character is white space. -/
theorem isBlank_of_isPunctuation {c : Char} (h : isPunctuation c = true) : isBlank c = false := by
  simp only [isPunctuation, Bool.or_eq_true, beq_iff_eq] at h
  rcases h with (((((rfl | rfl) | rfl) | rfl) | rfl) | rfl) | rfl <;> decide

theorem IsToken.trim_eq {t : Token} (h : IsToken t) : trim t = t := by
  cases h with
  | punctuation h =>
    refine trim_eq_self fun c hc => ?_
    rw [List.mem_singleton.mp hc]
    exact isBlank_of_isPunctuation h
  | word _ htrim _ => exact htrim

/-- **A token is read as itself.** -/
theorem IsToken.tokenize_eq {t : Token} (h : IsToken t) : tokenize t = [t] := by
  cases h with
  | punctuation h =>
    rw [tokenize, cut_punctuation h]
    rfl
  | word hword htrim hne =>
    have hcut := cut_append hword []
    rw [List.append_nil] at hcut
    rw [tokenize, hcut]
    simp [cut, flush, htrim, hne]

/-- **A token whose quotes are closed ends at the next space.** -/
theorem IsToken.tokenize_append_space {t : Token} (h : IsToken t)
    (hclosed : quotedAfter false t = false) (s : List Char) :
    tokenize (t ++ ' ' :: s) = t :: tokenize s := by
  cases h with
  | punctuation h =>
    rw [tokenize, List.singleton_append, cut_punctuation h]
    rfl
  | word hword htrim hne =>
    rw [tokenize, cut_append hword, hclosed, cut_space]
    simp [flush, htrim, hne]

/-! ## Runs of tokens -/

theorem joinTokens_ne_nil {t : Token} (ht : t ≠ []) (tokens : List Token) :
    joinTokens (t :: tokens) ≠ [] := by
  cases tokens with
  | nil => rwa [joinTokens, List.intercalate_singleton]
  | cons u tokens =>
    rw [joinTokens, List.intercalate_cons_cons, List.append_assoc]
    exact List.append_ne_nil_of_left_ne_nil ht _

/-- **Trimmed tokens with spaces between them** make a trimmed text. -/
theorem trim_joinTokens {tokens : List Token} (h : ∀ t ∈ tokens, t ≠ [] ∧ trim t = t) :
    trim (joinTokens tokens) = joinTokens tokens := by
  induction tokens with
  | nil => rfl
  | cons t tokens ih =>
    obtain ⟨⟨hne, htrim⟩, hrest⟩ := List.forall_mem_cons.mp h
    cases tokens with
    | nil => rwa [joinTokens, List.intercalate_singleton]
    | cons u tokens =>
      have hu : u ≠ [] := (hrest u List.mem_cons_self).1
      rw [joinTokens, List.intercalate_cons_cons, ← joinTokens]
      exact trim_append_append htrim hne (ih hrest) (joinTokens_ne_nil hu tokens) _

/-- **Tokens that can be told apart** when they are written one after another
with spaces between them. -/
structure Separable (tokens : List Token) : Prop where
  /-- They are tokens. -/
  isToken : ∀ t ∈ tokens, IsToken t
  /-- Quotes are closed before another token follows. -/
  closed : tokens.IsChain fun t _ => quotedAfter false t = false

namespace Separable

variable {tokens run : List Token}

theorem nil : Separable [] :=
  ⟨fun _ h => absurd h List.not_mem_nil, .nil⟩

/-- Tokens with closed quotes can be told apart. -/
theorem of_closed (h : ∀ t ∈ tokens, IsToken t)
    (hclosed : ∀ t ∈ tokens, quotedAfter false t = false) : Separable tokens := by
  refine ⟨h, ?_⟩
  rw [List.isChain_iff_getElem]
  exact fun i hi => hclosed _ (List.getElem_mem _)

/-- Quotes are closed in every token but the last. -/
theorem closed_of_mem_dropLast (h : Separable tokens) {t : Token} (ht : t ∈ tokens.dropLast) :
    quotedAfter false t = false := by
  obtain ⟨i, hi, rfl⟩ := List.getElem_of_mem ht
  rw [List.length_dropLast] at hi
  rw [List.getElem_dropLast]
  exact List.isChain_iff_getElem.mp h.closed i (by omega)

/-- A token in front of others must close its quotes, unless there are none. -/
theorem cons {t : Token} (h : Separable tokens) (ht : IsToken t)
    (hclosed : tokens ≠ [] → quotedAfter false t = false) : Separable (t :: tokens) := by
  refine ⟨?_, ?_⟩
  · rw [List.forall_mem_cons]
    exact ⟨ht, h.isToken⟩
  · rw [List.isChain_cons]
    exact ⟨fun u hu => hclosed fun hnil => by simp [hnil] at hu, h.closed⟩

/-- **A run of such tokens** consists of such tokens. -/
theorem of_run (h : Separable tokens) (hrun : run <:+: tokens) : Separable run :=
  ⟨fun t ht => h.isToken t (hrun.subset ht), List.IsChain.infix h.closed hrun⟩

/-- A word in front of tokens. -/
theorem flush {w : List Char} (h : Separable tokens) (hw : IsWord false w)
    (hclosed : tokens ≠ [] → quotedAfter false w = false) :
    Separable (Formula.flush w tokens) := by
  obtain ⟨hword, hquotes⟩ := isWord_trim hw
  rw [Formula.flush]
  by_cases hblank : trim w = []
  · rw [if_pos hblank]
    exact h
  · rw [if_neg hblank]
    exact h.cons (.word hword (trim_trim w) hblank) fun hne => hquotes.trans (hclosed hne)

/-- **Joined tokens are cut where they were joined.** -/
theorem tokenize_joinTokens (h : Separable tokens) : tokenize (joinTokens tokens) = tokens := by
  induction tokens with
  | nil => rfl
  | cons t tokens ih =>
    have ht := h.isToken t List.mem_cons_self
    cases tokens with
    | nil =>
      rw [joinTokens, List.intercalate_singleton]
      exact ht.tokenize_eq
    | cons u tokens =>
      have hrest : Separable (u :: tokens) := h.of_run (List.suffix_cons t _).isInfix
      have hclosed := (List.isChain_cons_cons.mp h.closed).1
      rw [joinTokens, List.intercalate_cons_cons, List.append_assoc, List.singleton_append,
        ht.tokenize_append_space hclosed, ← joinTokens, ih hrest]

/-- Joined tokens are trimmed. -/
theorem trim_joinTokens (h : Separable tokens) : trim (joinTokens tokens) = joinTokens tokens :=
  Formula.trim_joinTokens fun t ht => ⟨(h.isToken t ht).ne_nil, (h.isToken t ht).trim_eq⟩

end Separable

/-- **What cutting a text yields**: a word up to the end of the text or to a
place outside quotes, and tokens that can be told apart. -/
theorem separable_cut (quoted : Bool) (s : List Char) :
    IsWord quoted (cut quoted s).1 ∧ Separable (cut quoted s).2
      ∧ ((cut quoted s).2 ≠ [] → quotedAfter quoted (cut quoted s).1 = false) := by
  induction quoted, s using cutInduction with
  | nil quoted => exact ⟨trivial, .nil, fun h => absurd rfl h⟩
  | word quoted c s hgo ih =>
    obtain ⟨hword, htokens, hclosed⟩ := ih
    rw [cut_cons hgo]
    exact ⟨⟨hgo, hword⟩, htokens, hclosed⟩
  | punctuation c s hc ih =>
    obtain ⟨hword, htokens, hclosed⟩ := ih
    have hrest : Separable (tokenize s) := htokens.flush hword hclosed
    rw [cut_punctuation hc]
    exact ⟨trivial, hrest.cons (.punctuation hc) fun _ => quotedAfter_punctuation hc false,
      fun _ => rfl⟩
  | space s ih =>
    obtain ⟨hword, htokens, hclosed⟩ := ih
    rw [cut_space]
    exact ⟨trivial, htokens.flush hword hclosed, fun _ => rfl⟩

/-- **The tokens of a text can be told apart.** -/
theorem separable_tokenize (s : List Char) : Separable (tokenize s) := by
  obtain ⟨hword, htokens, hclosed⟩ := separable_cut false s
  exact htokens.flush hword hclosed

/-! ## White space around a formula -/

theorem flush_blank_append {z : List Char} (hz : ∀ c ∈ z, isBlank c = true) (w : List Char)
    (tokens : List Token) : flush (z ++ w) tokens = flush w tokens := by
  rw [flush, flush, trim_blank_append hz]

theorem flush_append_blank {z : List Char} (hz : ∀ c ∈ z, isBlank c = true) (w : List Char)
    (tokens : List Token) : flush (w ++ z) tokens = flush w tokens := by
  rw [flush, flush, trim_append_blank hz]

/-- Words go on with white space, except for the space. -/
theorem goesOn_of_isBlank {c : Char} (h : isBlank c = true) (hspace : c ≠ ' ') (quoted : Bool) :
    GoesOn quoted c := by
  refine .inr (.inr ⟨?_, hspace⟩)
  refine eq_false_of_ne_true fun hpunctuation => ?_
  exact Bool.false_ne_true ((isBlank_of_isPunctuation hpunctuation).symm.trans h)

/-- **White space in front of a text** adds no token. -/
theorem tokenize_blank_append {z : List Char} (hz : ∀ c ∈ z, isBlank c = true) (s : List Char) :
    tokenize (z ++ s) = tokenize s := by
  induction z with
  | nil => rfl
  | cons c z ih =>
    obtain ⟨hc, hz⟩ := List.forall_mem_cons.mp hz
    by_cases hspace : c = ' '
    · rw [hspace, List.cons_append, tokenize, cut_space]
      exact ih hz
    · have hquoted : quotedAfter false [c] = false :=
        quotedAfter_of_blank (List.forall_mem_singleton.mpr hc) false
      rw [List.cons_append, tokenize, cut_cons (goesOn_of_isBlank hc hspace false), hquoted]
      exact (flush_blank_append (List.forall_mem_singleton.mpr hc) _ _).trans (ih hz)

/-- White space alone is cut into white space. -/
theorem cut_blank {z : List Char} (hz : ∀ c ∈ z, isBlank c = true) (quoted : Bool) :
    (∀ c ∈ (cut quoted z).1, isBlank c = true) ∧ (cut quoted z).2 = [] := by
  induction z with
  | nil => exact ⟨fun c hc => absurd hc List.not_mem_nil, rfl⟩
  | cons c z ih =>
    obtain ⟨hc, hz⟩ := List.forall_mem_cons.mp hz
    by_cases hgo : GoesOn quoted c
    · have hquoted : quotedAfter quoted [c] = quoted :=
        quotedAfter_of_blank (List.forall_mem_singleton.mpr hc) quoted
      rw [cut_cons hgo, hquoted]
      exact ⟨List.forall_mem_cons.mpr ⟨hc, (ih hz).1⟩, (ih hz).2⟩
    · obtain rfl : c = ' ' := not_not.mp fun hspace => hgo (goesOn_of_isBlank hc hspace quoted)
      obtain rfl : quoted = false := eq_false_of_ne_true fun hquoted => hgo (.inr (.inl hquoted))
      have htokens : tokenize z = [] := by
        have := tokenize_blank_append hz []
        rwa [List.append_nil] at this
      rw [cut_space]
      exact ⟨fun c hc => absurd hc List.not_mem_nil, htokens⟩

/-- **White space behind a text** joins the word in which the text ends. -/
theorem exists_cut_append_blank {z : List Char} (hz : ∀ c ∈ z, isBlank c = true) (quoted : Bool)
    (s : List Char) : ∃ w, (∀ c ∈ w, isBlank c = true)
      ∧ cut quoted (s ++ z) = ((cut quoted s).1 ++ w, (cut quoted s).2) := by
  have hrest {s w : List Char} (hw : ∀ c ∈ w, isBlank c = true)
      (hcut : cut false (s ++ z) = ((cut false s).1 ++ w, (cut false s).2)) :
      tokenize (s ++ z) = tokenize s := by
    rw [tokenize, hcut]
    exact flush_append_blank hw _ _
  induction quoted, s using cutInduction with
  | nil quoted =>
    obtain ⟨hword, htokens⟩ := cut_blank hz quoted
    exact ⟨_, hword, Prod.ext rfl htokens⟩
  | word quoted c s hgo ih =>
    obtain ⟨w, hw, hcut⟩ := ih
    refine ⟨w, hw, ?_⟩
    rw [List.cons_append, cut_cons hgo, cut_cons hgo, hcut]
    rfl
  | punctuation c s hc ih =>
    obtain ⟨w, hw, hcut⟩ := ih
    refine ⟨[], fun c hc => absurd hc List.not_mem_nil, ?_⟩
    rw [List.cons_append, cut_punctuation hc, cut_punctuation hc, hrest hw hcut, List.append_nil]
  | space s ih =>
    obtain ⟨w, hw, hcut⟩ := ih
    refine ⟨[], fun c hc => absurd hc List.not_mem_nil, ?_⟩
    rw [List.cons_append, cut_space, cut_space, hrest hw hcut, List.append_nil]

/-- **A formula has the tokens that it has when it is trimmed.** -/
theorem tokenize_trim (s : List Char) : tokenize (trim s) = tokenize s := by
  obtain ⟨before, after, hs, hbefore, hafter⟩ := exists_trim s
  obtain ⟨w, hw, hcut⟩ := exists_cut_append_blank hafter false (trim s)
  have hend : tokenize (trim s ++ after) = tokenize (trim s) := by
    rw [tokenize, hcut]
    exact flush_append_blank hw _ _
  conv_rhs => rw [hs, List.append_assoc, tokenize_blank_append hbefore, hend]

/-! ## The arguments of a call -/

/-- Between parentheses is what they are around. -/
@[simp]
theorem inner_parenthesized (tokens : List Token) :
    inner (['('] :: (tokens ++ [[')']])) = tokens :=
  List.dropLast_concat

/-- **The runs of tokens that the arguments of a call are made of**. -/
def argumentRuns (tokens : List Token) : List (List Token) :=
  dropEmptyLast ((splitRuns 0 (inner tokens)).1 :: (splitRuns 0 (inner tokens)).2)

/-- With the commas between them the runs are the tokens that were split. -/
theorem intercalate_splitRuns (depth : Int) (tokens : List Token) :
    List.intercalate [[',']] ((splitRuns depth tokens).1 :: (splitRuns depth tokens).2)
      = tokens := by
  induction tokens generalizing depth with
  | nil => rfl
  | cons token tokens ih =>
    have ih := ih (nestingAfter depth token)
    rw [splitRuns]
    generalize splitRuns (nestingAfter depth token) tokens = split at ih
    obtain ⟨run, runs⟩ := split
    dsimp only at ih ⊢
    by_cases hcomma : token = [','] ∧ nestingAfter depth token = 0
    · rw [if_pos hcomma, List.intercalate_cons_cons, ih, hcomma.1]
      rfl
    · rw [if_neg hcomma]
      cases runs with
      | nil =>
        rw [List.intercalate_singleton] at ih ⊢
        rw [ih]
      | cons next runs =>
        rw [List.intercalate_cons_cons] at ih ⊢
        rw [List.cons_append, List.cons_append, ih]

/-- An empty run at the end is the only one that is dropped. -/
theorem exists_dropEmptyLast (runs : List (List Token)) :
    ∃ last, (last = [] ∨ last = [[]]) ∧ runs = dropEmptyLast runs ++ last := by
  induction runs with
  | nil => exact ⟨[], .inl rfl, rfl⟩
  | cons run runs ih =>
    cases runs with
    | nil =>
      rw [dropEmptyLast]
      by_cases hempty : run = []
      · rw [if_pos hempty, hempty]
        exact ⟨[[]], .inr rfl, rfl⟩
      · rw [if_neg hempty]
        exact ⟨[], .inl rfl, rfl⟩
    | cons next runs =>
      obtain ⟨last, hlast, heq⟩ := ih
      refine ⟨last, hlast, ?_⟩
      rw [dropEmptyLast, List.cons_append, ← heq]
      exact List.cons_ne_nil _ _

/-- **The runs, with the commas between them, are the tokens between the
parentheses** of the call, up to a comma right before the last one. -/
theorem intercalate_argumentRuns (tokens : List Token) :
    ∃ last, (last = [] ∨ last = [[]])
      ∧ List.intercalate [[',']] (argumentRuns tokens ++ last) = inner tokens := by
  obtain ⟨last, hlast, hruns⟩ := exists_dropEmptyLast
    ((splitRuns 0 (inner tokens)).1 :: (splitRuns 0 (inner tokens)).2)
  refine ⟨last, hlast, ?_⟩
  rw [argumentRuns, ← hruns]
  exact intercalate_splitRuns 0 (inner tokens)

/-- A part of a list is a run of it. -/
theorem infix_intercalate {α : Type} {separator part : List α} {parts : List (List α)}
    (h : part ∈ parts) : part <:+: List.intercalate separator parts := by
  induction parts with
  | nil => exact absurd h List.not_mem_nil
  | cons first parts ih =>
    cases parts with
    | nil =>
      obtain rfl := List.mem_singleton.mp h
      exact ⟨[], [], by simp⟩
    | cons second parts =>
      rw [List.intercalate_cons_cons]
      rcases List.mem_cons.mp h with rfl | h
      · exact ((List.prefix_append _ _).trans (List.prefix_append _ _)).isInfix
      · exact (ih h).trans (List.suffix_append _ _).isInfix

theorem infix_of_mem_argumentRuns {tokens run : List Token} (h : run ∈ argumentRuns tokens) :
    run <:+: tokens := by
  obtain ⟨last, -, hinner⟩ := intercalate_argumentRuns tokens
  have hrun : run <:+: inner tokens :=
    hinner ▸ infix_intercalate (List.mem_append_left last h)
  exact hrun.trans <|
    (List.dropLast_prefix _).isInfix.trans (List.tail_suffix _).isInfix

/-- **Tokens are read again as themselves.** Every run of the tokens of a text,
written with a space between any two, has the tokens of that run. So has every
argument of a call that stands in the text: the arguments are the runs between
the commas of the call, each written with spaces, and each has the tokens of its
run. -/
theorem tokenize_joinTokens_run (s : List Char) {tokens : List Token}
    (h : tokens <:+: tokenize s) :
    tokenize (joinTokens tokens) = tokens
      ∧ (∃ last, (last = [] ∨ last = [[]])
          ∧ List.intercalate [[',']] (argumentRuns tokens ++ last) = inner tokens)
      ∧ argumentTexts tokens = (argumentRuns tokens).map joinTokens
      ∧ (argumentTexts tokens).map tokenize = argumentRuns tokens := by
  have hseparable : Separable tokens := (separable_tokenize s).of_run h
  have hruns : ∀ run ∈ argumentRuns tokens, Separable run := fun run hrun =>
    hseparable.of_run (infix_of_mem_argumentRuns hrun)
  have htexts : argumentTexts tokens = (argumentRuns tokens).map joinTokens :=
    List.map_congr_left fun run hrun => (hruns run hrun).trim_joinTokens
  refine ⟨hseparable.tokenize_joinTokens, intercalate_argumentRuns tokens, htexts, ?_⟩
  rw [htexts, List.map_map]
  exact (List.map_congr_left fun run hrun => (hruns run hrun).tokenize_joinTokens).trans
    (List.map_id _)

/-- A call with quoted commas and parentheses, white space of all kinds in a
call inside it, an argument left out, and a quote that is never closed. -/
def nestedCall : List Char :=
  "CONCAT(\"a, (b\", SEQ(  A1:B2\t,x\"\ny\" ),, \"c ) ".toList

/-- The tokens behind its name make three arguments, with the tokens of the
text. -/
theorem tokenize_joinTokens_nestedCall :
    (tokenize nestedCall).drop 1 <:+: tokenize nestedCall
      ∧ argumentTexts ((tokenize nestedCall).drop 1)
        = ["\"a, (b\"".toList, "SEQ ( A1:B2 , x\"\ny\" )".toList, []]
      ∧ (argumentTexts ((tokenize nestedCall).drop 1)).map tokenize
        = [["\"a, (b\"".toList],
            ["SEQ".toList, ['('], "A1:B2".toList, [','], "x\"\ny\"".toList, [')']], []] := by
  have hrun : (tokenize nestedCall).drop 1 <:+: tokenize nestedCall :=
    (List.drop_suffix 1 _).isInfix
  obtain ⟨-, -, -, hagain⟩ := tokenize_joinTokens_run nestedCall hrun
  refine ⟨hrun, by decide +kernel, ?_⟩
  rw [hagain]
  decide +kernel

end Formula

end SoundSheet
