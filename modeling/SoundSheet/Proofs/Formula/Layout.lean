import Mathlib.Algebra.Group.Nat.Even
import SoundSheet.Proofs.Formula.Code

/-!
# Texts laid out as tokens

The tokens of a formula stand in it one after the other, and all that is around
them is white space (`laidOut_tokenize`). So cutting loses, invents and reorders
nothing: but for white space, a text is its tokens written one after the other
(`LaidOut.filter_flatten`).

The white space that is lost is outside of quotes, or behind a quote that is
never closed. A pair of quotes begins inside of some token. This token could end
inside of the pair only with its quote open; but then it would be the last one,
and the closing quote would be in the white space behind it. So the pair is
inside of the token with all that is between them (`LaidOut.keeps`).
-/

namespace SoundSheet.Formula

open SoundSheet.Text

/-! ## Quotes, counted -/

/-- A quote opens or closes, so it is the number of quotes that matters. -/
theorem quotedAfter_eq_false_iff {quoted : Bool} {s : List Char} :
    quotedAfter quoted s = false ↔ Even (quoted.toNat + s.count '"') := by
  induction s generalizing quoted with
  | nil => cases quoted <;> simp [quotedAfter]
  | cons c s ih =>
    rw [← List.singleton_append, quotedAfter_append, ih, List.count_append]
    by_cases hquote : c = '"'
    · cases quoted <;> simp [quotedAfter, hquote, Nat.even_add, Nat.even_add_one]
    · simp [quotedAfter, hquote]

/-- **A word has no punctuation and no space outside of its quotes.** -/
theorem isWord_iff {quoted : Bool} {w : List Char} :
    IsWord quoted w ↔ ∀ c ∈ outsideQuotes quoted w, isPunctuation c = false ∧ c ≠ ' ' := by
  induction w generalizing quoted with
  | nil => exact iff_of_true trivial (List.forall_mem_nil _)
  | cons c w ih =>
    rw [IsWord, ih, outsideQuotes, GoesOn]
    by_cases hquote : c = '"'
    · simp [hquote, quotedAfter]
    · cases quoted <;> simp [hquote, quotedAfter]

/-! ## Layouts -/

/-- **A text laid out as tokens**: they stand in it one after the other, with
white space or nothing before, between and after them. -/
inductive LaidOut : List Token → List Char → Prop
  /-- White space alone. -/
  | nil {z : List Char} (hz : ∀ c ∈ z, isBlank c = true) : LaidOut [] z
  /-- White space, a token and a text of the other tokens. -/
  | cons {z s : List Char} {tokens : List Token} (hz : ∀ c ∈ z, isBlank c = true) (t : Token)
      (h : LaidOut tokens s) : LaidOut (t :: tokens) (z ++ (t ++ s))

/-- **A piece of a text is inside of one token**: in front of it the text is
laid out as the tokens before this one, and behind it as the tokens after this
one. -/
inductive Keeps (before piece after : List Char) : List Token → Prop
  /-- What remains in front of and behind the piece is the rest of the token. -/
  | intro {earlier later : List Token} {z z' x y : List Char} (hearlier : LaidOut earlier z)
      (hlater : LaidOut later z') (hbefore : before = z ++ x) (hafter : after = y ++ z') :
      Keeps before piece after (earlier ++ (x ++ (piece ++ y)) :: later)

namespace LaidOut

variable {tokens : List Token} {s z : List Char}

/-- White space in front of a text. -/
theorem blank_append (h : LaidOut tokens s) (hz : ∀ c ∈ z, isBlank c = true) :
    LaidOut tokens (z ++ s) := by
  cases h with
  | nil hs => exact .nil (List.forall_mem_append.mpr ⟨hz, hs⟩)
  | cons hz' t h =>
    rw [← List.append_assoc]
    exact .cons (List.forall_mem_append.mpr ⟨hz, hz'⟩) t h

/-- A word in front of a text. -/
theorem flush (h : LaidOut tokens s) (w : List Char) :
    LaidOut (Formula.flush w tokens) (w ++ s) := by
  obtain ⟨before, after, hw, hbefore, hafter⟩ := exists_trim w
  rw [Formula.flush]
  conv => arg 2; rw [hw, List.append_assoc, List.append_assoc]
  by_cases hblank : trim w = []
  · rw [if_pos hblank, hblank]
    exact (h.blank_append hafter).blank_append hbefore
  · rw [if_neg hblank]
    exact .cons hbefore _ (h.blank_append hafter)

/-- **But for white space, a text is its tokens one after the other.** -/
theorem filter_flatten (h : LaidOut tokens s) :
    tokens.flatten.filter (fun c => !isBlank c) = s.filter fun c => !isBlank c := by
  have hnone {z : List Char} (hz : ∀ c ∈ z, isBlank c = true) :
      z.filter (fun c => !isBlank c) = [] :=
    List.filter_eq_nil_iff.mpr fun c hc => by simp [hz c hc]
  induction h with
  | nil hz => exact (hnone hz).symm
  | cons hz t h ih =>
    rw [List.flatten_cons, List.filter_append, List.filter_append, List.filter_append, hnone hz, ih,
      List.nil_append]

/-- White space alone has no quotes. -/
theorem ne_nil_of_quote_mem (h : LaidOut tokens s) (hquote : '"' ∈ s) : tokens ≠ [] := by
  rintro rfl
  cases h with
  | nil hz => exact absurd (hz _ hquote) (by decide)

end LaidOut

/-- A character behind a text is behind a part of the text, or in that part. -/
theorem exists_of_append_eq_append_cons {u v before rest : List Char} {c : Char}
    (h : u ++ v = before ++ c :: rest) :
    (∃ between, before = u ++ between ∧ v = between ++ c :: rest)
      ∨ ∃ u', u = before ++ c :: u' ∧ rest = u' ++ v := by
  rcases List.append_eq_append_iff.mp h with hbehind | ⟨u', hu, hrest⟩
  · exact .inl hbehind
  · rcases List.cons_eq_append_iff.mp hrest with ⟨rfl, hv⟩ | ⟨u'', rfl, hrest'⟩
    · exact .inl ⟨[], by rw [hu, List.append_nil, List.append_nil], hv⟩
    · exact .inr ⟨u'', hu, hrest'⟩

/-- The tokens of a text in front of which there is another one. -/
theorem Keeps.cons {before piece after z : List Char} {tokens : List Token}
    (h : Keeps before piece after tokens) (hz : ∀ c ∈ z, isBlank c = true) (t : Token) :
    Keeps (z ++ (t ++ before)) piece after (t :: tokens) := by
  obtain ⟨hearlier, hlater, rfl, rfl⟩ := h
  refine .intro (.cons hz t hearlier) hlater ?_ rfl
  simp only [List.append_assoc]

/-- **A closed pair of quotes is inside of one token**, with all that is between
them, if quotes are closed in every token but the last. -/
theorem LaidOut.keeps {tokens : List Token} {s : List Char} (h : LaidOut tokens s)
    (hclosed : tokens.IsChain fun t _ => quotedAfter false t = false)
    {before inside after : List Char} (hs : s = before ++ '"' :: (inside ++ '"' :: after))
    (hbefore : quotedAfter false before = false) (hinside : '"' ∉ inside) :
    Keeps before (['"'] ++ inside ++ ['"']) after tokens := by
  induction h generalizing before with
  | nil hz => exact absurd (hz '"' (by simp [hs])) (by decide)
  | @cons z s tokens hz t h ih =>
    -- a token with an open quote has no quote behind it, for it is the last one
    have hends : '"' ∈ s → quotedAfter false t = false := by
      intro hquote
      obtain ⟨u, tokens', rfl⟩ := List.exists_cons_of_ne_nil (h.ne_nil_of_quote_mem hquote)
      exact (List.isChain_cons_cons.mp hclosed).1
    rcases exists_of_append_eq_append_cons hs with ⟨x, rfl, hx⟩ | ⟨z', hz', -⟩
    swap
    · exact absurd (hz '"' (by simp [hz'])) (by decide)
    rw [quotedAfter_append, quotedAfter_of_blank hz] at hbefore
    rcases exists_of_append_eq_append_cons hx with ⟨x', rfl, hx'⟩ | ⟨t', rfl, ht'⟩
    · -- the pair begins behind the token
      rw [quotedAfter_append, hends (by simp [hx'])] at hbefore
      exact (ih hclosed.tail hx' hbefore).cons hz t
    · rcases exists_of_append_eq_append_cons ht'.symm with ⟨rest, rfl, hrest⟩ | ⟨y, rfl, hy⟩
      · -- the token cannot end inside the pair
        have hopen := hends (by simp [hrest])
        have hinside' : '"' ∉ t' := fun hmem => hinside (List.mem_append_left _ hmem)
        rw [quotedAfter_append, hbefore, ← List.singleton_append, quotedAfter_append,
          show quotedAfter false ['"'] = true from rfl, (isWord_quoted hinside').2] at hopen
        exact nomatch hopen
      · have hkeeps : Keeps (z ++ x) (['"'] ++ inside ++ ['"']) (y ++ s)
            ([] ++ (x ++ (['"'] ++ inside ++ ['"'] ++ y)) :: tokens) := .intro (.nil hz) h rfl rfl
        rw [hy]
        simpa using hkeeps

/-! ## The layout of a formula -/

/-- A text is laid out as its tokens if it is so behind the word that it begins
with. -/
theorem laidOut_tokenize_of_cut {s : List Char}
    (h : ∃ rest, s = (cut false s).1 ++ rest ∧ LaidOut (cut false s).2 rest) :
    LaidOut (tokenize s) s := by
  obtain ⟨rest, hs, hrest⟩ := h
  have hflush := hrest.flush (cut false s).1
  rwa [← hs] at hflush

/-- Behind that word are the other tokens. -/
theorem laidOut_cut (quoted : Bool) (s : List Char) :
    ∃ rest, s = (cut quoted s).1 ++ rest ∧ LaidOut (cut quoted s).2 rest := by
  induction quoted, s using cutInduction with
  | nil quoted => exact ⟨[], rfl, .nil (List.forall_mem_nil _)⟩
  | word quoted c s hgo ih =>
    obtain ⟨rest, hs, hrest⟩ := ih
    rw [cut_cons hgo]
    exact ⟨rest, congrArg (c :: ·) hs, hrest⟩
  | punctuation c s hc ih =>
    rw [cut_punctuation hc]
    exact ⟨c :: s, rfl, .cons (List.forall_mem_nil _) [c] (laidOut_tokenize_of_cut ih)⟩
  | space s ih =>
    rw [cut_space]
    exact ⟨' ' :: s, rfl, (laidOut_tokenize_of_cut ih).blank_append isBlank_of_mem_space⟩

/-- **A text is laid out as its tokens.** -/
theorem laidOut_tokenize (s : List Char) : LaidOut (tokenize s) s :=
  laidOut_tokenize_of_cut (laidOut_cut false s)

/-- The seven punctuation characters. -/
theorem isPunctuation_iff_mem {c : Char} : isPunctuation c = true ↔ c ∈ "(),+-*/".toList := by
  simp [isPunctuation, or_assoc]

/-- A token is a punctuation character, or it has none and no space outside of
its quotes. -/
theorem IsToken.alone_or_outsideQuotes {t : Token} (h : IsToken t) :
    (∃ c ∈ "(),+-*/".toList, t = [c])
      ∨ ∀ c ∈ outsideQuotes false t, c ∉ "(),+-*/".toList ∧ c ≠ ' ' := by
  cases h with
  | @punctuation c hc => exact .inl ⟨c, isPunctuation_iff_mem.mp hc, rfl⟩
  | word hword _ _ =>
    refine .inr fun c hc => ?_
    obtain ⟨hnot, hspace⟩ := isWord_iff.mp hword c hc
    rw [← isPunctuation_iff_mem, hnot]
    exact ⟨Bool.false_ne_true, hspace⟩

/-- **Cutting keeps the text.** The tokens of any text stand in it one after the
other, with white space around them; so but for white space, they are the text.
Wherever two quotes of the text make a pair, one opened and the other closing
it, they are inside of one token with all that is between them. No token is
empty or has white space around it. A token is one of the seven punctuation
characters alone, or it has none of them and no space outside of its quotes. And
in every token but the last the number of quotes is even. -/
theorem tokenize_keeps_text (s : List Char) :
    LaidOut (tokenize s) s
      ∧ (tokenize s).flatten.filter (fun c => !isBlank c) = s.filter (fun c => !isBlank c)
      ∧ (∀ before inside after, s = before ++ '"' :: (inside ++ '"' :: after) →
          Even (before.count '"') → '"' ∉ inside →
            Keeps before (['"'] ++ inside ++ ['"']) after (tokenize s))
      ∧ (∀ t ∈ tokenize s, t ≠ [] ∧ (∀ c ∈ t.head?, isBlank c = false)
          ∧ ∀ c ∈ t.getLast?, isBlank c = false)
      ∧ (∀ t ∈ tokenize s, (∃ c ∈ "(),+-*/".toList, t = [c])
          ∨ ∀ c ∈ outsideQuotes false t, c ∉ "(),+-*/".toList ∧ c ≠ ' ')
      ∧ ∀ t ∈ (tokenize s).dropLast, Even (t.count '"') := by
  have hlaidOut := laidOut_tokenize s
  have hseparable := separable_tokenize s
  have heven {t : List Char} : quotedAfter false t = false ↔ Even (t.count '"') := by
    rw [quotedAfter_eq_false_iff, Bool.toNat_false, Nat.zero_add]
  refine ⟨hlaidOut, hlaidOut.filter_flatten, fun before inside after hs hbefore hinside => ?_,
    fun t ht => ?_, fun t ht => (hseparable.isToken t ht).alone_or_outsideQuotes, fun t ht => ?_⟩
  · exact hlaidOut.keeps hseparable.closed hs (heven.mpr hbefore) hinside
  · have htoken := hseparable.isToken t ht
    have htrim := htoken.trim_eq
    refine ⟨htoken.ne_nil, ?_, ?_⟩
    · rw [← htrim]
      exact isBlank_head_trim
    · rw [← htrim]
      exact isBlank_getLast_trim
  · exact heven.mp (hseparable.closed_of_mem_dropLast ht)

/-- A text with white space of several kinds at the ends of a token and between
quotes that are glued to other characters, and a quote that is never closed. -/
def gluedQuotes : List Char := "\tx\" a,\t\"y\u3000, z \"+ ".toList

/-- The pair of quotes is kept with all that is in it. -/
theorem tokenize_gluedQuotes :
    gluedQuotes = "\tx".toList ++ '"' :: (" a,\t".toList ++ '"' :: "y\u3000, z \"+ ".toList)
      ∧ Even ("\tx".toList.count '"') ∧ '"' ∉ " a,\t".toList
      ∧ Keeps "\tx".toList (['"'] ++ " a,\t".toList ++ ['"']) "y\u3000, z \"+ ".toList
        (tokenize gluedQuotes)
      ∧ tokenize gluedQuotes = ["x\" a,\t\"y".toList, [','], ['z'], "\"+".toList] := by
  have hsplit : gluedQuotes
      = "\tx".toList ++ '"' :: (" a,\t".toList ++ '"' :: "y\u3000, z \"+ ".toList) := by decide
  have hbefore : Even ("\tx".toList.count '"') := by decide
  have hinside : '"' ∉ " a,\t".toList := by decide
  obtain ⟨-, -, hkeeps, -⟩ := tokenize_keeps_text gluedQuotes
  exact ⟨hsplit, hbefore, hinside, hkeeps _ _ _ hsplit hbefore hinside, by decide⟩

end SoundSheet.Formula
