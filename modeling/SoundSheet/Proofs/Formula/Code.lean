import SoundSheet.Formula.Call
import SoundSheet.Proofs.Formula.Writing

/-!
# Code between parentheses

A script call may hold any code whose quotes are closed and whose parentheses
outside of quotes match (`IsCode`). Where the code ends is found by counting:
from inside the first parenthesis no more are closed than have been opened
(`closesWithin_eq_true_iff`).

What is counted is the punctuation outside of quotes, and the tokens of a text
have the same (`filter_outsideQuotes`). So two texts with the same tokens close
alike (`closesWithin_congr`), and the tokens of code that stands in an argument
stay in one piece (`IsCode.wholeFrom_tokenize`).
-/

namespace SoundSheet.Formula

open SoundSheet.Text

/-- **The characters outside quotes**, from a place inside or outside quotes.
Every quote opens or closes. -/
def outsideQuotes : Bool → List Char → List Char
  | _, [] => []
  | quoted, c :: rest =>
    if c = '"' then outsideQuotes (!quoted) rest
    else if quoted then outsideQuotes quoted rest
    else c :: outsideQuotes quoted rest

/-- How many parentheses are opened and not closed. -/
def openings (s : List Char) : Int :=
  s.count '(' - s.count ')'

/-- **Code that a script call can hold**: its quotes are closed, and outside of
them every parenthesis is closed and none before it is opened. -/
structure IsCode (c : List Char) : Prop where
  /-- Quotes pair up. -/
  closed : quotedAfter false c = false
  /-- No more parentheses are closed than have been opened. -/
  opened : ∀ p, p <+: outsideQuotes false c → 0 ≤ openings p
  /-- All of them are closed. -/
  balanced : openings (outsideQuotes false c) = 0

theorem openings_cons (c : Char) (s : List Char) :
    openings (c :: s) = openings [c] + openings s := by
  simp only [openings, List.count_cons, List.count_nil]
  omega

/-- Only parentheses count. -/
theorem openings_singleton {c : Char} (hopen : c ≠ '(') (hclose : c ≠ ')') : openings [c] = 0 := by
  simp [openings, hopen, hclose]

/-- **One character on**: it changes how many parentheses are open in front of
the rest. -/
theorem forall_opened_cons_iff {depth : Int} (hdepth : 0 ≤ depth) {c : Char} {s : List Char} :
    (∀ p, p <+: c :: s → 0 ≤ depth + openings p)
      ↔ ∀ p, p <+: s → 0 ≤ depth + openings [c] + openings p := by
  constructor
  · intro h p hp
    have := h (c :: p) ((List.prefix_cons_inj c).mpr hp)
    rw [openings_cons] at this
    omega
  · intro h p hp
    rcases List.prefix_cons_iff.mp hp with rfl | ⟨q, rfl, hq⟩
    · exact Int.add_nonneg hdepth (Int.le_refl 0)
    · have := h q hq
      rw [openings_cons]
      omega

/-- **Closing within so many parentheses**, without the scan. -/
theorem closesWithin_eq_true_iff {quoted : Bool} {depth : Nat} {s : List Char} :
    closesWithin quoted depth s = true
      ↔ ∀ p, p <+: outsideQuotes quoted s → 0 ≤ depth + openings p := by
  induction s generalizing quoted depth with
  | nil =>
    refine iff_of_true (by unfold closesWithin; rfl) fun p hp => ?_
    rw [List.prefix_nil.mp hp]
    exact Int.add_nonneg (Int.natCast_nonneg depth) (Int.le_refl 0)
  | cons c s ih =>
    unfold closesWithin outsideQuotes
    by_cases hquote : c = '"'
    · rw [if_pos hquote, if_pos hquote, ih]
    rw [if_neg hquote, if_neg hquote]
    cases quoted with
    | true => exact ih
    | false =>
      rw [if_neg Bool.false_ne_true, if_neg Bool.false_ne_true,
        forall_opened_cons_iff (Int.natCast_nonneg depth)]
      by_cases hopen : c = '('
      · rw [if_pos hopen, ih, hopen]
        rfl
      rw [if_neg hopen]
      by_cases hclose : c = ')'
      · rw [if_pos hclose, hclose]
        cases depth with
        | zero =>
          refine iff_of_false Bool.false_ne_true fun h => ?_
          exact absurd (h [] List.nil_prefix) (by decide)
        | succ depth =>
          have hone : ((depth + 1 : Nat) : Int) + openings [')'] = depth := by
            show ((depth + 1 : Nat) : Int) + -1 = depth
            omega
          rw [hone]
          exact ih
      · rw [if_neg hclose, ih, openings_singleton hopen hclose, Int.add_zero]

/-- From the start: no parenthesis is closed before it is opened. -/
theorem closesWithin_zero_iff {c : List Char} :
    closesWithin false 0 c = true ↔ ∀ p, p <+: outsideQuotes false c → 0 ≤ openings p := by
  rw [closesWithin_eq_true_iff]
  show (∀ p, _ → 0 ≤ (0 : Int) + openings p) ↔ _
  simp only [Int.zero_add]

theorem isCode_iff {c : List Char} :
    IsCode c ↔ quotedAfter false c = false ∧ closesWithin false 0 c = true
      ∧ openings (outsideQuotes false c) = 0 := by
  rw [closesWithin_zero_iff]
  exact ⟨fun h => ⟨h.closed, h.opened, h.balanced⟩, fun h => ⟨h.1, h.2.1, h.2.2⟩⟩

instance (c : List Char) : Decidable (IsCode c) :=
  decidable_of_iff _ isCode_iff.symm

/-! ## Punctuation outside quotes -/

/-- The punctuation character that a token is, if it is one. -/
def mark? : Token → Option Char
  | [c] => if isPunctuation c then some c else none
  | _ => none

theorem mark?_eq_some_iff {t : Token} {c : Char} :
    mark? t = some c ↔ t = [c] ∧ isPunctuation c = true := by
  unfold mark?
  split
  · next d =>
    by_cases hd : isPunctuation d = true
    · rw [if_pos hd, Option.some.injEq, List.singleton_inj]
      exact ⟨fun h => ⟨h, h ▸ hd⟩, And.left⟩
    · rw [if_neg hd, List.singleton_inj]
      exact iff_of_false nofun fun h => hd (h.1 ▸ h.2)
  · next hsingle => exact iff_of_false nofun fun h => hsingle c h.1

theorem mark?_eq_none_iff {t : Token} : mark? t = none ↔ ¬IsMark t := by
  rw [Option.eq_none_iff_forall_ne_some]
  exact ⟨fun h ⟨c, hc⟩ => h c (mark?_eq_some_iff.mpr hc),
    fun h c hc => h ⟨c, mark?_eq_some_iff.mp hc⟩⟩

/-- A word is no punctuation character, with or without white space around
it. -/
theorem not_isMark_of_isWord {w : List Char} (h : IsWord false w) : ¬IsMark w := by
  rintro ⟨c, rfl, hc⟩
  rcases h.1 with rfl | hquoted | ⟨hnot, -⟩
  · exact absurd hc (by decide)
  · exact nomatch hquoted
  · exact Bool.false_ne_true (hnot.symm.trans hc)

theorem filterMap_mark?_flush {w : List Char} (h : IsWord false w) (tokens : List Token) :
    (flush w tokens).filterMap mark? = tokens.filterMap mark? := by
  rw [flush]
  split
  · rfl
  · exact List.filterMap_cons_none (mark?_eq_none_iff.mpr (not_isMark_of_isWord (isWord_trim h).1))

/-- A character that the word goes on with is no punctuation outside of
quotes. -/
theorem filter_outsideQuotes_cons {quoted : Bool} {c : Char} (h : GoesOn quoted c) (s : List Char) :
    (outsideQuotes quoted (c :: s)).filter isPunctuation
      = (outsideQuotes (quotedAfter quoted [c]) s).filter isPunctuation := by
  rw [outsideQuotes]
  by_cases hquote : c = '"'
  · simp [hquote, quotedAfter]
  · have hsame : quotedAfter quoted [c] = quoted := by simp [quotedAfter, hquote]
    rw [if_neg hquote, hsame]
    rcases h with h | rfl | ⟨hpunctuation, -⟩
    · exact absurd h hquote
    · rfl
    · cases quoted with
      | true => rfl
      | false => exact List.filter_cons_of_neg (by rw [hpunctuation]; exact Bool.false_ne_true)

theorem filter_outsideQuotes_cut (quoted : Bool) (s : List Char) :
    (outsideQuotes quoted s).filter isPunctuation = (cut quoted s).2.filterMap mark? := by
  induction quoted, s using cutInduction with
  | nil => rfl
  | word quoted c s hgo ih => rw [filter_outsideQuotes_cons hgo, cut_cons hgo, ih]
  | punctuation c s hc ih =>
    have hword := (separable_cut false s).1
    rw [outsideQuotes, if_neg (ne_quote_of_isPunctuation hc), if_neg Bool.false_ne_true,
      cut_punctuation hc, List.filter_cons_of_pos hc, ih,
      List.filterMap_cons_some (mark?_eq_some_iff.mpr ⟨rfl, hc⟩), tokenize,
      filterMap_mark?_flush hword]
  | space s ih =>
    have hword := (separable_cut false s).1
    rw [cut_space, tokenize, filterMap_mark?_flush hword, ← ih]
    exact List.filter_cons_of_neg (by decide)

/-- **The punctuation of a text outside its quotes is that of its tokens.** -/
theorem filter_outsideQuotes (s : List Char) :
    (outsideQuotes false s).filter isPunctuation = (tokenize s).filterMap mark? :=
  (filter_outsideQuotes_cut false s).trans
    (filterMap_mark?_flush (separable_cut false s).1 _).symm

theorem openings_filter (s : List Char) : openings (s.filter isPunctuation) = openings s := by
  rw [openings, openings, List.count_filter (by decide), List.count_filter (by decide)]

/-- **Whether a text closes is a matter of its tokens.** -/
theorem closesWithin_congr {s t : List Char} (h : tokenize s = tokenize t) (depth : Nat) :
    closesWithin false depth s = closesWithin false depth t := by
  have hmarks (s : List Char) : closesWithin false depth s = true
      ↔ ∀ p, p <+: (tokenize s).filterMap mark? → 0 ≤ depth + openings p := by
    rw [closesWithin_eq_true_iff, ← filter_outsideQuotes]
    constructor
    · intro hs p hp
      obtain ⟨q, hq, rfl⟩ := List.prefix_filter_iff.mp hp
      rw [openings_filter]
      exact hs q hq
    · intro hs p hp
      rw [← openings_filter]
      exact hs _ (hp.filter _)
  exact Bool.eq_iff_iff.mpr ((hmarks s).trans (h ▸ (hmarks t).symm))

/-! ## Runs in one piece -/

/-- A token changes the nesting as its punctuation does. -/
theorem nestingAfter_eq_add_openings {t : Token} {c : Char} (h : mark? t = some c) (depth : Int) :
    nestingAfter depth t = depth + openings [c] := by
  obtain ⟨rfl, -⟩ := mark?_eq_some_iff.mp h
  unfold nestingAfter
  by_cases hopen : c = '('
  · rw [hopen]
    rfl
  rw [if_neg fun h => hopen (List.singleton_inj.mp h)]
  by_cases hclose : c = ')'
  · rw [hclose]
    rfl
  · rw [if_neg fun h => hclose (List.singleton_inj.mp h), openings_singleton hopen hclose,
      Int.add_zero]

/-- **A split passes over a run** from a nesting at which none of its commas is
outside parentheses. -/
theorem splitRuns_append {run : List Token} : ∀ {depth : Int},
    (∀ before after, run.filterMap mark? = before ++ ',' :: after → depth + openings before ≠ 0) →
      ∀ rest, splitRuns depth (run ++ rest)
        = (run ++ (splitRuns (depth + openings (run.filterMap mark?)) rest).1,
            (splitRuns (depth + openings (run.filterMap mark?)) rest).2) := by
  induction run with
  | nil =>
    intro depth _ rest
    rw [List.filterMap_nil, show openings [] = 0 from rfl, Int.add_zero]
    rfl
  | cons t run ih =>
    intro depth hcommas rest
    cases hmark : mark? t with
    | none =>
      rw [List.filterMap_cons_none hmark] at hcommas ⊢
      have hword : WholeFrom depth [t] := .singleton (mark?_eq_none_iff.mp hmark)
      have hpass := hword depth (Int.le_refl depth) (run ++ rest)
      rw [List.singleton_append] at hpass
      rw [List.cons_append, hpass, ih hcommas]
      rfl
    | some c =>
      rw [List.filterMap_cons_some hmark] at hcommas ⊢
      have hnesting := nestingAfter_eq_add_openings hmark depth
      have hcomma : ¬(t = [','] ∧ nestingAfter depth t = 0) := by
        rintro ⟨rfl, hzero⟩
        obtain rfl : c = ',' := List.singleton_inj.mp (mark?_eq_some_iff.mp hmark).1.symm
        exact hcommas [] _ rfl (by rwa [hnesting] at hzero)
      have hrest := @ih (depth + openings [c]) (fun before after h => by
        have := hcommas (c :: before) after (by rw [h]; rfl)
        rwa [openings_cons, ← Int.add_assoc] at this) rest
      rw [List.cons_append, splitRuns_cons hcomma, hnesting, hrest,
        openings_cons c (run.filterMap mark?), ← Int.add_assoc]
      rfl

/-- A comma among the marks is one outside of quotes. -/
theorem exists_of_filterMap_mark? {s before after : List Char}
    (h : (tokenize s).filterMap mark? = before ++ ',' :: after) :
    ∃ before' after', outsideQuotes false s = before' ++ ',' :: after'
      ∧ openings before' = openings before := by
  rw [← filter_outsideQuotes, List.filter_eq_append_iff] at h
  obtain ⟨first, second, hsplit, rfl, hsecond⟩ := h
  obtain ⟨skipped, after', rfl, hskipped, -, -⟩ := List.filter_eq_cons_iff.mp hsecond
  refine ⟨first ++ skipped, after', by rw [hsplit, List.append_assoc], ?_⟩
  rw [← openings_filter, List.filter_append, List.filter_eq_nil_iff.mpr hskipped, List.append_nil]

/-- **An argument**: its quotes are closed, outside of them every parenthesis is
matched, and commas stand inside of parentheses. -/
structure IsArgument (t : List Char) : Prop where
  /-- Quotes pair up. -/
  closed : quotedAfter false t = false
  /-- As many parentheses are closed as are opened. -/
  balanced : openings (outsideQuotes false t) = 0
  /-- Commas are inside of parentheses. -/
  inside : ∀ before after, outsideQuotes false t = before ++ ',' :: after → 0 < openings before

theorem IsArgument.wholeFrom_tokenize {t : List Char} (h : IsArgument t) :
    WholeFrom 0 (tokenize t) := by
  intro depth hdepth rest
  rw [splitRuns_append fun before after hmarks => ?_]
  · rw [← filter_outsideQuotes, openings_filter, h.balanced, Int.add_zero]
  · obtain ⟨before', after', hsplit, hopenings⟩ := exists_of_filterMap_mark? hmarks
    have := h.inside before' after' hsplit
    omega

/-- **Code is left in one piece inside of parentheses**, whatever commas it
has. -/
theorem IsCode.wholeFrom_tokenize {c : List Char} (h : IsCode c) : WholeFrom 1 (tokenize c) := by
  intro depth hdepth rest
  rw [splitRuns_append fun before after hmarks => ?_]
  · rw [← filter_outsideQuotes, openings_filter, h.balanced, Int.add_zero]
  · obtain ⟨before', after', hsplit, hopenings⟩ := exists_of_filterMap_mark? hmarks
    have := h.opened before' ⟨_, hsplit.symm⟩
    omega

/-! ## Texts one after the other -/

theorem flush_append (w : List Char) (tokens tokens' : List Token) :
    flush w (tokens ++ tokens') = flush w tokens ++ tokens' := by
  rw [flush, flush]
  split <;> rfl

theorem cut_append_punctuation {c : Char} (hc : isPunctuation c = true) {quoted : Bool}
    {s : List Char} (hclosed : quotedAfter quoted s = false) (t : List Char) :
    cut quoted (s ++ c :: t) = ((cut quoted s).1, (cut quoted s).2 ++ [c] :: tokenize t) := by
  have hrest {s : List Char}
      (hcut : cut false (s ++ c :: t) = ((cut false s).1, (cut false s).2 ++ [c] :: tokenize t)) :
      tokenize (s ++ c :: t) = tokenize s ++ [c] :: tokenize t := by
    rw [tokenize, hcut]
    exact flush_append _ _ _
  induction quoted, s using cutInduction with
  | nil quoted =>
    obtain rfl : quoted = false := hclosed
    exact cut_punctuation hc t
  | word quoted d s hgo ih =>
    rw [List.cons_append, cut_cons hgo, cut_cons hgo, ih hclosed]
  | punctuation d s hd ih =>
    have hclosed' : quotedAfter false s = false := by
      rwa [← List.singleton_append, quotedAfter_append, quotedAfter_punctuation hd] at hclosed
    rw [List.cons_append, cut_punctuation hd, cut_punctuation hd, hrest (ih hclosed')]
    rfl
  | space s ih =>
    rw [List.cons_append, cut_space, cut_space, hrest (ih hclosed)]

/-- **A punctuation character behind closed quotes** parts the tokens. -/
theorem tokenize_append_punctuation {c : Char} (hc : isPunctuation c = true) {s : List Char}
    (hclosed : quotedAfter false s = false) (t : List Char) :
    tokenize (s ++ c :: t) = tokenize s ++ [c] :: tokenize t := by
  rw [tokenize, cut_append_punctuation hc hclosed]
  exact flush_append _ _ _

/-- **Texts with commas between them** have their tokens, with commas between
them. -/
theorem tokenize_intercalate {texts : List (List Char)}
    (h : ∀ t ∈ texts, quotedAfter false t = false) :
    tokenize (List.intercalate [','] texts) = List.intercalate [[',']] (texts.map tokenize)
      ∧ quotedAfter false (List.intercalate [','] texts) = false := by
  induction texts with
  | nil => exact ⟨rfl, rfl⟩
  | cons t texts ih =>
    obtain ⟨ht, htexts⟩ := List.forall_mem_cons.mp h
    cases texts with
    | nil =>
      rw [List.intercalate_singleton, List.map_singleton, List.intercalate_singleton]
      exact ⟨rfl, ht⟩
    | cons u texts =>
      obtain ⟨htokens, hclosed⟩ := ih htexts
      rw [List.intercalate_cons_cons, List.append_assoc, List.singleton_append, List.map_cons,
        tokenize_append_punctuation (by decide) ht, htokens, List.map_cons,
        List.intercalate_cons_cons, List.append_assoc]
      refine ⟨rfl, ?_⟩
      rw [← List.singleton_append, quotedAfter_append, quotedAfter_append, ht]
      exact hclosed

end SoundSheet.Formula
