import Mathlib.Data.List.Infix
import SoundSheet.Proofs.Formula.Code

/-!
# Argument lists are split into what they are written with

The arguments of a call are written as runs of tokens with commas between them,
in a pair of parentheses. A run may hold commas of its own, inside of
parentheses, and its parentheses match (`IsArgumentRun`). What its tokens are
made of does not matter: a token in quotes that has commas and parentheses in it
is a token like any other. From such a list the runs are recovered, each as one
text, and there are as many arguments as there are runs
(`argumentTexts_of_isArgumentRun`). A run may also be empty, unless it is the
last one.

The split counts how many parentheses are open as it goes. In front of a run
none is, and `nesting` says how many there are at any place in it; so a comma of
the run is never met where none is open, and behind the run none is open again
(`IsArgumentRun.wholeFrom`).
-/

namespace SoundSheet.Formula

open SoundSheet.Text

/-! ## Matching parentheses -/

/-- How many parentheses tokens open and do not close. -/
def nesting (tokens : List Token) : Int :=
  tokens.count ['('] - tokens.count [')']

/-- **Tokens whose parentheses match**. -/
structure Balanced (tokens : List Token) : Prop where
  /-- No more parentheses are closed than have been opened. -/
  opened : ∀ before, before <+: tokens → 0 ≤ nesting before
  /-- All of them are closed. -/
  closed : nesting tokens = 0

instance (tokens : List Token) : Decidable (Balanced tokens) :=
  decidable_of_iff ((∀ before ∈ tokens.inits, 0 ≤ nesting before) ∧ nesting tokens = 0) <| by
    simp only [List.mem_inits]
    exact ⟨fun h => ⟨h.1, h.2⟩, fun h => ⟨h.opened, h.closed⟩⟩

/-- A punctuation character occurs among the marks as often as among the
tokens. -/
theorem count_filterMap_mark? {c : Char} (hc : isPunctuation c = true) (tokens : List Token) :
    (tokens.filterMap mark?).count c = tokens.count [c] := by
  have hmark (t : Token) : (mark? t == some c) = (t == [c]) := by
    rw [Bool.eq_iff_iff, beq_iff_eq, beq_iff_eq, mark?_eq_some_iff]
    exact and_iff_left hc
  rw [List.count_filterMap, List.count_eq_countP]
  exact List.countP_congr fun t _ => by rw [hmark]

/-- The nesting is a matter of the punctuation among the tokens. -/
theorem openings_filterMap_mark? (tokens : List Token) :
    openings (tokens.filterMap mark?) = nesting tokens := by
  rw [openings, nesting, count_filterMap_mark? (by decide), count_filterMap_mark? (by decide)]

/-- A punctuation character among the marks is a token, and what is in front of
it are the marks of the tokens in front of it. -/
theorem exists_of_filterMap_mark?_eq {tokens : List Token} {before after : List Char} {c : Char}
    (h : tokens.filterMap mark? = before ++ c :: after) :
    ∃ before' after', tokens = before' ++ [c] :: after' ∧ before'.filterMap mark? = before := by
  obtain ⟨first, second, rfl, rfl, hsecond⟩ := List.filterMap_eq_append_iff.mp h
  obtain ⟨skipped, t, after', rfl, hskipped, hmark, -⟩ := List.filterMap_eq_cons_iff.mp hsecond
  obtain ⟨rfl, -⟩ := mark?_eq_some_iff.mp hmark
  refine ⟨first ++ skipped, after', by rw [List.append_assoc], ?_⟩
  rw [List.filterMap_append, List.filterMap_eq_nil_iff.mpr hskipped, List.append_nil]

/-! ## The runs of an argument list -/

/-- **The tokens of an argument**: each is trimmed and something is left of it,
parentheses match, and commas stand inside of parentheses. -/
structure IsArgumentRun (run : List Token) : Prop where
  /-- Tokens are not empty and have no white space around them. -/
  trimmed : ∀ t ∈ run, t ≠ [] ∧ trim t = t
  /-- Parentheses match. -/
  balanced : Balanced run
  /-- Commas are inside of parentheses. -/
  inside : ∀ before after, run = before ++ [','] :: after → nesting before ≠ 0

instance (run : List Token) : Decidable (IsArgumentRun run) :=
  decidable_of_iff ((∀ t ∈ run, t ≠ [] ∧ trim t = t) ∧ Balanced run
      ∧ ∀ before ∈ run.inits, before ++ [[',']] <+: run → nesting before ≠ 0) <| by
    refine ⟨fun ⟨ht, hb, hc⟩ => ⟨ht, hb, fun before after hsplit => ?_⟩,
      fun h => ⟨h.trimmed, h.balanced, fun before _ hcomma => ?_⟩⟩
    · refine hc before (List.mem_inits _ _ |>.mpr ⟨_, hsplit.symm⟩) ⟨after, ?_⟩
      rw [hsplit, List.append_assoc]
      rfl
    · obtain ⟨after, hafter⟩ := hcomma
      rw [List.append_assoc] at hafter
      exact h.inside before after hafter.symm

/-- **Such a run is left in one piece.** -/
theorem IsArgumentRun.wholeFrom {run : List Token} (h : IsArgumentRun run) : WholeFrom 0 run := by
  intro depth hdepth rest
  rw [splitRuns_append fun before after hmarks => ?_]
  · rw [openings_filterMap_mark?, h.balanced.closed, Int.add_zero]
  · obtain ⟨before', after', hsplit, rfl⟩ := exists_of_filterMap_mark?_eq hmarks
    have hne := h.inside before' after' hsplit
    have hpos := h.balanced.opened before' ⟨_, hsplit.symm⟩
    rw [openings_filterMap_mark?]
    omega

/-- **An argument list is split into its runs.** In parentheses and with commas
between them, runs of tokens are read as that many arguments, and each argument
is the text of the tokens of its run with a space between any two. Only the last
run must not be empty. -/
theorem argumentTexts_of_isArgumentRun {runs : List (List Token)}
    (hruns : ∀ run ∈ runs, IsArgumentRun run) (hlast : runs.getLast? ≠ some []) :
    argumentTexts (['('] :: (List.intercalate [[',']] runs ++ [[')']]))
        = runs.map (fun run => List.intercalate [' '] run)
      ∧ (argumentTexts (['('] :: (List.intercalate [[',']] runs ++ [[')']]))).length
        = runs.length := by
  have htexts : argumentTexts (['('] :: (List.intercalate [[',']] runs ++ [[')']]))
      = runs.map joinTokens :=
    argumentTexts_parenthesized (fun run hrun => trim_joinTokens (hruns run hrun).trimmed)
      (fun run hrun => (hruns run hrun).wholeFrom) hlast
  exact ⟨htexts, by rw [htexts, List.length_map]⟩

/-- A nested call with two arguments, an argument that is left out, and quotes
with a comma and a parenthesis in them. -/
def mixedRuns : List (List Token) :=
  [["SEQ".toList, ['('], "A1:B2".toList, [','], ['('], "2".toList, [')'], [')']], [],
    ["\"a, (b\"".toList, ['+'], "\")\"".toList]]

/-- They make three arguments, the second of them empty. -/
theorem argumentTexts_mixedRuns :
    (∀ run ∈ mixedRuns, IsArgumentRun run) ∧ mixedRuns.getLast? ≠ some []
      ∧ argumentTexts (['('] :: (List.intercalate [[',']] mixedRuns ++ [[')']]))
        = ["SEQ ( A1:B2 , ( 2 ) )".toList, [], "\"a, (b\" + \")\"".toList] := by
  have hruns : ∀ run ∈ mixedRuns, IsArgumentRun run := by decide +kernel
  have hlast : mixedRuns.getLast? ≠ some [] := by decide
  refine ⟨hruns, hlast, (argumentTexts_of_isArgumentRun hruns hlast).1.trans ?_⟩
  decide

end SoundSheet.Formula
