import SoundSheet.Proofs.Formula.NestedScripts

/-!
# Strings in code

To see where its code ends, a script call counts the parentheses of the code,
and those in quotes do not count. Every quote opens or closes there
(`outsideQuotes`). The script language has strings in which a backslash escapes
the character behind it (`outsideStrings`), so a quote may stand inside of a
string and end nothing.

As long as no string escapes a quote this is the same
(`outsideStrings_eq_outsideQuotes`), and code in which no parenthesis is closed
before it is opened runs as it is written, whatever stands in its strings
(`runRaw_scriptCall`). Behind a quote that is escaped, what is a string and what
is none are taken for each other. If a parenthesis in the string then seems to
close the call, the code is run together with the parentheses of the call
(`evaluateCell_escapesQuote`).
-/

namespace SoundSheet.Formula

open SoundSheet.Text SoundSheet.Script

/-! ## Strings of the script language -/

/-- **The characters outside strings**, from a place inside or outside of a
string. A string ends at a quote, but not at one behind a backslash. -/
def outsideStrings : Bool → List Char → List Char
  | _, [] => []
  | false, c :: rest => if c = '"' then outsideStrings true rest else c :: outsideStrings false rest
  | true, '\\' :: _ :: rest => outsideStrings true rest
  | true, c :: rest => if c = '"' then outsideStrings false rest else outsideStrings true rest

/-- **The characters that are escaped**: those behind a backslash in a
string. -/
def escapedChars : Bool → List Char → List Char
  | _, [] => []
  | false, c :: rest => if c = '"' then escapedChars true rest else escapedChars false rest
  | true, '\\' :: c :: rest => c :: escapedChars true rest
  | true, c :: rest => if c = '"' then escapedChars false rest else escapedChars true rest

/-- What follows a string is what follows the rest of it. -/
theorem exists_takeQuoted_of_map {c : Char} {s text rest : List Char}
    (h : (takeQuoted s).map (fun (t, r) => (c :: t, r)) = .ok (text, rest)) :
    ∃ text, takeQuoted s = .ok (text, rest) := by
  cases htaken : takeQuoted s with
  | error lexeme =>
    rw [htaken] at h
    exact nomatch h
  | ok taken =>
    rw [htaken] at h
    cases h
    exact ⟨taken.1, rfl⟩

/-- **A string ends where the script language reads its end.** -/
theorem outsideStrings_of_takeQuoted {s : List Char} : ∀ {text rest : List Char},
    takeQuoted s = .ok (text, rest) → outsideStrings true s = outsideStrings false rest := by
  induction s using takeQuoted.induct with
  | case1 => exact fun h => nomatch h
  | case2 rest =>
    rintro _ _ ⟨⟩
    rfl
  | case3 c rest d hescape ih =>
    intro text after h
    rw [takeQuoted, hescape] at h
    obtain ⟨text, htaken⟩ := exists_takeQuoted_of_map h
    exact ih htaken
  | case4 c rest hescape =>
    intro text after h
    rw [takeQuoted, hescape] at h
    exact nomatch h
  | case5 rest => exact fun h => nomatch h
  | case6 c rest hquote hescape hline ih =>
    intro text after h
    rw [takeQuoted.eq_4 _ _ hquote hescape, if_neg hline] at h
    obtain ⟨text, htaken⟩ := exists_takeQuoted_of_map h
    rw [outsideStrings.eq_4 _ _ hescape, if_neg hquote]
    exact ih htaken

/-- **If no string escapes a quote, every quote opens or closes a string.** -/
theorem outsideStrings_eq_outsideQuotes {quoted : Bool} {s : List Char}
    (h : '"' ∉ escapedChars quoted s) : outsideStrings quoted s = outsideQuotes quoted s := by
  induction quoted, s using outsideStrings.induct with
  | case1 quoted =>
    cases quoted <;> rfl
  | case2 rest ih => exact ih h
  | case3 c rest hquote ih =>
    rw [escapedChars, if_neg hquote] at h
    rw [outsideStrings, outsideQuotes, if_neg hquote, if_neg hquote, ih h,
      if_neg Bool.false_ne_true]
  | case4 c rest ih =>
    obtain ⟨hquote, hrest⟩ := not_or.mp (List.mem_cons.not.mp h)
    rw [outsideStrings, ih hrest, outsideQuotes, if_neg (by decide), if_pos rfl, outsideQuotes,
      if_neg (Ne.symm hquote), if_pos rfl]
  | case5 rest _ ih => exact ih h
  | case6 c rest hescape hquote ih =>
    rw [escapedChars.eq_4 _ _ hescape, if_neg hquote] at h
    rw [outsideStrings.eq_4 _ _ hescape, if_neg hquote, ih h, outsideQuotes, if_neg hquote,
      if_pos rfl]

/-! ## The parentheses of a call -/

/-- **The parentheses of a call are told from those of the code** if, with every
quote opening or closing, no parenthesis is closed before it is opened. -/
theorem scriptCode_eq_trim_iff {c : List Char} :
    scriptCode ('(' :: (c ++ [')'])) = trim c
      ↔ ∀ p, p <+: outsideQuotes false c → 0 ≤ openings p := by
  rw [← closesWithin_zero_iff]
  refine ⟨fun h => ?_, scriptCode_parenthesized⟩
  by_contra hcloses
  have hlast : (c ++ [')']).getLast? = some ')' := List.getLast?_concat
  rw [scriptCode, hlast, List.dropLast_concat, if_neg fun h => hcloses h.2] at h
  -- the text with the parentheses is longer than the code, and trimming makes nothing longer
  obtain ⟨before, after, htrim, -, -⟩ := exists_trim c
  have hsource := congrArg List.length h
  have hcode := congrArg List.length htrim
  simp only [List.length_cons, List.length_append, List.length_nil] at hsource hcode
  omega

/-- Whether a parenthesis is closed before it is opened can be decided. -/
instance (s : List Char) : Decidable (∀ p, p <+: s → 0 ≤ openings p) :=
  decidable_of_iff (∀ p ∈ s.inits, 0 ≤ openings p) (by simp only [List.mem_inits])

/-- **Code runs as it is written, whatever stands in its strings**, if no string
escapes a quote and, outside of strings, no parenthesis is closed before it is
opened. In general the parentheses of the call are taken off exactly if none of
the code is closed before it is opened when every quote is read as opening or
closing, and what is left of the text is what runs. -/
theorem runRaw_scriptCall {c text : List Char} (htext : IsScriptCall c text)
    (hopened : ∀ p, p <+: outsideStrings false c → 0 ≤ openings p) (setting : Setting)
    (caller : Address) :
    ('"' ∉ escapedChars false c →
        scriptCode ('(' :: (c ++ [')'])) = trim c
          ∧ runRaw setting caller (String.ofList ('=' :: text)) = askHost setting caller (trim c))
      ∧ (scriptCode ('(' :: (c ++ [')'])) = trim c
          ↔ ∀ p, p <+: outsideQuotes false c → 0 ≤ openings p)
      ∧ runRaw setting caller (String.ofList ('=' :: text))
          = askHost setting caller (scriptCode ('(' :: (c ++ [')']))) := by
  have hrun : runRaw setting caller (String.ofList ('=' :: text))
      = askHost setting caller (scriptCode ('(' :: (c ++ [')']))) := by
    rw [runRaw_of_body? setting caller (body?_ofList text)]
    exact runWithin_script setting caller 9 htext
  refine ⟨fun hescaped => ?_, scriptCode_eq_trim_iff, hrun⟩
  rw [outsideStrings_eq_outsideQuotes hescaped] at hopened
  have hcode := scriptCode_eq_trim_iff.mpr hopened
  exact ⟨hcode, hcode ▸ hrun⟩

/-- Two strings: one is a backslash, and the other one closes a parenthesis. -/
def escapesBackslash : List Char :=
  "[\"\\\\\", \")\"]".toList

/-- They run as they are written. -/
theorem runRaw_escapesBackslash :
    (∀ p, p <+: outsideStrings false escapesBackslash → 0 ≤ openings p)
      ∧ '"' ∉ escapedChars false escapesBackslash
      ∧ scriptCode ('(' :: (escapesBackslash ++ [')'])) = escapesBackslash
      ∧ runRaw (besideText "").setting ⟨0, 0⟩ "=JS([\"\\\\\", \")\"])"
        = askHost (besideText "").setting ⟨0, 0⟩ escapesBackslash := by
  have hopened : ∀ p, p <+: outsideStrings false escapesBackslash → 0 ≤ openings p := by
    decide +kernel
  have hescaped : '"' ∉ escapedChars false escapesBackslash := by decide
  have htrim : trim escapesBackslash = escapesBackslash := by decide
  have htext : IsScriptCall escapesBackslash "JS([\"\\\\\", \")\"])".toList :=
    ⟨"JS".toList, by decide, isCallOf_compact _ _⟩
  obtain ⟨hcode, hrun⟩ :=
    (runRaw_scriptCall htext hopened (besideText "").setting ⟨0, 0⟩).1 hescaped
  rw [htrim] at hcode hrun
  exact ⟨hopened, hescaped, hcode, hrun⟩

/-- A string with an escaped quote and a parenthesis behind it. -/
def escapesQuote : List Char :=
  "let s = \"\\\")\"; s".toList

/-- No parenthesis is outside of the string, but it is taken for one that closes
the call. So what the host is given, and answers with, is the code in
parentheses. -/
theorem evaluateCell_escapesQuote :
    (∀ p, p <+: outsideStrings false escapesQuote → 0 ≤ openings p)
      ∧ IsScriptCall escapesQuote "JS(let s = \"\\\")\"; s)".toList
      ∧ scriptCode ('(' :: (escapesQuote ++ [')'])) ≠ trim escapesQuote
      ∧ ((besideText "=JS(let s = \"\\\")\"; s)").evaluateCell ⟨0, 0⟩).1
        = .ok (.text "(let s = \"\\\")\"; s)") := by
  refine ⟨by decide +kernel, ⟨"JS".toList, by decide, isCallOf_compact _ _⟩, by decide +kernel,
    by decide +kernel⟩

end SoundSheet.Formula
