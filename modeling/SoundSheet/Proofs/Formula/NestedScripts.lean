import SoundSheet.Proofs.Sheet.Scripts

/-!
# Scripts in arguments

An argument is handed on as its tokens with a space between any two, and so is a
script that stands in one. What the host is given then is not the code but its
tokens, joined by spaces (`argumentValue_script`): other white space outside
quotes is gone, and every punctuation character stands apart.

It is the same code only if it is written like that from the start. In
particular no `getValue` is followed by its parenthesis any more, unless both
are in quotes (`Separable.quotedAfter_of_isLookup`). So cells that are named as
they would be in a script that is the whole formula are not looked up.
-/

namespace SoundSheet.Formula

open SoundSheet.Text SoundSheet.Script SoundSheet.Sheet

/-! ## Arguments that are kept -/

/-- A run that is not empty is kept, and so are those in front of it. -/
theorem exists_dropEmptyLast_append {run : List Token} (hne : run ≠ [])
    (before after : List (List Token)) :
    ∃ kept, dropEmptyLast (before ++ run :: after) = before ++ run :: kept := by
  induction before with
  | nil =>
    cases after with
    | nil => exact ⟨[], if_neg hne⟩
    | cons next after => exact ⟨_, rfl⟩
  | cons first before ih =>
    obtain ⟨kept, hkept⟩ := ih
    refine ⟨kept, ?_⟩
    obtain ⟨next, rest, hrest⟩ :
        ∃ next rest, before ++ run :: after = next :: rest :=
      List.exists_cons_of_ne_nil (by simp)
    rw [List.cons_append, hrest, dropEmptyLast, ← hrest, hkept]
    · rfl
    · exact List.cons_ne_nil _ _

/-- **The argument in the place of a run** between the parentheses of a call. -/
theorem getElem?_argumentTexts {before after : List (List Token)} {run : List Token}
    (hwhole : ∀ r ∈ before ++ run :: after, WholeFrom 0 r) (hne : run ≠ []) :
    (argumentTexts (['('] :: (List.intercalate [[',']] (before ++ run :: after)
        ++ [[')']])))[before.length]? = some (trim (joinTokens run)) := by
  obtain ⟨first, rest, hruns⟩ : ∃ first rest, before ++ run :: after = first :: rest :=
    List.exists_cons_of_ne_nil (by simp)
  obtain ⟨kept, hkept⟩ := exists_dropEmptyLast_append hne before after
  rw [hruns] at hwhole hkept
  obtain ⟨hfirst, hrest⟩ := List.forall_mem_cons.mp hwhole
  rw [argumentTexts, inner_parenthesized, hruns, splitRuns_intercalate hfirst hrest]
  dsimp only
  rw [hkept, List.getElem?_map, List.getElem?_append_right (Nat.le_refl _), Nat.sub_self]
  rfl

/-- **The argument of a call that is written out**, in the place of a text that
has tokens: it is these tokens, joined. -/
theorem exists_argument_of_call (setting : Setting) (caller : Address) (room : Nat) {b : Builtin}
    {name : List Char} (hname : Builtin.find? name = some b) {before after : List (List Char)}
    {argument text : List Char}
    (harguments : ∀ t ∈ before ++ argument :: after,
      quotedAfter false t = false ∧ WholeFrom 0 (tokenize t))
    (hne : tokenize argument ≠ [])
    (htext : IsCallOf name (List.intercalate [','] (before ++ argument :: after)) text) :
    ∃ call : Invocation,
      runWithin setting caller (room + 1) text
          = call.run setting (runWithin setting caller room) b
        ∧ tokenize text = name :: call.tokens ∧ call.caller = caller
        ∧ (argumentTexts call.tokens)[before.length]? = some (joinTokens (tokenize argument)) := by
  obtain ⟨call, hrun, hcall, -, hcaller⟩ := exists_runWithin_call setting caller room hname htext
  obtain ⟨hinside, hquoted⟩ := tokenize_intercalate fun t ht => (harguments t ht).1
  have hall := tokenize_call hname htext hquoted
  rw [hinside, List.map_append, List.map_cons] at hall
  have htokens := (List.cons.inj (hcall.symm.trans hall)).2
  have hwhole : ∀ run ∈ before.map tokenize ++ tokenize argument :: after.map tokenize,
      WholeFrom 0 run := by
    rw [← List.map_cons, ← List.map_append]
    exact List.forall_mem_map.mpr fun t ht => (harguments t ht).2
  have hlength : before.length = (before.map tokenize).length := (List.length_map _).symm
  refine ⟨call, hrun, hcall, hcaller, ?_⟩
  rw [htokens, hlength, getElem?_argumentTexts hwhole hne,
    (separable_tokenize argument).trim_joinTokens]

/-! ## Parentheses stand apart -/

/-- A parenthesis outside of quotes is a token by itself. -/
theorem IsToken.eq_nil_of_append {t p q : List Char} (h : IsToken t) (hsplit : t = p ++ '(' :: q)
    (hquotes : quotedAfter false p = false) : p = [] := by
  cases h with
  | punctuation _ =>
    cases p with
    | nil => rfl
    | cons c p => exact absurd (congrArg List.length hsplit) (by simp)
  | word hword _ _ =>
    rw [hsplit, isWord_append, hquotes] at hword
    rcases hword.2.1 with hquote | hquoted | ⟨hpunctuation, -⟩
    · exact absurd hquote (by decide)
    · exact nomatch hquoted
    · exact absurd hpunctuation (by decide)

/-- **In joined tokens a space stands in front of every parenthesis** outside of
quotes, unless it is the first character. -/
theorem Separable.getLast?_of_joinTokens {tokens : List Token} (h : Separable tokens) :
    ∀ {p q : List Char}, joinTokens tokens = p ++ '(' :: q → quotedAfter false p = false →
      p = [] ∨ p.getLast? = some ' ' := by
  induction tokens with
  | nil => exact fun hsplit _ => absurd hsplit.symm (by simp [joinTokens])
  | cons t tokens ih =>
    intro p q hsplit hquotes
    have ht := h.isToken t List.mem_cons_self
    cases tokens with
    | nil =>
      rw [joinTokens, List.intercalate_singleton] at hsplit
      exact .inl (ht.eq_nil_of_append hsplit hquotes)
    | cons u tokens =>
      have hrest : Separable (u :: tokens) := h.of_run (List.suffix_cons t _).isInfix
      rw [joinTokens_cons t (List.cons_ne_nil _ _)] at hsplit
      rcases List.append_eq_append_iff.mp hsplit with ⟨gap, hp, hgap⟩ | ⟨gap, hp, hgap⟩
      · -- the parenthesis is behind the first token and the space
        cases gap with
        | nil => exact absurd (List.cons.inj hgap).1 (by decide)
        | cons c gap =>
          obtain ⟨rfl, hbehind⟩ := List.cons.inj hgap
          have hclosed := (List.isChain_cons_cons.mp h.closed).1
          have hquotes' : quotedAfter false gap = false := by
            rw [hp, quotedAfter_append, hclosed] at hquotes
            exact hquotes
          right
          rw [hp, List.getLast?_append_of_ne_nil _ (List.cons_ne_nil _ _)]
          rcases ih hrest hbehind hquotes' with rfl | hlast
          · rfl
          · rw [List.getLast?_cons, hlast]
            rfl
      · -- it is in the first token
        cases gap with
        | nil => exact absurd (List.cons.inj hgap).1 (by decide)
        | cons c gap =>
          obtain ⟨rfl, -⟩ := List.cons.inj hgap
          exact .inl (ht.eq_nil_of_append hp hquotes)

/-- **Lookups in joined tokens are in quotes.** -/
theorem Separable.quotedAfter_of_isLookup {tokens : List Token} (h : Separable tokens)
    {before lookup after name : List Char}
    (hsplit : joinTokens tokens = before ++ (lookup ++ after)) (hlookup : IsLookup name lookup) :
    quotedAfter false before = true := by
  obtain @⟨z, z', -, -⟩ := hlookup
  by_contra hopen
  have hquotes : quotedAfter false before = false := eq_false_of_ne_true hopen
  -- the parenthesis would stand right behind the name, and outside of quotes
  have hname : quotedAfter false (before ++ "getValue".toList) = false := by
    rw [quotedAfter_append, hquotes]
    rfl
  have hparen : joinTokens tokens = (before ++ "getValue".toList)
      ++ '(' :: (z ++ '"' :: (name ++ '"' :: (z' ++ [')'])) ++ after) := by
    rw [hsplit, show "getValue(".toList = "getValue".toList ++ ['('] from rfl]
    simp only [List.append_assoc, List.cons_append, List.nil_append]
  rcases h.getLast?_of_joinTokens hparen hname with hnil | hlast
  · exact absurd (List.append_eq_nil_iff.mp hnil).2 (by decide)
  · rw [List.getLast?_append_of_ne_nil _ (by decide)] at hlast
    exact absurd hlast (by decide)

/-! ## Arguments of WAVEFORM -/

/-- A token by itself is no call. -/
theorem IsToken.isCall_eq_false {t : Token} (h : IsToken t) : isCall t = false := by
  rw [Bool.eq_false_iff]
  intro hcall
  rw [isCall] at hcall
  split at hcall
  · next rest hopen =>
    have hfind := (Bool.and_eq_true_iff.mp hcall).2
    obtain ⟨b, hb⟩ := Option.isSome_iff_exists.mp hfind
    have hne := (Builtin.isAlpha_of_find? hb).1
    obtain ⟨z, hz, hsplit⟩ := exists_trimStart (t.dropWhile Char.isAlpha)
    have hquotes : quotedAfter false (t.takeWhile Char.isAlpha ++ z) = false := by
      rw [quotedAfter_append, (isWord_of_isPlain (isPlain_of_find? hb)).2, quotedAfter_of_blank hz]
    have hparen : t = (t.takeWhile Char.isAlpha ++ z) ++ '(' :: rest := by
      conv_lhs => rw [← List.takeWhile_append_dropWhile (p := Char.isAlpha) (l := t), hsplit, hopen]
      rw [List.append_assoc]
    exact hne (List.append_eq_nil_iff.mp (h.eq_nil_of_append hparen hquotes)).1
  · exact Bool.false_ne_true hcall

/-- So its value has nothing to do with calls. -/
theorem IsToken.argumentValue_congr {t : Token} (h : IsToken t)
    (nested nested' : List Char → Plan CellValue) :
    argumentValue nested t = argumentValue nested' t := by
  have hcall : ∀ source, Argument.ofText t ≠ .call source := by
    intro source
    unfold Argument.ofText
    rw [h.isCall_eq_false]
    split
    · exact nofun
    · split
      · exact nofun
      · split <;> exact nofun
  unfold argumentValue
  split
  · rfl
  · rfl
  · next source heq => exact absurd heq (hcall source)
  · rfl

/-- **No call is made in the arguments of WAVEFORM**: it reads single tokens. -/
theorem waveform_congr {call : Invocation} (h : ∀ t ∈ call.tokens, IsToken t)
    (nested nested' : List Char → Plan CellValue) :
    waveform nested call = waveform nested' call := by
  have hplain : ∀ t ∈ plainTokens call.tokens, argumentValue nested t = argumentValue nested' t :=
    fun t ht => (h t (List.mem_filter.mp ht).1).argumentValue_congr nested nested'
  unfold waveform
  split
  · next source heq =>
    rw [heq, List.forall_mem_singleton] at hplain
    rw [hplain]
  · next frequency amplitude heq =>
    rw [heq] at hplain
    simp only [List.forall_mem_cons] at hplain
    rw [parameters, parameters, nonzeroArgument, nonzeroArgument, nonzeroArgument, nonzeroArgument,
      hplain.1, hplain.2.1]
  · next frequency amplitude phase heq =>
    rw [heq] at hplain
    simp only [List.forall_mem_cons] at hplain
    simp only [parameters, nonzeroArgument, hplain.1, hplain.2.1, hplain.2.2.1]
  · rfl

/-! ## The code that the host is given -/

/-- **A script in an argument** has the code in tokens. -/
theorem argumentValue_script (setting : Setting) (caller : Address) (room : Nat)
    {c script : List Char} (hcode : IsCode c) (hscript : IsScriptCall c script) :
    argumentValue (runWithin setting caller (room + 1)) (joinTokens (tokenize script))
      = askHost setting caller (joinTokens (tokenize c)) := by
  obtain ⟨name, hname, hscript⟩ := hscript
  have hfind := Builtin.find?_script hname
  have htokens := tokenize_call hfind hscript hcode.closed
  rw [htokens, argumentValue_joinTokens_call hfind (htokens ▸ separable_tokenize script)]
  obtain ⟨z, z', hz, hz', htext⟩ := exists_joinTokens_call name (tokenize c)
  have hcall : IsScriptCall (z ++ joinTokens (tokenize c) ++ z')
      (joinTokens (name :: ['('] :: (tokenize c ++ [[')']]))) := by
    refine ⟨name, hname, ?_⟩
    rw [htext]
    exact @IsCallOf.intro name _ [] [' '] [] nofun isBlank_of_mem_space nofun
  have htrim : trim (z ++ joinTokens (tokenize c) ++ z') = joinTokens (tokenize c) := by
    rw [trim_append_blank hz', trim_blank_append hz, (separable_tokenize c).trim_joinTokens]
  have hsame : tokenize (z ++ joinTokens (tokenize c) ++ z') = tokenize c := by
    rw [← tokenize_trim, htrim, (separable_tokenize c).tokenize_joinTokens]
  have hclose : closesWithin false 0 (z ++ joinTokens (tokenize c) ++ z') = true :=
    (closesWithin_congr hsame 0).trans (isCode_iff.mp hcode).2.1
  rw [runWithin_scriptCall setting caller room hclose hcall, htrim]

/-- **What the host is given of a script in an argument.** Take a call of any
builtin in which one argument is a script with a code. The argument in this
place is one whose value, to whatever use the builtin puts it, is that of the
tokens of the code, joined by spaces; only WAVEFORM never asks for it. The
script by itself has the value of the code as it is written, so it is the same
only if the code is its tokens, joined by spaces. Otherwise the two have the
same tokens, but in the joined ones every lookup of a cell that the code names
is in quotes. -/
theorem argumentValue_nestedScript (setting : Setting) (caller : Address) (room : Nat)
    {b : Builtin} {name : List Char} (hname : Builtin.find? name = some b)
    {before after : List (List Char)} (hbefore : ∀ t ∈ before, IsArgument t)
    (hafter : ∀ t ∈ after, IsArgument t) {c script text : List Char} (hcode : IsCode c)
    (hscript : IsScriptCall c script)
    (htext : IsCallOf name (List.intercalate [','] (before ++ script :: after)) text) :
    (∃ call argument,
      runWithin setting caller (room + 2) text
          = Invocation.run setting (runWithin setting caller (room + 1)) call b
        ∧ tokenize text = name :: call.tokens ∧ call.caller = caller
        ∧ (argumentTexts call.tokens)[before.length]? = some argument
        ∧ argumentValue (runWithin setting caller (room + 1)) argument
          = askHost setting caller (joinTokens (tokenize c))
        ∧ (joinTokens (tokenize c) = trim c →
          argumentValue (runWithin setting caller (room + 1)) argument
            = runWithin setting caller (room + 2) script)
        ∧ ∀ nested nested', waveform nested call = waveform nested' call)
      ∧ runWithin setting caller (room + 2) script = askHost setting caller (trim c)
      ∧ tokenize (joinTokens (tokenize c)) = tokenize (trim c)
      ∧ ∀ front lookup rest cell, joinTokens (tokenize c) = front ++ (lookup ++ rest) →
        IsLookup cell lookup → quotedAfter false front = true := by
  have halone : runWithin setting caller (room + 2) script = askHost setting caller (trim c) :=
    runWithin_scriptCall setting caller (room + 1) (isCode_iff.mp hcode).2.1 hscript
  have hvalue := argumentValue_script setting caller room hcode hscript
  obtain ⟨hclosed, hwhole, hne⟩ := hscript.inOnePiece hcode
  have harguments : ∀ t ∈ before ++ script :: after,
      quotedAfter false t = false ∧ WholeFrom 0 (tokenize t) :=
    List.forall_mem_append.mpr
      ⟨fun t ht => ⟨(hbefore t ht).closed, (hbefore t ht).wholeFrom_tokenize⟩,
        List.forall_mem_cons.mpr ⟨⟨hclosed, hwhole⟩,
          fun t ht => ⟨(hafter t ht).closed, (hafter t ht).wholeFrom_tokenize⟩⟩⟩
  obtain ⟨call, hrun, hcall, hcaller, hargument⟩ :=
    exists_argument_of_call setting caller (room + 1) hname harguments hne htext
  refine ⟨⟨call, _, hrun, hcall, hcaller, hargument, hvalue, fun hsame => ?_,
    fun nested nested' => waveform_congr (fun t ht => ?_) nested nested'⟩, halone, ?_,
    fun front lookup rest cell => (separable_tokenize c).quotedAfter_of_isLookup⟩
  · rw [hvalue, halone, hsame]
  · exact (separable_tokenize text).isToken t (hcall ▸ List.mem_cons_of_mem _ ht)
  · rw [(separable_tokenize c).tokenize_joinTokens, tokenize_trim]

/-- A script that reads a cell and adds to it. -/
def readsAndAdds : List Char :=
  "getValue(\"B1\")+1".toList

/-- A sheet with one formula, next to a cell with a text. -/
def besideText (formula : String) : Sheet :=
  (Sheet.new 0 0 echoHost).setRows [[formula, "x"]]

/-- As an argument of CONCAT it is run with spaces, which leave no cell to look
up. -/
theorem argumentValue_nestedScript_readsAndAdds :
    IsCode readsAndAdds
      ∧ (∃ (call : Invocation) (argument : List Char),
        runWithin (besideText "").setting ⟨0, 0⟩ 10 "CONCAT(\"\",JS(getValue(\"B1\")+1))".toList
            = call.run (besideText "").setting (runWithin (besideText "").setting ⟨0, 0⟩ 9) .concat
          ∧ (argumentTexts call.tokens)[1]? = some argument
          ∧ argumentValue (runWithin (besideText "").setting ⟨0, 0⟩ 9) argument
            = askHost (besideText "").setting ⟨0, 0⟩ "getValue ( \"B1\" ) + 1".toList)
      ∧ mentions "getValue ( \"B1\" ) + 1".toList = [] := by
  have hcode : IsCode readsAndAdds := by decide
  have hempty : ∀ t ∈ ["\"\"".toList], IsArgument t := by
    rw [List.forall_mem_singleton]
    exact ⟨rfl, rfl, fun before after h => absurd h (by simp [outsideQuotes])⟩
  obtain ⟨⟨call, argument, hrun, -, -, hargument, hvalue, -⟩, -⟩ :=
    argumentValue_nestedScript (besideText "").setting ⟨0, 0⟩ 8
      (show Builtin.find? "CONCAT".toList = some .concat from rfl) hempty
      (fun _ h => absurd h List.not_mem_nil) hcode
      ⟨"JS".toList, by decide, isCallOf_compact _ _⟩
      (isCallOf_compact _ _)
  refine ⟨hcode, ⟨call, argument, hrun, hargument, hvalue.trans (congrArg _ ?_)⟩, by decide +kernel⟩
  decide

/-- **A script in an argument is another script**: the host is given another
code, and no value. -/
theorem evaluateCell_readsAndAdds :
    IsCode readsAndAdds
      ∧ IsScriptCall readsAndAdds "JS(getValue(\"B1\")+1)".toList
      ∧ ((besideText "=JS(getValue(\"B1\")+1)").evaluateCell ⟨0, 0⟩).1
        = .ok (.text "getValue(\"B1\")+1*")
      ∧ ((besideText "=CONCAT(\"\",JS(getValue(\"B1\")+1))").evaluateCell ⟨0, 0⟩).1
        = .ok (.text "getValue ( \"B1\" ) + 1") := by
  refine ⟨by decide, ⟨"JS".toList, by decide, isCallOf_compact _ _⟩,
    by decide +kernel, by decide +kernel⟩

end SoundSheet.Formula
