import SoundSheet.Proofs.Sheet.Scripts

/-!
# Quoted texts

A text between quotes gets through to the value of a formula as it is. It is one
token, whatever it holds besides quotes (`tight_quoted`), and as an argument it
stands for itself: with a quote in front it is no name of a cell, no number and
no call, however much it looks like one inside (`argumentValue_quoted`). So
`CONCAT` joins quoted texts as they are written (`runWithin_joinCall`).

Such a formula asks for nothing, so its value is the same on every sheet. A cell
whose raw text has a plan like that never holds another value
(`Runs.slot?_of_done`), and after a pass it holds this one.
-/

namespace SoundSheet

open SoundSheet.Text SoundSheet.Decimal SoundSheet.Formula

namespace Formula

/-! ## Quoted arguments -/

/-- A text between quotes. -/
def quoted (s : List Char) : List Char :=
  ['"'] ++ s ++ ['"']

/-- No number begins with a quote. -/
theorem scan_quote {digit : Char → Bool} (h : digit '"' = false) (s : List Char) :
    Numeral.scan digit ('"' :: s) = none := by
  simp [Numeral.scan, takeSign, takeMantissa, takeDigits, h]

/-- **A quoted text stands for itself** as an argument. -/
theorem argumentValue_quoted {s : List Char} (h : '"' ∉ s) (nested : List Char → Plan CellValue) :
    argumentValue nested (quoted s) = .done (.text (String.ofList s)) := by
  have hshape : Address.hasShape (quoted s) = false := rfl
  have hcall : isCall (quoted s) = false := rfl
  have hdecimal : decimal? (quoted s) = none := by
    have hparse : parse? (quoted s) = none := by
      show parse? ('"' :: (s ++ ['"'])) = none
      rw [parse?, scan_quote (by decide)]
      rfl
    have htrim : trim (quoted s) = quoted s :=
      ((tight_quoted h).isToken _ List.mem_cons_self).trim_eq
    rw [decimal?, htrim, hparse]
    split <;> rfl
  have hwhole : whole? (quoted s) = none := by
    show whole? ('"' :: (s ++ ['"'])) = none
    rw [whole?, parsePrefix?, trimStart_cons_of_not_blank _ (by decide), scan_quote (by decide)]
  have hunquote : unquote (quoted s) = s := by
    have hself : s.filter (· ≠ '"') = s :=
      List.filter_eq_self.mpr fun c hc => decide_eq_true fun heq => h (heq ▸ hc)
    rw [unquote, quoted, List.filter_append, List.filter_append, hself]
    exact List.append_nil s
  rw [argumentValue, Argument.ofText, hshape, hdecimal, hwhole, hcall, hunquote]
  rfl

/-- It is a text argument. -/
theorem textArgument_quoted {s : List Char} (h : '"' ∉ s) (nested : List Char → Plan CellValue) :
    textArgument nested (quoted s) = .done (String.ofList s) := by
  rw [textArgument, argumentValue_quoted h]
  rfl

/-- So are quoted texts one after the other. -/
theorem each_textArgument_quoted {texts : List (List Char)} (h : ∀ t ∈ texts, '"' ∉ t)
    (nested : List Char → Plan CellValue) :
    Plan.each (textArgument nested) (texts.map quoted) = .done (texts.map String.ofList) := by
  induction texts with
  | nil => rfl
  | cons t texts ih =>
    obtain ⟨ht, htexts⟩ := List.forall_mem_cons.mp h
    rw [List.map_cons, Plan.each, textArgument_quoted ht, ih htexts]
    rfl

/-! ## Joining -/

/-- **The formula that joins texts**: a call of `CONCAT` with a separator and
the texts, all of them between quotes. -/
def joinCall (separator : List Char) (texts : List (List Char)) : List Char :=
  "CONCAT(".toList
    ++ (List.intercalate ", ".toList ((separator :: texts).map quoted) ++ ")".toList)

/-- A space behind each comma belongs to the text that follows. -/
theorem intercalate_comma_space (t : List Char) (texts : List (List Char)) :
    List.intercalate ", ".toList (t :: texts)
      = List.intercalate [','] (t :: texts.map (' ' :: ·)) := by
  induction texts generalizing t with
  | nil => rw [List.map_nil, List.intercalate_singleton, List.intercalate_singleton]
  | cons u texts ih =>
    have hspace : List.intercalate [','] ((' ' :: u) :: texts.map (' ' :: ·))
        = ' ' :: List.intercalate [','] (u :: texts.map (' ' :: ·)) := by
      cases texts with
      | nil => rw [List.map_nil, List.intercalate_singleton, List.intercalate_singleton]
      | cons v texts =>
        rw [List.map_cons, List.intercalate_cons_cons, List.intercalate_cons_cons]
        rfl
    rw [List.intercalate_cons_cons, ih, List.map_cons, List.intercalate_cons_cons, hspace]
    simp

/-- So texts with commas and spaces between them have their tokens, with commas
between them. -/
theorem tokenize_intercalate_space {texts : List (List Char)}
    (h : ∀ t ∈ texts, quotedAfter false t = false) :
    tokenize (List.intercalate ", ".toList texts) = List.intercalate [[',']] (texts.map tokenize)
      ∧ quotedAfter false (List.intercalate ", ".toList texts) = false := by
  cases texts with
  | nil => exact ⟨rfl, rfl⟩
  | cons t texts =>
    obtain ⟨ht, htexts⟩ := List.forall_mem_cons.mp h
    have hspaced : ∀ u ∈ t :: texts.map (' ' :: ·), quotedAfter false u = false :=
      List.forall_mem_cons.mpr ⟨ht, List.forall_mem_map.mpr htexts⟩
    obtain ⟨htokens, hquotes⟩ := tokenize_intercalate hspaced
    rw [intercalate_comma_space, htokens, List.map_cons, List.map_map, List.map_cons]
    exact ⟨rfl, hquotes⟩

section Join

variable {separator : List Char} {texts : List (List Char)}

/-- **Its arguments are the quoted texts.** -/
theorem exists_argumentTexts_joinCall (setting : Setting) (caller : Address) (room : Nat)
    (h : ∀ t ∈ separator :: texts, '"' ∉ t) :
    ∃ call : Invocation, runWithin setting caller (room + 1) (joinCall separator texts)
        = call.run setting (runWithin setting caller room) .concat
      ∧ argumentTexts call.tokens = (separator :: texts).map quoted := by
  have hname : Builtin.find? "CONCAT".toList = some .concat := by decide
  have htight : ∀ t ∈ (separator :: texts).map quoted, Tight [t] :=
    List.forall_mem_map.mpr fun t ht => tight_quoted (h t ht)
  obtain ⟨htokens, hquotes⟩ := tokenize_intercalate_space fun t ht =>
    (htight t ht).closed t List.mem_cons_self
  have hcall := isCallOf_compact "CONCAT".toList
    (List.intercalate ", ".toList ((separator :: texts).map quoted))
  obtain ⟨call, hrun, hcut, -, -⟩ := exists_runWithin_call setting caller room hname hcall
  refine ⟨call, hrun, ?_⟩
  -- each quoted text is a run of one token
  have hruns : ((separator :: texts).map quoted).map tokenize
      = ((separator :: texts).map quoted).map ([·]) :=
    List.map_congr_left fun t ht => ((htight t ht).isToken t List.mem_cons_self).tokenize_eq
  rw [tokenize_call hname hcall hquotes, htokens, hruns] at hcut
  have hmark : ∀ t ∈ (separator :: texts).map quoted, ¬IsMark t := by
    refine List.forall_mem_map.mpr fun t _ => ?_
    rintro ⟨c, hc, -⟩
    have := congrArg List.length hc
    simp [quoted] at this
  rw [← (List.cons.inj hcut).2, argumentTexts_call (List.forall_mem_map.mpr htight)
    (List.forall_mem_map.mpr fun t ht => .singleton (hmark t ht))
    (List.forall_mem_map.mpr fun t _ => List.cons_ne_nil t []), List.map_map]
  refine (List.map_congr_left fun t _ => ?_).trans (List.map_id _)
  show joinTokens [t] = t
  rw [joinTokens, List.intercalate_singleton]

/-- The texts, joined with the separator. -/
def joined (separator : List Char) (texts : List (List Char)) : CellValue :=
  .text (String.ofList (List.intercalate separator texts))

/-- **Quoted texts are joined as they are written**, in whatever call the
formula stands. -/
theorem runWithin_joinCall (setting : Setting) (caller : Address) (room : Nat)
    (h : ∀ t ∈ separator :: texts, '"' ∉ t) (hne : texts ≠ []) :
    runWithin setting caller (room + 1) (joinCall separator texts)
      = .done (joined separator texts) := by
  obtain ⟨call, hrun, harguments⟩ := exists_argumentTexts_joinCall setting caller room h
  obtain ⟨t, texts, rfl⟩ := List.exists_cons_of_ne_nil hne
  obtain ⟨hseparator, htexts⟩ := List.forall_mem_cons.mp h
  have hjoined : String.intercalate (String.ofList separator) ((t :: texts).map String.ofList)
      = String.ofList (List.intercalate separator (t :: texts)) := by
    rw [← String.toList_inj, String.toList_intercalate, String.toList_ofList, String.toList_ofList,
      List.map_map]
    congr 1
    exact (List.map_congr_left fun u _ => String.toList_ofList).trans (List.map_id _)
  rw [hrun, Invocation.run, concat, harguments]
  show ((textArgument _ (quoted separator)).bind fun separator =>
    (Plan.each (textArgument _) ((t :: texts).map quoted)).bind fun parts =>
      .done (String.intercalate separator parts)).bind _ = _
  rw [textArgument_quoted hseparator, each_textArgument_quoted htexts, joined, ← hjoined]
  rfl

end Join

end Formula

/-! ## Cells that ask for nothing -/

section Done

variable {a : Address} {raw : String} {v : CellValue}

/-- **A cell whose plan is done never holds another value.** -/
theorem Runs.slot?_of_done {α : Type} {p : Plan α} {s t : Sheet} {r : Except FormulaError α}
    (h : Runs p s r t) (hraw : s.raw? a = some raw) (hdone : runRaw s.setting a raw = .done v)
    (hvalue : ∀ w, s.slot? a = some (.evaluated w) → w = v) :
    ∀ w, t.slot? a = some (.evaluated w) → w = v := by
  induction h with
  | done _ _ => exact hvalue
  | fail _ _ => exact hvalue
  | outside _ _ ih => exact ih hraw hdone hvalue
  | marked _ _ ih => exact ih hraw hdone hvalue
  | known _ _ ih => exact ih hraw hdone hvalue
  | openBus _ ih => exact ih hraw hdone hvalue
  | emit _ ih => exact ih hraw hdone hvalue
  | @fresh _ cell _ s s₁ _ _ raw' _ hcell hraw' hformula _ ihformula ihnext =>
    have hfills := hformula.fills
    have hraw₁ : s₁.raw? a = some raw := by rw [hfills.raw, Sheet.raw?_setSlot, hraw]
    have hsetting : s₁.setting = s.setting := hfills.setting
    refine ihnext (by rw [Sheet.raw?_setSlot, hraw₁]) (hsetting ▸ hdone) fun w hw => ?_
    rcases Sheet.slot?_evaluated_of_store hw with ⟨rfl, rfl⟩ | ⟨hne, hw⟩
    · -- the cell itself has been run, and its plan was done at once
      obtain rfl : raw = raw' := Option.some.inj (hraw.symm.trans hraw')
      rw [hdone] at hformula
      cases hformula
      rfl
    · refine ihformula (by rw [Sheet.raw?_setSlot, hraw]) hdone (fun w hw => ?_) w hw
      rw [Sheet.slot?_setSlot_of_ne _ hne] at hw
      exact hvalue w hw

namespace Sheet

variable {s : Sheet}

/-- **After a pass it holds this value.** -/
theorem value?_pass_of_done (hraw : s.raw? a = some raw)
    (hdone : runRaw s.setting a raw = .done v) : s.pass.value? a = some v := by
  obtain ⟨w, hw⟩ := hasValue_pass (s := s) (a := a) (by rw [hraw]; rfl)
  have hraw' : s.forgetValues.raw? a = some raw := by rw [raw?_forgetValues, hraw]
  have hvalue : ∀ w, s.forgetValues.slot? a = some (.evaluated w) → w = v := by
    rw [slot?_forgetValues, hraw]
    exact fun w hw => nomatch hw
  rw [value?_eq_some_iff, hw, s.runs_pass.slot?_of_done hraw' hdone hvalue w hw]

/-- So it does when it is evaluated for itself. -/
theorem evaluateCell_of_done (hraw : s.raw? a = some raw)
    (hdone : runRaw s.setting a raw = .done v) : (s.evaluateCell a).1 = .ok v := by
  obtain ⟨r, t, hformula, heq⟩ := exists_runs_evaluateCell hraw
  rw [hdone] at hformula
  cases hformula
  rw [heq]
  rfl

end Sheet

end Done

namespace Sheet

/-- **Quoted texts survive from formula to value.** Take any separator and any
texts, at least one, that hold no double quote. The formula that joins them,
between quotes, has the joined text for its value, as deep in other calls as
calls may be nested. It has this value as a formula that is in no cell, with or
without an equals sign; and as the raw text of a cell, when the cell is
evaluated or looked up for the first time, and after the evaluation of all
cells. -/
theorem joinCall_evaluates {separator : List Char} {texts : List (List Char)}
    (h : ∀ t ∈ separator :: texts, '"' ∉ t) (hne : texts ≠ []) :
    (∀ setting caller room, runWithin setting caller (room + 1) (joinCall separator texts)
        = .done (joined separator texts))
      ∧ (∀ s : Sheet, (s.evaluateFormula (joinCall separator texts)).1 = joined separator texts
        ∧ (s.evaluateFormula ('=' :: joinCall separator texts)).1 = joined separator texts)
      ∧ ∀ (s : Sheet) (a : Address),
        (s.raw? a = some (String.ofList ('=' :: joinCall separator texts)) →
          (s.evaluateCell a).1 = .ok (joined separator texts)
            ∧ (s.slot? a = some .unevaluated → (s.lookup a).1 = .ok (joined separator texts)))
          ∧ (s.evaluateAll.raw? a = some (String.ofList ('=' :: joinCall separator texts)) →
            s.evaluateAll.value? a = some (joined separator texts)) := by
  have hrun (setting : Setting) (caller : Address) (room : Nat) :=
    runWithin_joinCall setting caller room h hne
  have hraw (setting : Setting) (caller : Address) :
      runRaw setting caller (String.ofList ('=' :: joinCall separator texts))
        = .done (joined separator texts) :=
    (runRaw_of_body? setting caller (body?_ofList _)).trans (hrun setting caller 9)
  refine ⟨hrun, fun s => ?_, fun s a => ⟨fun htext => ?_, fun htext => ?_⟩⟩
  · have hformula : run s.setting ⟨0, 0⟩ (joinCall separator texts)
        = .done (joined separator texts) := hrun s.setting ⟨0, 0⟩ 9
    have hbody : formulaBody (joinCall separator texts) = joinCall separator texts := rfl
    rw [evaluateFormula, evaluateFormula, hbody, formulaBody, hformula]
    exact ⟨rfl, rfl⟩
  · have hcell := evaluateCell_of_done htext (hraw s.setting a)
    refine ⟨hcell, fun hfresh => ?_⟩
    rw [lookup_eq_evaluateCell hfresh]
    exact hcell
  · obtain ⟨u, -, heq⟩ := s.exists_rewritten_evaluateAll
    rw [heq] at htext ⊢
    have htext' : u.raw? a = some (String.ofList ('=' :: joinCall separator texts)) :=
      (u.raw?_pass a).symm.trans htext
    exact value?_pass_of_done htext' (hraw u.setting a)

/-- Texts that look like a name of a cell, a number, a call, an end of the call,
and white space. -/
def lookalikes : List (List Char) :=
  ["A1".toList, "1.5".toList, "TIME()".toList, "), (".toList, [], "\n ".toList]

/-- They are joined as they are. -/
theorem joinCall_lookalikes :
    (∀ t ∈ ", ".toList :: lookalikes, '"' ∉ t) ∧ lookalikes ≠ []
      ∧ ∀ s : Sheet, (s.evaluateFormula
          "CONCAT(\", \", \"A1\", \"1.5\", \"TIME()\", \"), (\", \"\", \"\n \")".toList).1
        = .text "A1, 1.5, TIME(), ), (, , \n " := by
  have h : ∀ t ∈ ", ".toList :: lookalikes, '"' ∉ t := by decide
  have hne : lookalikes ≠ [] := by decide
  exact ⟨h, hne, fun s => ((joinCall_evaluates h hne).2.1 s).1⟩

end Sheet

end SoundSheet
