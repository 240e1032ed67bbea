import SoundSheet.Proofs.Formula.CallTree
import SoundSheet.Proofs.Formula.Code
import SoundSheet.Proofs.Formula.Raw

/-!
# Scripts that are whole formulas

A formula that calls a script is cut into tokens like any other, but only the
name is taken from there. What is behind the name is the text itself, so the
code gets through as it is written, less the white space at its ends
(`runWithin_scriptCall`). What is then done with it has nothing to do with the
formula any more: the cells that it names are looked up, and the host runs it
(`askHost`).
-/

namespace SoundSheet

open SoundSheet.Text SoundSheet.Script

/-- **The name of scripts**, in any letter case. -/
theorem Builtin.find?_script {name : List Char} (h : name.map Char.toUpper = "JS".toList) :
    find? name = some .script := by
  rw [find?, all]
  simp only [List.find?, isNamed, h]
  rfl

namespace Formula

/-! ## The first token -/

/-- White space in front of a punctuation character is cut into white space. -/
theorem exists_cut_blank_append {z : List Char} (hz : ∀ c ∈ z, isBlank c = true) {c : Char}
    (hc : isPunctuation c = true) (s : List Char) :
    ∃ w, (∀ d ∈ w, isBlank d = true) ∧ cut false (z ++ c :: s) = (w, [c] :: tokenize s) := by
  induction z with
  | nil => exact ⟨[], nofun, cut_punctuation hc s⟩
  | cons d z ih =>
    obtain ⟨hd, hz⟩ := List.forall_mem_cons.mp hz
    obtain ⟨w, hw, hcut⟩ := ih hz
    by_cases hspace : d = ' '
    · refine ⟨[], nofun, ?_⟩
      have htokens : tokenize (z ++ c :: s) = [c] :: tokenize s := by
        rw [tokenize_blank_append hz, tokenize, cut_punctuation hc]
        rfl
      rw [hspace, List.cons_append, cut_space, htokens]
    · have hquoted : quotedAfter false [d] = false :=
        quotedAfter_of_blank (List.forall_mem_singleton.mpr hd) false
      refine ⟨d :: w, List.forall_mem_cons.mpr ⟨hd, hw⟩, ?_⟩
      rw [List.cons_append, cut_cons (goesOn_of_isBlank hd hspace false), hquoted, hcut]

/-- **A word ends at the next punctuation character**, with white space between
them or not. -/
theorem tokenize_word_blank_append {w z : List Char} (hword : IsWord false w) (htrim : trim w = w)
    (hne : w ≠ []) (hclosed : quotedAfter false w = false) (hz : ∀ c ∈ z, isBlank c = true)
    {c : Char} (hc : isPunctuation c = true) (s : List Char) :
    tokenize (w ++ (z ++ c :: s)) = w :: [c] :: tokenize s := by
  obtain ⟨w', hw', hcut⟩ := exists_cut_blank_append hz hc s
  rw [tokenize, cut_append hword, hclosed, hcut]
  dsimp only
  rw [flush_append_blank hw', flush, htrim, if_neg hne]

/-- **The first token of a call** is the name of its builtin. -/
theorem tokenize_name_append {name : List Char} {b : Builtin} (hname : Builtin.find? name = some b)
    {z : List Char} (hz : ∀ c ∈ z, isBlank c = true) (s : List Char) :
    tokenize (name ++ (z ++ '(' :: s)) = name :: ['('] :: tokenize s := by
  have hne := (Builtin.isAlpha_of_find? hname).1
  have hplain := isPlain_of_find? hname
  obtain ⟨hword, hclosed⟩ := isWord_of_isPlain hplain
  exact tokenize_word_blank_append hword (trim_eq_self fun d hd => (hplain d hd).2.2) hne hclosed
    hz (by decide) s

/-! ## Calls that are written out -/

/-- **A text that is a call**: a name and, in parentheses, what stands inside of
them, with white space before, between and behind. -/
inductive IsCallOf (name inside : List Char) : List Char → Prop
  | intro {z z' z'' : List Char} (hz : ∀ d ∈ z, isBlank d = true)
      (hz' : ∀ d ∈ z', isBlank d = true) (hz'' : ∀ d ∈ z'', isBlank d = true) :
      IsCallOf name inside (z ++ (name ++ (z' ++ '(' :: (inside ++ ')' :: z''))))

/-- A call without white space. -/
theorem isCallOf_compact (name inside : List Char) :
    IsCallOf name inside (name ++ '(' :: (inside ++ [')'])) :=
  @IsCallOf.intro name inside [] [] [] (List.forall_mem_nil _) (List.forall_mem_nil _)
    (List.forall_mem_nil _)

section Call

variable {name inside text : List Char} {b : Builtin}

/-- **The run of a call** is that of the builtin with this name, with the tokens
and the text behind the name. -/
theorem exists_runWithin_call (setting : Setting) (caller : Address) (room : Nat)
    (hname : Builtin.find? name = some b) (htext : IsCallOf name inside text) :
    ∃ call : Invocation,
      runWithin setting caller (room + 1) text
          = call.run setting (runWithin setting caller room) b
        ∧ tokenize text = name :: call.tokens
        ∧ trim call.source = '(' :: (inside ++ [')']) ∧ call.caller = caller := by
  obtain @⟨z, z', z'', hz, hz', hz''⟩ := htext
  have hne := (Builtin.isAlpha_of_find? hname).1
  -- the text starts with the name, so what is behind it is the rest of the text
  have hstart : trimStart (z ++ (name ++ (z' ++ '(' :: (inside ++ ')' :: z''))))
      = name ++ (z' ++ '(' :: (inside ++ ')' :: z'')) := by
    obtain ⟨d, rest, rfl⟩ := List.exists_cons_of_ne_nil hne
    rw [trimStart_blank_append hz, List.cons_append,
      trimStart_cons_of_not_blank _ (isPlain_of_find? hname d List.mem_cons_self).2.2]
  have hsource : trim (z' ++ '(' :: (inside ++ ')' :: z'')) = '(' :: (inside ++ [')']) := by
    have hsplit : '(' :: (inside ++ ')' :: z'') = ['('] ++ inside ++ [')'] ++ z'' := by simp
    rw [trim_blank_append hz', hsplit, trim_append_blank hz'',
      trim_append_append (by decide) (by simp) (by decide) (by simp)]
    simp
  refine ⟨⟨['('] :: tokenize (inside ++ ')' :: z''), z' ++ '(' :: (inside ++ ')' :: z''), caller⟩,
    ?_, by rw [tokenize_blank_append hz, tokenize_name_append hname hz'], hsource, rfl⟩
  rw [runWithin, tokenize_blank_append hz, tokenize_name_append hname hz']
  dsimp only
  rw [hname, hstart, List.drop_left]

/-- **The tokens of a call**, if quotes are closed inside of it. -/
theorem tokenize_call (hname : Builtin.find? name = some b) (htext : IsCallOf name inside text)
    (hquotes : quotedAfter false inside = false) :
    tokenize text = name :: ['('] :: (tokenize inside ++ [[')']]) := by
  obtain @⟨z, z', z'', hz, hz', hz''⟩ := htext
  have hend : tokenize z'' = [] := by
    rw [← List.append_nil z'', tokenize_blank_append hz'', tokenize_nil]
  rw [tokenize_blank_append hz, tokenize_name_append hname hz',
    tokenize_append_punctuation (by decide) hquotes, hend]

/-- **A call with code inside of it** is left in one piece. -/
theorem wholeFrom_tokenize_call (hname : Builtin.find? name = some b)
    (htext : IsCallOf name inside text) (hcode : IsCode inside) : WholeFrom 0 (tokenize text) := by
  rw [tokenize_call hname htext hcode.closed]
  exact (wholeFrom_name hname).append (.parenthesized hcode.wholeFrom_tokenize)

/-- The quotes of a call are closed if they are closed inside of it. -/
theorem quotedAfter_call (hname : Builtin.find? name = some b) (htext : IsCallOf name inside text)
    (hquotes : quotedAfter false inside = false) : quotedAfter false text = false := by
  obtain @⟨z, z', z'', hz, hz', hz''⟩ := htext
  have hclosed : quotedAfter false name = false := (isWord_of_isPlain (isPlain_of_find? hname)).2
  have hsplit : z ++ (name ++ (z' ++ '(' :: (inside ++ ')' :: z'')))
      = z ++ (name ++ (z' ++ (['('] ++ (inside ++ ([')'] ++ z''))))) := rfl
  simp only [hsplit, quotedAfter_append, quotedAfter_of_blank hz, hclosed,
    quotedAfter_of_blank hz']
  rw [show quotedAfter false ['('] = false from rfl, hquotes,
    show quotedAfter false [')'] = false from rfl, quotedAfter_of_blank hz'']

end Call

/-! ## Running code -/

/-- **The run of code** on behalf of a cell: the cells that it names are looked
up one after the other, and then the host runs it. -/
def askHost (setting : Setting) (caller : Address) (code : List Char) : Plan CellValue :=
  (Plan.each (fun cell => (Plan.peek cell).bind fun v => .done (cell, v)) (mentions code)).bind
    fun values =>
      match setting.host.run code ⟨caller, values, setting.tempo, setting.time⟩ with
      | .error message => .fail (.external message)
      | .ok outcome => .emit outcome.writes outcome.events (.done outcome.value)

/-- **A text that is a script**: a call of `JS`, in any letter case, with a
code. -/
def IsScriptCall (c text : List Char) : Prop :=
  ∃ name, name.map Char.toUpper = "JS".toList ∧ IsCallOf name c text

/-- **A script with a code is left in one piece**, with its quotes closed. -/
theorem IsScriptCall.inOnePiece {c text : List Char} (htext : IsScriptCall c text)
    (hcode : IsCode c) :
    quotedAfter false text = false ∧ WholeFrom 0 (tokenize text) ∧ tokenize text ≠ [] := by
  obtain ⟨name, hname, htext⟩ := htext
  have hfind := Builtin.find?_script hname
  have htokens := tokenize_call hfind htext hcode.closed
  exact ⟨quotedAfter_call hfind htext hcode.closed, wholeFrom_tokenize_call hfind htext hcode,
    htokens ▸ List.cons_ne_nil _ _⟩

/-- The code in parentheses is what is between them. -/
theorem scriptCode_parenthesized {c : List Char} (hopened : closesWithin false 0 c = true) :
    scriptCode ('(' :: (c ++ [')'])) = trim c := by
  have hlast : (c ++ [')']).getLast? = some ')' := List.getLast?_concat
  rw [scriptCode, hlast, List.dropLast_concat, if_pos ⟨rfl, hopened⟩]

/-- **A script runs what is between its parentheses**, or all of it with the
parentheses, if the first one closes before the end. -/
theorem runWithin_script (setting : Setting) (caller : Address) (room : Nat)
    {c text : List Char} (htext : IsScriptCall c text) :
    runWithin setting caller (room + 1) text
      = askHost setting caller (scriptCode ('(' :: (c ++ [')']))) := by
  obtain ⟨name, hname, htext⟩ := htext
  obtain ⟨call, hrun, -, hsource, hcaller⟩ :=
    exists_runWithin_call setting caller room (Builtin.find?_script hname) htext
  rw [hrun, Invocation.run, script, hsource, hcaller]
  rfl

/-- **A script runs its code as it is written**, without the white space at its
ends. -/
theorem runWithin_scriptCall (setting : Setting) (caller : Address) (room : Nat)
    {c text : List Char} (hopened : closesWithin false 0 c = true) (htext : IsScriptCall c text) :
    runWithin setting caller (room + 1) text = askHost setting caller (trim c) := by
  rw [runWithin_script setting caller room htext, scriptCode_parenthesized hopened]

/-! ## What is asked of the host -/

/-- **The run of a formula asks the host on behalf of its cell only.** -/
theorem runWithin_congr_host {setting : Setting} {caller : Address} {host : Host}
    (h : ∀ code scope, scope.caller = caller → host.run code scope = setting.host.run code scope)
    (room : Nat) :
    runWithin { setting with host := host } caller room = runWithin setting caller room := by
  have hcode (code : List Char) :
      askHost { setting with host := host } caller code = askHost setting caller code := by
    refine congrArg (Plan.bind _) (funext fun values => ?_)
    dsimp only
    rw [h code _ rfl]
  induction room with
  | zero => rfl
  | succ room ih =>
    funext body
    rw [runWithin, runWithin, ih]
    cases tokenize body with
    | nil => rfl
    | cons name rest =>
      dsimp only
      cases Builtin.find? name with
      | none => rfl
      | some b =>
        cases b with
        | script => exact hcode _
        | _ => rfl

theorem runRaw_congr_host {setting : Setting} {caller : Address} {host : Host}
    (h : ∀ code scope, scope.caller = caller → host.run code scope = setting.host.run code scope)
    (raw : String) :
    runRaw { setting with host := host } caller raw = runRaw setting caller raw := by
  cases hbody : body? raw with
  | none => rw [runRaw_of_body?_eq_none _ _ hbody, runRaw_of_body?_eq_none _ _ hbody]
  | some body =>
    rw [runRaw_of_body? _ _ hbody, runRaw_of_body? _ _ hbody, run, run, runWithin_congr_host h]

end Formula

end SoundSheet
