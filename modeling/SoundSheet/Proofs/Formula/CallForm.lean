import SoundSheet.Proofs.Formula.ArgumentRuns
import SoundSheet.Proofs.Formula.NestedScripts

/-!
# What a builtin reads of its formula

A call is written as a name and one pair of parentheses around everything else
(`InCallForm`). No builtin looks whether its formula is. Behind the name, the
first and the last token are passed over, whatever they are; what is between
them is split into arguments. `WAVEFORM` goes through all tokens and passes over
parentheses and commas. So each formula is run as if it were in the form that
its builtin takes it in (`Builtin.takenAs`, `runWithin_eq_takenAs`), and two
formulas that are taken alike have the same run (`runWithin_congr_takenAs`).

What is looked at is how many arguments there are (`Builtin.takes`), and a
formula that is not in call form is an error if that number is wrong
(`Invocation.run_eq_arity`). It need not be wrong: a call that is not closed
loses its last token, and is a call with one argument less.
-/

namespace SoundSheet

open SoundSheet.Text SoundSheet.Formula

/-! ## The form of a call -/

/-- **The tokens behind the name of a call**: parentheses around tokens whose
parentheses match. -/
def Formula.InCallForm (tokens : List Token) : Prop :=
  ∃ inside, Balanced inside ∧ tokens = ['('] :: (inside ++ [[')']])

/-- What is inside of them is what is between the first and the last token. -/
theorem Formula.inCallForm_iff {tokens : List Token} :
    InCallForm tokens ↔ Balanced (inner tokens) ∧ tokens = ['('] :: (inner tokens ++ [[')']]) := by
  constructor
  · rintro ⟨inside, hinside, rfl⟩
    rw [inner_parenthesized]
    exact ⟨hinside, rfl⟩
  · exact fun h => ⟨inner tokens, h⟩

instance (tokens : List Token) : Decidable (InCallForm tokens) :=
  decidable_of_iff _ inCallForm_iff.symm

namespace Builtin

/-- **The form that a builtin takes the tokens behind its name in**: with
parentheses in the place of the first and the last token, or, if it is
`WAVEFORM`, without parentheses and commas. -/
def takenAs (b : Builtin) (tokens : List Token) : List Token :=
  if b = .waveform then plainTokens tokens else ['('] :: (inner tokens ++ [[')']])

/-- How many arguments a builtin finds in the tokens behind its name. -/
def argumentCount (b : Builtin) (tokens : List Token) : Nat :=
  if b = .waveform then (plainTokens tokens).length else (argumentTexts tokens).length

/-- Whether a builtin can be called with so many arguments. Scripts have a code
instead. -/
def takes : Builtin → Nat → Bool
  | .waveform, n => 1 ≤ n && n ≤ 3
  | .oscillator, n | .adsr, n => n = 4
  | .beat, n => n = 2
  | .metronome, n => n ≤ 1
  | .time, n => n = 0
  | .concat, n => 2 ≤ n
  | .audio, n | .sequence, n => 2 ≤ n && n ≤ 3
  | .chord, n => 1 ≤ n && n ≤ 2
  | .script, _ => true

variable {b : Builtin} {tokens tokens' : List Token}

@[simp]
theorem takenAs_waveform (tokens : List Token) : takenAs .waveform tokens = plainTokens tokens :=
  rfl

theorem takenAs_of_ne (h : b ≠ .waveform) (tokens : List Token) :
    b.takenAs tokens = ['('] :: (inner tokens ++ [[')']]) :=
  if_neg h

/-- The form is taken as it is. -/
theorem takenAs_takenAs (b : Builtin) (tokens : List Token) :
    b.takenAs (b.takenAs tokens) = b.takenAs tokens := by
  by_cases h : b = .waveform
  · rw [h, takenAs_waveform, takenAs_waveform]
    exact List.filter_eq_self.mpr fun t ht => (List.mem_filter.mp ht).2
  · rw [takenAs_of_ne h, takenAs_of_ne h, inner_parenthesized]

/-- Tokens in call form are taken as they are. -/
theorem takenAs_of_inCallForm (h : b ≠ .waveform) (htokens : InCallForm tokens) :
    b.takenAs tokens = tokens := by
  rw [takenAs_of_ne h, ← (inCallForm_iff.mp htokens).2]

/-- Formulas that are taken alike have the same tokens between the first and the
last. -/
theorem inner_eq_of_takenAs (hb : b ≠ .waveform) (h : b.takenAs tokens = b.takenAs tokens') :
    inner tokens = inner tokens' := by
  rw [takenAs_of_ne hb, takenAs_of_ne hb] at h
  exact List.append_cancel_right (List.cons.inj h).2

end Builtin

namespace Formula

/-! ## Formulas in another form -/

/-- Tokens that can be told apart can be so when some are left out. -/
theorem Separable.sublist {tokens kept : List Token} (h : Separable tokens)
    (hkept : kept.Sublist tokens) : Separable kept := by
  have : IsTrans Token fun t _ => quotedAfter false t = false := ⟨fun _ _ _ ht _ => ht⟩
  exact ⟨fun t ht => h.isToken t (hkept.subset ht), h.closed.sublist hkept⟩

/-- Between the first and the last token no quote is left open. -/
theorem Separable.of_mem_inner {tokens : List Token} (h : Separable tokens) {t : Token}
    (ht : t ∈ inner tokens) : IsToken t ∧ quotedAfter false t = false := by
  rw [inner, ← List.tail_dropLast] at ht
  have hlast := List.mem_of_mem_tail ht
  exact ⟨h.isToken t (List.mem_of_mem_dropLast hlast), h.closed_of_mem_dropLast hlast⟩

/-- **They can be told apart in the form that a builtin takes them in.** Where
parentheses take the place of tokens, the last of these goes, and only this one
might have an open quote. -/
theorem Separable.takenAs {name : Token} {rest : List Token} (h : Separable (name :: rest))
    (hname : quotedAfter false name = false) (b : Builtin) :
    Separable (name :: b.takenAs rest) := by
  by_cases hb : b = .waveform
  · rw [hb, Builtin.takenAs_waveform]
    exact h.sublist (List.filter_sublist.cons_cons name)
  have hrest : Separable rest := h.of_run (List.suffix_cons name rest).isInfix
  have hparen {c : Char} (hc : isPunctuation c = true) :
      IsToken [c] ∧ quotedAfter false [c] = false :=
    ⟨.punctuation hc, quotedAfter_punctuation hc false⟩
  have hall : ∀ t ∈ name :: ['('] :: (inner rest ++ [[')']]),
      IsToken t ∧ quotedAfter false t = false :=
    List.forall_mem_cons.mpr ⟨⟨h.isToken name List.mem_cons_self, hname⟩,
      List.forall_mem_cons.mpr ⟨hparen (by decide),
        List.forall_mem_append.mpr ⟨fun _ => hrest.of_mem_inner,
          List.forall_mem_singleton.mpr (hparen (by decide))⟩⟩⟩
  rw [Builtin.takenAs_of_ne hb]
  exact .of_closed (fun t ht => (hall t ht).1) fun t ht => (hall t ht).2

/-! ## The run of a formula -/

section Run

variable {setting : Setting} {caller : Address} {room : Nat} {b : Builtin}
  {body name : List Char} {rest : List Token}

/-- The run of a formula that starts with the name of a builtin. -/
theorem runWithin_of_find? (setting : Setting) (caller : Address) (room : Nat)
    (htokens : tokenize body = name :: rest) (hname : Builtin.find? name = some b) :
    runWithin setting caller (room + 1) body
      = Invocation.run setting (runWithin setting caller room)
          ⟨rest, (trimStart body).drop name.length, caller⟩ b := by
  rw [runWithin, htokens]
  dsimp only
  rw [hname]

/-- **A call is run on the tokens as its builtin takes them.** -/
theorem Invocation.run_congr {nested : List Char → Plan CellValue} {call call' : Invocation}
    (hscript : b ≠ .script) (h : b.takenAs call.tokens = b.takenAs call'.tokens) :
    call.run setting nested b = call'.run setting nested b := by
  cases b with
  | script => exact absurd rfl hscript
  | waveform =>
    rw [Builtin.takenAs_waveform, Builtin.takenAs_waveform] at h
    rw [Invocation.run, Invocation.run, waveform, waveform, h]
  | _ =>
    have harguments : argumentTexts call.tokens = argumentTexts call'.tokens := by
      rw [argumentTexts, argumentTexts, Builtin.inner_eq_of_takenAs (by decide) h]
    simp only [Invocation.run, oscillator, beat, metronome, time, concat, adsr, audio, sequence,
      chord, harguments]

/-- **A wrong number of arguments is an error**, before any of them is read. -/
theorem Invocation.run_eq_arity {nested : List Char → Plan CellValue} {call : Invocation}
    (h : b.takes (b.argumentCount call.tokens) = false) :
    call.run setting nested b = .fail (.arity b) := by
  cases b with
  | script => exact absurd h Bool.true_eq_false.mp
  | _ =>
    simp only [Builtin.argumentCount, reduceCtorEq, if_true, if_false] at h
    simp only [Invocation.run, waveform, oscillator, beat, metronome, time, concat, adsr, audio,
      sequence, chord]
    -- a number of arguments that has a case of its own is one that the builtin takes
    split <;> simp_all [Builtin.takes, Plan.bind]

/-- **Formulas that are taken alike have the same run.** -/
theorem runWithin_congr_takenAs {body' name' : List Char} {rest' : List Token}
    (htokens : tokenize body = name :: rest) (hname : Builtin.find? name = some b)
    (htokens' : tokenize body' = name' :: rest') (hname' : Builtin.find? name' = some b)
    (hscript : b ≠ .script) (h : b.takenAs rest = b.takenAs rest') :
    runWithin setting caller room body = runWithin setting caller room body' := by
  cases room with
  | zero => rfl
  | succ room =>
    rw [runWithin_of_find? setting caller room htokens hname,
      runWithin_of_find? setting caller room htokens' hname']
    exact Invocation.run_congr hscript h

/-- **What a builtin reads of its formula.** Take any formula of a builtin other
than `JS`, and write what is behind the name in the form in which the builtin
takes it. The tokens are read again, and the run is the same, whatever has been
in the place of the parentheses. It is the same as well for any other formula
that is taken alike. Tokens that are in call form are taken as they are, and a
number of arguments that the builtin does not take is an error. -/
theorem runWithin_eq_takenAs (setting : Setting) (caller : Address) (room : Nat)
    (htokens : tokenize body = name :: rest) (hname : Builtin.find? name = some b)
    (hscript : b ≠ .script) :
    runWithin setting caller room body
        = runWithin setting caller room (joinTokens (name :: b.takenAs rest))
      ∧ tokenize (joinTokens (name :: b.takenAs rest)) = name :: b.takenAs rest
      ∧ (∀ body' name' rest', tokenize body' = name' :: rest' → Builtin.find? name' = some b →
        b.takenAs rest' = b.takenAs rest →
          runWithin setting caller room body' = runWithin setting caller room body)
      ∧ (InCallForm rest → b ≠ .waveform → b.takenAs rest = rest)
      ∧ (b.takes (b.argumentCount rest) = false →
        runWithin setting caller (room + 1) body = .fail (.arity b)) := by
  have hseparable : Separable (name :: rest) := htokens ▸ separable_tokenize body
  have hclosed : quotedAfter false name = false := (isWord_of_isPlain (isPlain_of_find? hname)).2
  have hagain := (hseparable.takenAs hclosed b).tokenize_joinTokens
  refine ⟨runWithin_congr_takenAs htokens hname hagain hname hscript
      (Builtin.takenAs_takenAs b rest).symm, hagain,
    fun body' name' rest' htokens' hname' h =>
      runWithin_congr_takenAs htokens' hname' htokens hname hscript h,
    fun hform hb => Builtin.takenAs_of_inCallForm hb hform, fun h => ?_⟩
  rw [runWithin_of_find? setting caller room htokens hname]
  exact Invocation.run_eq_arity h

end Run

/-- A call with two texts to be joined, in which the parenthesis at the end is
missing. -/
def leftOpen : List Char := "CONCAT(\"-\",a,b".toList

/-- It is run with the parenthesis in the place of the last text. -/
theorem runWithin_eq_takenAs_leftOpen :
    tokenize leftOpen
        = ["CONCAT".toList, ['('], "\"-\"".toList, [','], ['a'], [','], ['b']]
      ∧ Builtin.find? "CONCAT".toList = some .concat ∧ Builtin.concat ≠ .script
      ∧ ∀ room, runWithin (besideText "").setting ⟨0, 0⟩ room leftOpen
        = runWithin (besideText "").setting ⟨0, 0⟩ room "CONCAT ( \"-\" , a , )".toList := by
  have htokens : tokenize leftOpen
      = ["CONCAT".toList, ['('], "\"-\"".toList, [','], ['a'], [','], ['b']] := by decide
  have hname : Builtin.find? "CONCAT".toList = some .concat := by decide
  refine ⟨htokens, hname, nofun, fun room => ?_⟩
  exact (runWithin_eq_takenAs (besideText "").setting ⟨0, 0⟩ room htokens hname nofun).1

/-- **A call need not be in call form**: without its last parenthesis it has a
value, which is that of a call without the last argument. -/
theorem evaluateCell_leftOpen :
    (∃ name rest, tokenize leftOpen = name :: rest ∧ Builtin.find? name = some .concat
        ∧ ¬InCallForm rest)
      ∧ ((besideText (String.ofList ('=' :: leftOpen))).evaluateCell ⟨0, 0⟩).1
        = .ok (.text "a") :=
  ⟨⟨"CONCAT".toList, (tokenize leftOpen).tail, by decide, by decide, by decide +kernel⟩,
    by decide +kernel⟩

end Formula

end SoundSheet
