import SoundSheet.Proofs.Formula.ScriptFree

/-!
# Errors that are passed on

The value of a cell may be an error. What becomes of it when a formula reads the
cell depends on the place. An operand of an arithmetic expression and a text
argument pass the error on: the formula fails, and its cell holds the same
error. An oscillator to be displayed and a trigger to be bound to are inspected,
and the formula fails for a reason of its own. A number argument and the cells
of a region, however, are coerced: an error is no number, and there is a default
or a gap in its place.

So a formula without scripts fails with the error of every cell that it neither
coerces (`Coerces`) nor inspects (`Inspects`), and fails in any case if the cell
is not coerced (`relays_runRaw`). Calls may be nested in any place, for if one
of them fails the formula fails with the same error.
-/

namespace SoundSheet

open SoundSheet.Script SoundSheet.Formula

/-- An argument that names a cell is the name. -/
theorem Formula.Argument.eq_of_ofText_eq_cell {s name : List Char}
    (h : Argument.ofText s = .cell name) : s = name := by
  unfold Argument.ofText at h
  split at h
  · exact Argument.cell.inj h
  · split at h
    · exact nomatch h
    · split at h
      · exact nomatch h
      · split at h <;> exact nomatch h

/-! ## Plans that pass errors on -/

/-- **How the error of a cell is treated**, where `answer` goes on with it: the
cell is in `C`, or else the run fails, and it fails with the error itself unless
the cell is in `D`. -/
def Treats {α : Type} (C D : Address → Prop) (cell : Address) (answer : CellError → Plan α) :
    Prop :=
  C cell ∨ ∀ e, ∃ e', answer e = .fail e' ∧ (D cell ∨ e' = .referenced e)

namespace Treats

variable {α β : Type} {C C' D D' : Address → Prop} {cell : Address} {answer : CellError → Plan α}

theorem passed (h : ∀ e, answer e = .fail (.referenced e)) : Treats C D cell answer :=
  .inr fun e => ⟨_, h e, .inr rfl⟩

theorem inspected (hD : D cell) {e' : FormulaError} (h : ∀ e, answer e = .fail e') :
    Treats C D cell answer :=
  .inr fun e => ⟨e', h e, .inl hD⟩

theorem bind (h : Treats C D cell answer) (f : α → Plan β) :
    Treats C D cell fun e => (answer e).bind f := by
  refine h.imp_right fun h e => ?_
  obtain ⟨e', he, hD⟩ := h e
  exact ⟨e', congrArg (·.bind f) he, hD⟩

theorem mono (h : Treats C D cell answer) (hC : C cell → C' cell) (hD : D cell → D' cell) :
    Treats C' D' cell answer := by
  refine h.imp hC fun h e => ?_
  obtain ⟨e', he, hreferenced⟩ := h e
  exact ⟨e', he, hreferenced.imp_left hD⟩

end Treats

/-- **A plan that passes on the errors** of all cells outside of `C` and `D`,
and fails in some way on those of the cells in `D`. It asks for values and buses
only. -/
inductive Plan.Relays {α : Type} (C D : Address → Prop) : Plan α → Prop
  | done (a : α) : Relays C D (.done a)
  | fail (e : FormulaError) : Relays C D (.fail e)
  | read {cell : Address} {next : Except FormulaError CellValue → Plan α}
      (herror : Treats C D cell fun e => next (.ok (.error e)))
      (hnext : ∀ answer, Relays C D (next answer)) : Relays C D (.read cell next)
  | openBus {next : BusId → Plan α} (hnext : ∀ bus, Relays C D (next bus)) :
      Relays C D (.openBus next)

namespace Plan.Relays

variable {α β : Type} {C C' D D' : Address → Prop}

theorem bind {p : Plan α} {f : α → Plan β} (h : p.Relays C D) (hf : ∀ a, (f a).Relays C D) :
    (p.bind f).Relays C D := by
  induction h with
  | done a => exact hf a
  | fail e => exact .fail e
  | read herror _ ih => exact .read (herror.bind f) ih
  | openBus _ ih => exact .openBus ih

theorem mono {p : Plan α} (h : p.Relays C D) (hC : ∀ cell, C cell → C' cell)
    (hD : ∀ cell, D cell → D' cell) : p.Relays C' D' := by
  induction h with
  | done a => exact .done a
  | fail e => exact .fail e
  | read herror _ ih => exact .read (herror.mono (hC _) (hD _)) ih
  | openBus _ ih => exact .openBus ih

theorem ofExcept (r : Except FormulaError α) : (Plan.ofExcept r).Relays C D := by
  cases r with
  | ok a => exact .done a
  | error e => exact .fail e

theorem newBus : Plan.newBus.Relays C D :=
  .openBus .done

theorem each {ι : Type} {f : ι → Plan α} : ∀ {is : List ι}, (∀ i ∈ is, (f i).Relays C D) →
    (Plan.each f is).Relays C D
  | [], _ => .done _
  | _ :: _, h => (h _ List.mem_cons_self).bind fun _ =>
      (each fun i hi => h i (List.mem_cons_of_mem _ hi)).bind fun _ => .done _

section Values

variable {f : CellValue → Plan β} (hf : ∀ v, (f v).Relays C D)

include hf

/-- **A cell is looked up** and its value is put to a use. -/
theorem lookup_bind {cell : Address} (h : Treats C D cell fun e => f (.error e)) :
    ((Plan.lookup cell).bind f).Relays C D := by
  refine .read h fun answer => ?_
  cases answer with
  | ok v => exact hf v
  | error e => exact .fail e

theorem lookupText_bind {s : List Char}
    (h : ∀ cell, Address.parse? s = some cell → Treats C D cell fun e => f (.error e)) :
    ((Plan.lookupText s).bind f).Relays C D := by
  unfold Plan.lookupText
  cases hcell : Address.parse? s with
  | some cell => exact lookup_bind hf (h cell hcell)
  | none => exact .fail _

/-- **The value of an argument is put to a use**; what becomes of an error
matters if the argument names a cell. -/
theorem argumentValue_bind {nested : List Char → Plan CellValue} {s : List Char}
    (hcalls : ∀ source, Argument.ofText s = .call source → (nested source).Relays C D)
    (h : ∀ cell, Address.parse? s = some cell → Treats C D cell fun e => f (.error e)) :
    ((argumentValue nested s).bind f).Relays C D := by
  unfold argumentValue
  cases hs : Argument.ofText s with
  | cell name =>
    obtain rfl := Argument.eq_of_ofText_eq_cell hs
    exact lookupText_bind hf h
  | number n => exact hf _
  | call source => exact (hcalls source hs).bind hf
  | text t => exact hf _

end Values

end Plan.Relays

namespace Formula

open SoundSheet.Text

/-! ## Places -/

/-- The number arguments of a call. -/
def numberTexts (tokens : List Token) : Builtin → List (List Char)
  | .waveform => if (plainTokens tokens).length = 1 then [] else plainTokens tokens
  | .metronome | .adsr => argumentTexts tokens
  | .oscillator => (argumentTexts tokens).drop 1
  | .beat | .audio => (argumentTexts tokens).take 1
  | .sequence => ((argumentTexts tokens).drop 1).take 1
  | .time | .concat | .chord | .script => []

/-- The argument of a call that has to be an oscillator or a trigger. -/
def inspectedTexts (tokens : List Token) : Builtin → List (List Char)
  | .waveform => if (plainTokens tokens).length = 1 then plainTokens tokens else []
  | .audio => ((argumentTexts tokens).drop 1).take 1
  | _ => []

/-- A call steps through a region with the cell in it. -/
def StepsThrough (tokens : List Token) (cell : Address) : Prop :=
  ∃ source region traversal, (argumentTexts tokens).head? = some source
    ∧ Region.parse? source = some region ∧ cell ∈ region.cells traversal

/-- A call names the cell in a number argument, or steps through it. -/
def CallCoerces (tokens : List Token) (builtin : Builtin) (cell : Address) : Prop :=
  (∃ s ∈ numberTexts tokens builtin, Address.parse? s = some cell)
    ∨ builtin = .sequence ∧ StepsThrough tokens cell

/-- A call names the cell where it needs an oscillator or a trigger. -/
def CallInspects (tokens : List Token) (builtin : Builtin) (cell : Address) : Prop :=
  ∃ s ∈ inspectedTexts tokens builtin, Address.parse? s = some cell

/-- **A formula puts a cell to a use**: it is a call that does, or a call in its
arguments does. -/
inductive Uses (use : List Token → Builtin → Address → Prop) : List Char → Address → Prop
  /-- The formula is such a call. -/
  | self {body : List Char} {name : Token} {rest : List Token} {builtin : Builtin}
      {cell : Address} (htokens : tokenize body = name :: rest)
      (hname : Builtin.find? name = some builtin) (h : use rest builtin cell) :
      Uses use body cell
  /-- A call in its arguments does. -/
  | nested {body s source : List Char} {cell : Address} (hmem : s ∈ operandTexts body)
      (hcall : Argument.ofText s = .call source) (h : Uses use source cell) :
      Uses use body cell

/-- **A formula coerces a cell** to a number. -/
abbrev Coerces : List Char → Address → Prop :=
  Uses CallCoerces

/-- **A formula inspects a cell**: it needs an oscillator or a trigger there. -/
abbrev Inspects : List Char → Address → Prop :=
  Uses CallInspects

/-! ## Arguments -/

/-- If the argument is a call, the call passes errors on. -/
abbrev CallRelays (C D : Address → Prop) (nested : List Char → Plan CellValue) (s : List Char) :
    Prop :=
  ∀ source, Argument.ofText s = .call source → (nested source).Relays C D

/-- If the argument names a cell, the cell is in `C`. -/
abbrev NamesIn (C : Address → Prop) (s : List Char) : Prop :=
  ∀ cell, Address.parse? s = some cell → C cell

variable {C D : Address → Prop} {nested : List Char → Plan CellValue}

theorem relays_traversalOf (s : String) : (traversalOf s).Relays C D := by
  unfold traversalOf
  cases Traversal.parse? s.toList with
  | some t => exact .done t
  | none => exact .fail _

theorem relays_readRegion {region : Region} {traversal : Traversal}
    (hC : ∀ cell ∈ region.cells traversal, C cell) :
    (readRegion region traversal).Relays C D := by
  unfold readRegion
  cases hlisted : region.listed? traversal with
  | none => exact .fail _
  | some cells =>
    obtain rfl := Region.listed?_eq_some hlisted
    exact .each fun cell hcell => .lookup_bind (fun _ => .done _) (.inl (hC cell hcell))

section Argument

variable {s : List Char} (hcalls : CallRelays C D nested s)

include hcalls

theorem relays_numberArgument (hC : NamesIn C s) (default : Float) :
    (numberArgument nested default s).Relays C D :=
  .argumentValue_bind (fun _ => .done _) hcalls fun cell hcell => .inl (hC cell hcell)

theorem relays_nonzeroArgument (hC : NamesIn C s) (default : Float) :
    (nonzeroArgument nested default s).Relays C D :=
  .argumentValue_bind (fun _ => .done _) hcalls fun cell hcell => .inl (hC cell hcell)

theorem relays_textArgument : (textArgument nested s).Relays C D := by
  refine .argumentValue_bind (fun v => ?_) hcalls fun _ _ => .passed fun _ => rfl
  cases v with
  | error e => exact .fail _
  | _ => exact .done _

theorem relays_operand : (operand nested s).Relays C D := by
  refine .argumentValue_bind (fun v => ?_) hcalls fun _ _ => .passed fun _ => rfl
  split
  · split
    · exact .lookupText_bind (fun v => .ofExcept _) fun _ _ => .passed fun _ => rfl
    · exact .ofExcept _
  · exact .ofExcept _

end Argument

theorem relays_optionalText {default : String} {s : Option (List Char)}
    (hcalls : ∀ t ∈ s, CallRelays C D nested t) :
    (optionalText nested default s).Relays C D := by
  cases s with
  | some s => exact relays_textArgument (hcalls s rfl)
  | none => exact .done _

/-! ## The builtins -/

section Builtins

variable {call : Invocation}

theorem relays_parameters {frequency amplitude : List Char} (phase : Float)
    (hcalls : ∀ s ∈ [frequency, amplitude], CallRelays C D nested s)
    (hC : ∀ s ∈ [frequency, amplitude], NamesIn C s) :
    (parameters nested frequency amplitude phase).Relays C D := by
  simp only [List.forall_mem_cons] at hcalls hC
  exact (relays_nonzeroArgument hcalls.1 hC.1 _).bind fun _ =>
    (relays_nonzeroArgument hcalls.2.1 hC.2.1 _).bind fun _ => .done _

theorem relays_waveform
    (hcalls : ∀ s ∈ plainTokens call.tokens, CallRelays C D nested s)
    (hC : (plainTokens call.tokens).length ≠ 1 → ∀ s ∈ plainTokens call.tokens, NamesIn C s)
    (hD : (plainTokens call.tokens).length = 1 → ∀ s ∈ plainTokens call.tokens, NamesIn D s) :
    (waveform nested call).Relays C D := by
  unfold waveform
  split
  · next hargs =>
    rw [hargs, List.forall_mem_cons] at hcalls
    rw [hargs] at hD
    refine .argumentValue_bind (fun v => ?_) hcalls.1 fun cell hcell =>
      .inspected (hD rfl _ List.mem_cons_self cell hcell) fun _ => rfl
    split
    · exact .done _
    · exact .fail _
  · next hargs =>
    rw [hargs] at hcalls hC
    exact relays_parameters _ hcalls (hC (by simp))
  · next hargs =>
    rw [hargs] at hcalls hC
    replace hC := hC (by simp)
    have hpair : ∀ {a b c d : List Char}, d ∈ [a, b] → d ∈ [a, b, c] :=
      fun h => List.mem_append_left [_] h
    refine (relays_nonzeroArgument (hcalls _ ?_) (hC _ ?_) _).bind fun _ =>
      relays_parameters _ (fun s hs => hcalls s (hpair hs)) fun s hs => hC s (hpair hs)
    all_goals simp
  · exact .fail _

variable (hcalls : ∀ s ∈ argumentTexts call.tokens, CallRelays C D nested s)

include hcalls

theorem relays_oscillator (hC : ∀ s ∈ (argumentTexts call.tokens).drop 1, NamesIn C s) :
    (oscillator nested call).Relays C D := by
  unfold oscillator
  split
  · next hargs =>
    rw [hargs] at hcalls hC
    simp only [List.drop_succ_cons, List.drop_zero, List.forall_mem_cons] at hcalls hC
    exact (relays_textArgument hcalls.1).bind fun _ =>
      (relays_numberArgument hcalls.2.1 hC.1 _).bind fun _ =>
        (relays_numberArgument hcalls.2.2.1 hC.2.1 _).bind fun _ =>
          (relays_numberArgument hcalls.2.2.2.1 hC.2.2.1 _).bind fun _ => .done _
  · exact .fail _

theorem relays_beat (hC : ∀ s ∈ (argumentTexts call.tokens).take 1, NamesIn C s) :
    (beat nested call).Relays C D := by
  unfold beat
  split
  · next hargs =>
    rw [hargs] at hcalls hC
    simp only [List.take_succ_cons, List.take_zero, List.forall_mem_cons] at hcalls hC
    exact (relays_nonzeroArgument hcalls.1 hC.1 _).bind fun _ =>
      (relays_textArgument hcalls.2.1).bind fun _ => Plan.Relays.newBus.bind fun _ => .done _
  · exact .fail _

theorem relays_metronome (setting : Setting)
    (hC : ∀ s ∈ argumentTexts call.tokens, NamesIn C s) :
    (metronome nested setting call).Relays C D := by
  unfold metronome
  split
  · exact .done _
  · next hargs =>
    rw [hargs, List.forall_mem_cons] at hcalls hC
    exact (relays_nonzeroArgument hcalls.1 hC.1 _).bind fun _ => .done _
  · exact .fail _

theorem relays_concat : (concat nested call).Relays C D := by
  unfold concat
  split
  · next hargs =>
    rw [hargs, List.forall_mem_cons] at hcalls
    exact (relays_textArgument hcalls.1).bind fun _ =>
      (Plan.Relays.each fun s hs => relays_textArgument (hcalls.2 s hs)).bind fun _ => .done _
  · exact .fail _

theorem relays_adsr (hC : ∀ s ∈ argumentTexts call.tokens, NamesIn C s) :
    (adsr nested call).Relays C D := by
  unfold adsr
  split
  · next hargs =>
    rw [hargs] at hcalls hC
    simp only [List.forall_mem_cons] at hcalls hC
    exact (relays_numberArgument hcalls.1 hC.1 _).bind fun _ =>
      (relays_numberArgument hcalls.2.1 hC.2.1 _).bind fun _ =>
        (relays_numberArgument hcalls.2.2.1 hC.2.2.1 _).bind fun _ =>
          (relays_numberArgument hcalls.2.2.2.1 hC.2.2.2.1 _).bind fun _ => .done _
  · exact .fail _

omit hcalls in
theorem relays_voice {frequency source : List Char} {waveType : Option (List Char)}
    (hfrequency : CallRelays C D nested frequency) (hsource : CallRelays C D nested source)
    (hwaveType : ∀ t ∈ waveType, CallRelays C D nested t) (hC : NamesIn C frequency)
    (hD : NamesIn D source) :
    (voice nested frequency source waveType).Relays C D := by
  refine (relays_nonzeroArgument hfrequency hC _).bind fun _ =>
    .argumentValue_bind (fun v => ?_) hsource fun cell hcell =>
      .inspected (hD cell hcell) fun _ => rfl
  cases v.triggerBus? with
  | none => exact .fail _
  | some bus => exact (relays_optionalText hwaveType).bind fun _ => .done _

theorem relays_audio (hC : ∀ s ∈ (argumentTexts call.tokens).take 1, NamesIn C s)
    (hD : ∀ s ∈ ((argumentTexts call.tokens).drop 1).take 1, NamesIn D s) :
    (audio nested call).Relays C D := by
  unfold audio
  split
  · next hargs =>
    rw [hargs] at hcalls hC hD
    simp only [List.take_succ_cons, List.take_zero, List.drop_succ_cons, List.drop_zero,
      List.forall_mem_cons] at hcalls hC hD
    exact relays_voice hcalls.1 hcalls.2.1 (fun _ ht => nomatch ht) hC.1 hD.1
  · next hargs =>
    rw [hargs] at hcalls hC hD
    simp only [List.take_succ_cons, List.take_zero, List.drop_succ_cons, List.drop_zero,
      List.forall_mem_cons] at hcalls hC hD
    exact relays_voice hcalls.1 hcalls.2.1 (fun _ ht => Option.some.inj ht ▸ hcalls.2.2.1)
      hC.1 hD.1
  · exact .fail _

omit hcalls in
theorem relays_stepped {bpm : List Char} {traversal : Option (List Char)} {source : List Char}
    (hbpm : CallRelays C D nested bpm)
    (htraversal : ∀ t ∈ traversal, CallRelays C D nested t)
    (hC : NamesIn C bpm)
    (hregion : ∀ region, Region.parse? source = some region → ∀ traversal,
      ∀ cell ∈ region.cells traversal, C cell) :
    (stepped nested source bpm traversal).Relays C D := by
  unfold stepped
  cases hsource : Region.parse? source with
  | none => exact .fail _
  | some region =>
    refine (relays_nonzeroArgument hbpm hC _).bind fun _ => ?_
    refine ((relays_optionalText htraversal).bind relays_traversalOf).bind fun traversal => ?_
    exact (relays_readRegion (hregion region hsource traversal)).bind fun _ =>
      Plan.Relays.newBus.bind fun _ => .done _

theorem relays_sequence (hC : ∀ s ∈ ((argumentTexts call.tokens).drop 1).take 1, NamesIn C s)
    (hregion : ∀ cell, StepsThrough call.tokens cell → C cell) :
    (sequence nested call).Relays C D := by
  unfold sequence
  split
  · next hargs =>
    rw [hargs] at hcalls hC
    refine relays_stepped (hcalls _ ?_) (fun _ ht => nomatch ht) (hC _ ?_) ?_
    · simp
    · simp
    · exact fun region hsource traversal cell hcell =>
        hregion cell ⟨_, region, traversal, by rw [hargs]; rfl, hsource, hcell⟩
  · next hargs =>
    rw [hargs] at hcalls hC
    refine relays_stepped (hcalls _ ?_) (fun t ht => hcalls t ?_) (hC _ ?_) ?_
    · simp
    · obtain rfl := Option.some.inj ht
      simp
    · simp
    · exact fun region hsource traversal cell hcell =>
        hregion cell ⟨_, region, traversal, by rw [hargs]; rfl, hsource, hcell⟩
  · exact .fail _

omit hcalls in
theorem relays_rooted {root : List Char} {quality : Option (List Char)}
    (hroot : CallRelays C D nested root)
    (hquality : ∀ t ∈ quality, CallRelays C D nested t) :
    (rooted nested root quality).Relays C D := by
  refine (relays_textArgument hroot).bind fun root => ?_
  dsimp only
  cases Music.Note.parse? _ with
  | none => exact .fail _
  | some root =>
    cases quality with
    | none => exact .done _
    | some quality =>
      refine (relays_textArgument (hquality quality rfl)).bind fun quality => ?_
      cases Music.Quality.parse? _ with
      | none => exact .fail _
      | some quality => exact .done _

theorem relays_chord : (chord nested call).Relays C D := by
  unfold chord
  split
  · next hargs =>
    rw [hargs, List.forall_mem_cons] at hcalls
    exact relays_rooted hcalls.1 fun _ ht => nomatch ht
  · next hargs =>
    rw [hargs] at hcalls
    simp only [List.forall_mem_cons] at hcalls
    exact relays_rooted hcalls.1 fun _ ht => Option.some.inj ht ▸ hcalls.2.1
  · exact .fail _

end Builtins

/-! ## Arithmetic -/

section Operands

variable {f : Token → Plan Float}

theorem relays_step {t : Token} (hf : (f t).Relays C D) (m : Machine) :
    (m.step f t).Relays C D := by
  obtain ⟨r, hstep⟩ | hstep := m.step_asks t
  · exact hstep f ▸ .ofExcept r
  · exact hstep f ▸ hf.bind fun n => .done _

theorem relays_steps : ∀ {tokens : List Token}, (∀ t ∈ tokens, (f t).Relays C D) →
    ∀ m : Machine, (m.steps f tokens).Relays C D
  | [], _, m => .done m
  | _ :: _, hf, m => (relays_step (hf _ List.mem_cons_self) m).bind
      (relays_steps fun t ht => hf t (List.mem_cons_of_mem _ ht))

theorem relays_arithmetic {tokens : List Token} (hf : ∀ t ∈ tokens, (f t).Relays C D) :
    (arithmetic f tokens).Relays C D := by
  unfold arithmetic
  split
  · exact .fail _
  · refine (relays_steps hf _).bind fun m => ?_
    obtain ⟨r, hfinish⟩ := m.exists_finish_eq
    exact hfinish ▸ .ofExcept r

end Operands

/-! ## Whole formulas -/

/-- **Every builtin but scripts** treats the errors of all cells by their
use. -/
theorem relays_invocation (setting : Setting) {call : Invocation} {b : Builtin}
    (hb : b ≠ .script)
    (hcalls : ∀ s ∈ callTexts call.tokens b, CallRelays C D nested s)
    (hC : ∀ cell, CallCoerces call.tokens b cell → C cell)
    (hD : ∀ cell, CallInspects call.tokens b cell → D cell) :
    (call.run setting nested b).Relays C D := by
  have hnumber : ∀ s ∈ numberTexts call.tokens b, NamesIn C s :=
    fun s hs cell hcell => hC cell (.inl ⟨s, hs, hcell⟩)
  have hinspected : ∀ s ∈ inspectedTexts call.tokens b, NamesIn D s :=
    fun s hs cell hcell => hD cell ⟨s, hs, hcell⟩
  cases b with
  | waveform =>
    refine (relays_waveform hcalls (fun hne s hs => hnumber s ?_)
      fun heq s hs => hinspected s ?_).bind fun _ => .done _
    · rwa [numberTexts, if_neg hne]
    · rwa [inspectedTexts, if_pos heq]
  | oscillator => exact (relays_oscillator hcalls hnumber).bind fun _ => .done _
  | beat => exact (relays_beat hcalls hnumber).bind fun _ => .done _
  | metronome => exact (relays_metronome hcalls setting hnumber).bind fun _ => .done _
  | time =>
    show ((time setting call).bind _).Relays C D
    unfold time
    split
    · exact .done _
    · exact .fail _
  | concat => exact (relays_concat hcalls).bind fun _ => .done _
  | adsr => exact (relays_adsr hcalls hnumber).bind fun _ => .done _
  | audio => exact (relays_audio hcalls hnumber hinspected).bind fun _ => .done _
  | sequence =>
    exact (relays_sequence hcalls hnumber fun cell hcell => hC cell (.inr ⟨rfl, hcell⟩)).bind
      fun _ => .done _
  | chord => exact (relays_chord hcalls).bind fun _ => .done _
  | script => exact absurd rfl hb

section Setting

variable (setting : Setting) (caller : Address)

theorem relays_runWithin : ∀ (room : Nat) {body : List Char}, ¬CallsScript body →
    (runWithin setting caller room body).Relays (Coerces body) (Inspects body)
  | 0, _, _ => .fail _
  | room + 1, body, hbody => by
    have hcalls : ∀ s ∈ operandTexts body,
        CallRelays (Coerces body) (Inspects body) (runWithin setting caller room) s :=
      fun s hs source hcall =>
        (relays_runWithin room fun hsource => hbody (.nested hs hcall hsource)).mono
          (fun _ hcell => .nested hs hcall hcell) fun _ hcell => .nested hs hcall hcell
    unfold runWithin
    cases htokens : tokenize body with
    | nil => exact .fail _
    | cons name rest =>
      unfold operandTexts at hcalls
      rw [htokens] at hcalls
      dsimp only at hcalls ⊢
      cases hname : Builtin.find? name with
      | none =>
        rw [hname] at hcalls
        exact (relays_arithmetic fun t ht => relays_operand (hcalls t ht)).bind fun _ => .done _
      | some b =>
        rw [hname] at hcalls
        have hb : b ≠ .script := fun heq => hbody (.self htokens (heq ▸ hname))
        exact relays_invocation setting hb hcalls (fun _ hcell => .self htokens hname hcell)
          fun _ hcell => .self htokens hname hcell

/-- **A raw text without scripts** treats the errors of all cells by the use
that its formula puts them to. -/
theorem relays_runRaw {raw : String} (hraw : ScriptFree raw) :
    (runRaw setting caller raw).Relays (fun cell => ∃ body ∈ body? raw, Coerces body cell)
      fun cell => ∃ body ∈ body? raw, Inspects body cell := by
  cases hbody : body? raw with
  | some body =>
    rw [runRaw_of_body? setting caller hbody]
    exact (relays_runWithin setting caller maxNesting (hraw body hbody)).mono
      (fun cell hcell => ⟨body, rfl, hcell⟩) fun cell hcell => ⟨body, rfl, hcell⟩
  | none =>
    rw [runRaw_of_body?_eq_none setting caller hbody]
    exact .done _

end Setting

end Formula

end SoundSheet
