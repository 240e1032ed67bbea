import Mathlib.Data.List.Forall2
import SoundSheet.Proofs.Formula.CallTree
import SoundSheet.Proofs.Formula.Raw
import SoundSheet.Proofs.Sheet.Meaning

/-!
# The limit on the nesting of calls

A tree of calls is evaluated as far as there is room. Whichever argument is too
deep, its failure is that of every call around it, for no builtin looks at the
failure of an argument; and if no argument is too deep no argument fails, for no
builtin refuses a value that is not an error (`limited_invocation`). So a tree
fails if there is less room than its height, with the one error that there is
for this, and otherwise it has a value (`CallTree.limited_runWithin`).

This is told of plans, up to what is known of the cells that they read
(`Plan.Limited`). In a sheet the values that cells hold are known, and the limit
is exact there (`perform_run_callTree`). But plain values may be known as well,
and then the formulas of the cells are evaluated along with the tree: each of
them has the limit for itself (`evaluates_run_callTree`).
-/

namespace SoundSheet

open SoundSheet.Script SoundSheet.Formula SoundSheet.Sheet

/-! ## Results up to the limit -/

/-- **A result that is a failure for the limit exactly if something is too
deep**, and else a value as it should be. -/
def TooDeepIff {α : Type} (deep : Prop) (P : α → Prop) : Except FormulaError α → Prop
  | .ok a => ¬deep ∧ P a
  | .error e => deep ∧ e = .nestedTooDeep

theorem TooDeepIff.of {α : Type} {deep : Prop} {P : α → Prop} {r : Except FormulaError α}
    (h : TooDeepIff deep P r) (hdeep : deep) : r = .error .nestedTooDeep := by
  cases r with
  | ok a => exact absurd hdeep h.1
  | error e => rw [h.2]

theorem TooDeepIff.of_not {α : Type} {deep : Prop} {P : α → Prop} {r : Except FormulaError α}
    (h : TooDeepIff deep P r) (hdeep : ¬deep) : ∃ a, r = .ok a ∧ P a := by
  cases r with
  | ok a => exact ⟨a, rfl, h.2⟩
  | error e => exact absurd h.1 hdeep

/-- **A plan that fails for the limit exactly if something is too deep**, and
else ends with a value as it should be, so long as the cells it reads have
values that are known. -/
inductive Plan.Limited (known : Address → CellValue → Prop) {α : Type} (deep : Prop)
    (P : α → Prop) : Plan α → Prop
  | done {a : α} (hdeep : ¬deep) (h : P a) : Limited known deep P (.done a)
  | fail (hdeep : deep) : Limited known deep P (.fail .nestedTooDeep)
  | read {cell : Address} {next : Except FormulaError CellValue → Plan α} {v : CellValue}
      (hknown : known cell v) (hnext : Limited known deep P (next (.ok v))) :
      Limited known deep P (.read cell next)
  | openBus {next : BusId → Plan α} (hnext : ∀ bus, Limited known deep P (next bus)) :
      Limited known deep P (.openBus next)

namespace Plan.Limited

variable {known : Address → CellValue → Prop} {α β : Type} {deep deep' : Prop} {P : α → Prop}
  {Q : β → Prop} {p : Plan α} {f : α → Plan β}

theorem congr (h : p.Limited known deep P) (hdeep : deep ↔ deep') : p.Limited known deep' P := by
  rwa [propext hdeep] at h

/-- **Of two plans in sequence** either may meet the limit. -/
theorem bind (h : p.Limited known deep P) (hf : ∀ a, P a → (f a).Limited known deep' Q) :
    (p.bind f).Limited known (deep ∨ deep') Q := by
  induction h with
  | done hdeep ha => exact (hf _ ha).congr (or_iff_right hdeep).symm
  | fail hdeep => exact .fail (.inl hdeep)
  | read hknown _ ih => exact .read hknown ih
  | openBus _ ih => exact .openBus ih

/-- A plan that goes on with its value meets no limit after that. -/
theorem map (h : p.Limited known deep P) (hf : ∀ a, P a → ∃ b, f a = .done b ∧ Q b) :
    (p.bind f).Limited known deep Q := by
  have hvalue : ∀ a, P a → (f a).Limited known False Q := by
    intro a ha
    obtain ⟨b, hb, hQ⟩ := hf a ha
    rw [hb]
    exact .done id hQ
  exact (h.bind hvalue).congr (or_iff_left id)

/-! ## Carrying such plans out -/

/-- **In a sheet that holds the known values** every run of the plan ends so. -/
theorem runs (h : p.Limited known deep P) {s t : Sheet} {r : Except FormulaError α}
    (hrun : Runs p s r t) (hknown : ∀ a v, known a v → s.slot? a = some (.evaluated v)) :
    TooDeepIff deep P r := by
  induction h generalizing s with
  | done hdeep ha =>
    cases hrun
    exact ⟨hdeep, ha⟩
  | fail hdeep =>
    cases hrun
    exact ⟨hdeep, rfl⟩
  | read hcell _ ih =>
    have hslot := hknown _ _ hcell
    cases hrun with
    | outside hcell' _ => exact nomatch hslot.symm.trans hcell'
    | marked hcell' _ => exact nomatch hslot.symm.trans hcell'
    | fresh hcell' _ _ _ => exact nomatch hslot.symm.trans hcell'
    | known hcell' hnext =>
      obtain rfl := Slot.evaluated.inj (Option.some.inj (hslot.symm.trans hcell'))
      exact ih hnext hknown
  | openBus _ ih =>
    cases hrun with
    | openBus hnext => exact ih _ hnext hknown

/-- **Where the known values are plain values** it evaluates so, with the
formulas of the cells that it reads. -/
theorem evaluates (h : p.Limited known deep P) {setting : Setting}
    {texts : Address → Option String}
    (hknown : ∀ a v, known a v → ∃ reads, PlainValue setting texts a v reads) :
    ∃ r reads, Evaluates setting texts p r reads ∧ TooDeepIff deep P r := by
  induction h with
  | done hdeep ha => exact ⟨_, [], .done _, hdeep, ha⟩
  | fail hdeep => exact ⟨_, [], .fail _, hdeep, rfl⟩
  | read hcell _ ih =>
    obtain ⟨reads₁, raw, r₁, hraw, hformula, rfl⟩ := hknown _ _ hcell
    obtain ⟨r, reads, hnext, hr⟩ := ih
    exact ⟨r, _, .inside hraw hformula hnext, hr⟩
  | openBus _ ih =>
    obtain ⟨r, reads, hnext, hr⟩ := ih 0
    exact ⟨r, reads, .openBus 0 hnext, hr⟩

end Plan.Limited

namespace Formula

/-! ## Arguments -/

/-- A value that is no error. -/
def IsSound (v : CellValue) : Prop :=
  v.isError = false

section Arguments

variable {known : Address → CellValue → Prop} {nested : List Char → Plan CellValue} {deep : Prop}
  {s : List Char}

theorem limited_numberArgument (h : (argumentValue nested s).Limited known deep IsSound)
    (default : Float) : (numberArgument nested default s).Limited known deep fun _ => True :=
  h.map fun _ _ => ⟨_, rfl, trivial⟩

theorem limited_nonzeroArgument (h : (argumentValue nested s).Limited known deep IsSound)
    (default : Float) : (nonzeroArgument nested default s).Limited known deep fun _ => True :=
  h.map fun _ _ => ⟨_, rfl, trivial⟩

/-- A text argument is refused only if it is an error. -/
theorem limited_textArgument (h : (argumentValue nested s).Limited known deep IsSound) :
    (textArgument nested s).Limited known deep fun _ => True := by
  refine h.map fun v hv => ?_
  cases v with
  | error e => exact nomatch hv
  | _ => exact ⟨_, rfl, trivial⟩

/-- **Of many plans in sequence** each may meet the limit. -/
theorem limited_each {ι α : Type} {f : ι → Plan α} {P : α → Prop} {is : List ι}
    {deeps : List Prop} (h : List.Forall₂ (fun i deep => (f i).Limited known deep P) is deeps) :
    (Plan.each f is).Limited known (∃ deep ∈ deeps, deep) fun _ => True := by
  induction h with
  | nil => exact .done (by simp) trivial
  | cons hi _ ih =>
    refine (hi.bind fun _ _ => ih.map fun _ _ => ⟨_, rfl, trivial⟩).congr ?_
    rw [List.exists_mem_cons_iff]

end Arguments

/-! ## The builtins -/

section Builtins

variable {known : Address → CellValue → Prop} {nested : List Char → Plan CellValue}
  {call : Invocation} {deeps : List Prop}

/-- **The arguments of a call meet the limit**, each where something is too
deep. -/
def ArgumentsLimited (known : Address → CellValue → Prop) (nested : List Char → Plan CellValue)
    (tokens : List Token) (deeps : List Prop) : Prop :=
  List.Forall₂ (fun s deep => (argumentValue nested s).Limited known deep IsSound)
    (argumentTexts tokens) deeps

theorem limited_concat (h : ArgumentsLimited known nested call.tokens deeps)
    (hlength : 2 ≤ deeps.length) :
    (concat nested call).Limited known (∃ deep ∈ deeps, deep) fun _ => True := by
  unfold ArgumentsLimited at h
  unfold concat
  generalize argumentTexts call.tokens = texts at h ⊢
  rcases h with _ | ⟨hseparator, _ | ⟨hvalue, hvalues⟩⟩
  · simp at hlength
  · simp at hlength
  · have hparts := limited_each <|
      List.Forall₂.cons (limited_textArgument hvalue) (hvalues.imp fun _ _ => limited_textArgument)
    refine ((limited_textArgument hseparator).bind fun _ _ =>
      hparts.map fun _ _ => ⟨_, rfl, trivial⟩).congr ?_
    simp only [List.exists_mem_cons_iff]

theorem limited_metronome (setting : Setting) (h : ArgumentsLimited known nested call.tokens deeps)
    (hlength : deeps.length ≤ 1) :
    (metronome nested setting call).Limited known (∃ deep ∈ deeps, deep) fun _ => True := by
  unfold ArgumentsLimited at h
  unfold metronome
  generalize argumentTexts call.tokens = texts at h ⊢
  rcases h with _ | ⟨hbpm, _ | _⟩
  · exact .done (by simp) trivial
  · refine ((limited_nonzeroArgument hbpm _).map fun _ _ => ⟨_, rfl, trivial⟩).congr ?_
    simp only [List.exists_mem_cons_iff, List.not_mem_nil, false_and, exists_false, or_false]
  · simp at hlength

theorem limited_beat (h : ArgumentsLimited known nested call.tokens deeps)
    (hlength : deeps.length = 2) :
    (beat nested call).Limited known (∃ deep ∈ deeps, deep) fun _ => True := by
  unfold ArgumentsLimited at h
  unfold beat
  generalize argumentTexts call.tokens = texts at h ⊢
  obtain ⟨bpm, pattern, rfl⟩ := List.length_eq_two.mp hlength
  obtain _ | ⟨hbpm, _ | ⟨hpattern, _ | _⟩⟩ := h
  refine ((limited_nonzeroArgument hbpm _).bind fun _ _ => (limited_textArgument hpattern).bind
    fun _ _ => .openBus fun _ => .done id trivial).congr ?_
  simp only [List.exists_mem_cons_iff, List.not_mem_nil, false_and, exists_false, or_false]

theorem limited_oscillator (h : ArgumentsLimited known nested call.tokens deeps)
    (hlength : deeps.length = 4) :
    (oscillator nested call).Limited known (∃ deep ∈ deeps, deep) fun _ => True := by
  unfold ArgumentsLimited at h
  unfold oscillator
  generalize argumentTexts call.tokens = texts at h ⊢
  obtain ⟨d₁, d₂, d₃, d₄, rfl⟩ := List.length_eq_four.mp hlength
  obtain _ | ⟨hwaveType, _ | ⟨hfrequency, _ | ⟨hphase, _ | ⟨hamplitude, _ | _⟩⟩⟩⟩ := h
  refine ((limited_textArgument hwaveType).bind fun _ _ =>
    (limited_numberArgument hfrequency _).bind fun _ _ =>
      (limited_numberArgument hphase _).bind fun _ _ =>
        (limited_numberArgument hamplitude _).map fun _ _ => ⟨_, rfl, trivial⟩).congr ?_
  simp only [List.exists_mem_cons_iff, List.not_mem_nil, false_and, exists_false, or_false]

theorem limited_adsr (h : ArgumentsLimited known nested call.tokens deeps)
    (hlength : deeps.length = 4) :
    (adsr nested call).Limited known (∃ deep ∈ deeps, deep) fun _ => True := by
  unfold ArgumentsLimited at h
  unfold adsr
  generalize argumentTexts call.tokens = texts at h ⊢
  obtain ⟨d₁, d₂, d₃, d₄, rfl⟩ := List.length_eq_four.mp hlength
  obtain _ | ⟨hattack, _ | ⟨hdecay, _ | ⟨hsustain, _ | ⟨hrelease, _ | _⟩⟩⟩⟩ := h
  refine ((limited_numberArgument hattack _).bind fun _ _ =>
    (limited_numberArgument hdecay _).bind fun _ _ =>
      (limited_numberArgument hsustain _).bind fun _ _ =>
        (limited_numberArgument hrelease _).map fun _ _ => ⟨_, rfl, trivial⟩).congr ?_
  simp only [List.exists_mem_cons_iff, List.not_mem_nil, false_and, exists_false, or_false]

/-- **A call of a builtin with as many arguments as it accepts** meets the limit
where one of its arguments does. -/
theorem limited_invocation (setting : Setting) {b : Builtin}
    (h : ArgumentsLimited known nested call.tokens deeps) (haccepts : Accepts b deeps.length) :
    (call.run setting nested b).Limited known (∃ deep ∈ deeps, deep) IsSound := by
  cases b with
  | concat => exact (limited_concat h haccepts).map fun _ _ => ⟨_, rfl, rfl⟩
  | metronome => exact (limited_metronome setting h haccepts).map fun _ _ => ⟨_, rfl, rfl⟩
  | beat => exact (limited_beat h haccepts).map fun _ _ => ⟨_, rfl, rfl⟩
  | oscillator => exact (limited_oscillator h haccepts).map fun _ _ => ⟨_, rfl, rfl⟩
  | adsr => exact (limited_adsr h haccepts).map fun _ _ => ⟨_, rfl, rfl⟩
  | _ => exact absurd haccepts id

end Builtins

/-! ## Trees -/

theorem forall₂_ofFn {α β : Type} {R : α → β → Prop} {n : Nat} {f : Fin n → α} {g : Fin n → β}
    (h : ∀ i, R (f i) (g i)) : List.Forall₂ R (List.ofFn f) (List.ofFn g) := by
  refine List.forall₂_iff_get.mpr ⟨by simp, fun i hi hi' => ?_⟩
  rw [List.get_ofFn, List.get_ofFn]
  exact h _

/-- A leaf meets no limit. -/
theorem Leaf.limited_token {known : Address → CellValue → Prop} (l : Leaf)
    (hcells : ∀ a ∈ l.cells, ∃ v, known a v ∧ IsSound v) (nested : List Char → Plan CellValue) :
    (argumentValue nested l.token).Limited known False IsSound := by
  rcases l.argumentValue_token nested with ⟨a, ha, heq⟩ | ⟨v, hv, heq⟩
  · obtain ⟨v, hknown, hv⟩ := hcells a ha
    rw [heq]
    exact .read hknown (.done id hv)
  · rw [heq]
    exact .done id hv

/-- **A tree fails for the limit exactly if there is less room than its
height.** -/
theorem CallTree.limited_runWithin {known : Address → CellValue → Prop} (setting : Setting)
    (caller : Address) (t : CallTree) (hcells : ∀ a ∈ t.cells, ∃ v, known a v ∧ IsSound v)
    (hcall : 0 < t.height) (room : Nat) {text : List Char} (htext : tokenize text = t.tokens) :
    (runWithin setting caller room text).Limited known (room < t.height) IsSound := by
  induction t generalizing room text with
  | leaf l => exact absurd hcall (Nat.lt_irrefl 0)
  | @call name builtin hname n haccepts args ih =>
    cases room with
    | zero => exact .fail hcall
    | succ room =>
      have hcells : ∀ i, ∀ a ∈ (args i).cells, ∃ v, known a v ∧ IsSound v := fun i a ha =>
        hcells a (List.mem_flatten.mpr ⟨_, List.mem_ofFn.mpr ⟨i, rfl⟩, ha⟩)
      have harg : ∀ i, (argumentValue (runWithin setting caller room) (args i).text).Limited known
          (room < (args i).height) IsSound := by
        intro i
        by_cases hi : 0 < (args i).height
        · rw [argumentValue_text hi]
          exact ih i (hcells i) hi room
            ((args i).tight_tokens.tokenize_eq (spacedOut_joinTokens _))
        · obtain ⟨l, hl⟩ := exists_eq_leaf hi
          have hlimited := l.limited_token (hl ▸ hcells i) (runWithin setting caller room)
          rw [hl, CallTree.text, tokens, joinTokens, List.intercalate_singleton]
          exact hlimited.congr (by simp [height])
      rw [runWithin, htext, tokens]
      dsimp only
      rw [hname]
      have harguments : ArgumentsLimited known (runWithin setting caller room)
          (['('] :: (List.intercalate [[',']] (List.ofFn fun i => (args i).tokens) ++ [[')']]))
          (List.ofFn fun i => room < (args i).height) := by
        rw [ArgumentsLimited, argumentTexts_call]
        exact forall₂_ofFn harg
      refine (limited_invocation setting harguments ?_).congr ?_
      · rwa [List.length_ofFn]
      · rw [succ_lt_height_call_iff]
        constructor
        · rintro ⟨deep, hdeep, hi⟩
          obtain ⟨i, rfl⟩ := List.mem_ofFn.mp hdeep
          exact ⟨i, hi⟩
        · rintro ⟨i, hi⟩
          exact ⟨_, List.mem_ofFn.mpr ⟨i, rfl⟩, hi⟩

/-! ## The limit -/

/-- To evaluate a cell is to run its raw text while it is marked. -/
theorem exists_runs_evaluateCell {s : Sheet} {a : Address} {raw : String}
    (hraw : s.raw? a = some raw) :
    ∃ r₁ s₁, Runs (runRaw s.setting a raw) (s.setSlot a .evaluating) r₁ s₁
      ∧ (s.evaluateCell a).1 = .ok (valueOf r₁) := by
  obtain ⟨cell, hget, rfl⟩ := Option.map_eq_some_iff.mp hraw
  obtain ⟨r₁, s₁, hformula, hcompute⟩ := exists_runs_computeWith a cell.raw s
  refine ⟨r₁, s₁, hformula, ?_⟩
  rw [evaluateCell, hget]
  dsimp only
  rw [hcompute]

section Limit

variable (t : CallTree) (hcall : 0 < t.height) {text : List Char} (htext : SpacedOut t.tokens text)

include hcall htext

/-- **The formula of a tree meets the limit on the nesting exactly if the tree
is higher.** -/
theorem limited_run_callTree {known : Address → CellValue → Prop} (setting : Setting)
    (caller : Address) (hcells : ∀ a ∈ t.cells, ∃ v, known a v ∧ IsSound v) :
    (run setting caller text).Limited known (maxNesting < t.height) IsSound :=
  t.limited_runWithin setting caller hcells hcall maxNesting (t.tight_tokens.tokenize_eq htext)

/-- **The formulas of cells that a tree names do not count**: a tree up to the
limit has a plain value if those cells have, and a higher one fails. -/
theorem evaluates_run_callTree {setting : Setting} {texts : Address → Option String}
    (hcells : ∀ a ∈ t.cells, ∃ v reads, PlainValue setting texts a v reads ∧ IsSound v)
    (caller : Address) :
    ∃ r reads, Evaluates setting texts (run setting caller text) r reads
      ∧ TooDeepIff (maxNesting < t.height) IsSound r := by
  have hlimited : (run setting caller text).Limited
      (fun a v => ∃ reads, PlainValue setting texts a v reads) (maxNesting < t.height) IsSound :=
    limited_run_callTree t hcall htext setting caller fun a ha => by
      obtain ⟨v, reads, hvalue, hv⟩ := hcells a ha
      exact ⟨v, ⟨reads, hvalue⟩, hv⟩
  exact hlimited.evaluates fun _ _ => id

/-- **The limit on the nesting of calls is exact.** A tree of calls, written
with any spaces, is a formula that ends with a value if at most ten calls are
nested in each other, and fails for the nesting otherwise, in whatever argument
the calls are. The value is no error. The same goes for every cell that holds
the formula and is not named in it. The cells that are named must hold values
which are no errors, however these have come about. -/
theorem perform_run_callTree (s : Sheet)
    (hcells : ∀ a ∈ t.cells, ∃ v, s.value? a = some v ∧ v.isError = false) (caller : Address) :
    (t.height ≤ maxNesting →
        ∃ v, (s.perform (run s.setting caller text)).1 = .ok v ∧ v.isError = false)
      ∧ (maxNesting < t.height →
        (s.perform (run s.setting caller text)).1 = .error .nestedTooDeep)
      ∧ ∀ a, a ∉ t.cells → s.raw? a = some (String.ofList ('=' :: text)) →
        (t.height ≤ maxNesting →
            ∃ v, (s.evaluateCell a).1 = .ok v ∧ v.isError = false)
          ∧ (maxNesting < t.height →
            (s.evaluateCell a).1 = .ok (.error FormulaError.nestedTooDeep.toCellError)) := by
  have hslots : ∀ a ∈ t.cells, ∃ v, s.slot? a = some (.evaluated v) ∧ IsSound v := by
    intro a ha
    obtain ⟨v, hvalue, hv⟩ := hcells a ha
    exact ⟨v, value?_eq_some_iff.mp hvalue, hv⟩
  have hlimited := limited_run_callTree t hcall htext s.setting caller hslots
  have hresult := hlimited.runs (runs_perform _ s) fun _ _ => id
  refine ⟨fun hheight => hresult.of_not (Nat.not_lt.mpr hheight), hresult.of, fun a ha hraw => ?_⟩
  -- the formula of a cell runs while the cell is marked, which the tree does not read
  obtain ⟨r₁, s₁, hformula, hvalue⟩ := exists_runs_evaluateCell hraw
  rw [runRaw_of_body? _ _ (body?_ofList text)] at hformula
  have hslots' : ∀ b ∈ t.cells, ∃ v,
      (s.setSlot a .evaluating).slot? b = some (.evaluated v) ∧ IsSound v := by
    intro b hb
    obtain ⟨v, hslot, hv⟩ := hslots b hb
    have hne : a ≠ b := fun heq => ha (heq ▸ hb)
    exact ⟨v, by rwa [slot?_setSlot_of_ne _ hne], hv⟩
  have hcell := (limited_run_callTree t hcall htext s.setting a hslots').runs hformula
    fun _ _ => id
  rw [hvalue]
  refine ⟨fun hheight => ?_, fun hheight => ?_⟩
  · obtain ⟨v, rfl, hv⟩ := hcell.of_not (Nat.not_lt.mpr hheight)
    exact ⟨v, rfl, hv⟩
  · rw [hcell.of hheight]
    rfl

end Limit

/-- So many calls, one in the other around the first cell. -/
def tower : Nat → CallTree
  | 0 => .leaf (.cell ['A', '1'] ⟨0, 0⟩ (by decide))
  | n + 1 => .call "METRONOME".toList (show Builtin.find? _ = some .metronome by decide)
      (Nat.le_refl 1) fun _ => tower n

/-- Ten of them are a formula with a value, and eleven are not, by themselves
and as the formula of a cell. -/
theorem perform_run_callTree_tower :
    let s := (Sheet.new 1 2 Script.plainHost).replaceRows
      [["90", String.ofList ('=' :: (tower 11).text)]]
    (∃ v, (s.perform (run s.setting ⟨0, 0⟩ (tower 10).text)).1 = .ok v ∧ v.isError = false)
      ∧ (s.perform (run s.setting ⟨0, 0⟩ (tower 11).text)).1 = .error .nestedTooDeep
      ∧ (s.evaluateCell ⟨0, 1⟩).1 = .ok (.error FormulaError.nestedTooDeep.toCellError) := by
  intro s
  have hcell : ∀ a ∈ [(⟨0, 0⟩ : Address)], ∃ v, s.value? a = some v ∧ v.isError = false := by
    have hvalue : (s.value? ⟨0, 0⟩).map CellValue.isError = some false := by decide +kernel
    exact List.forall_mem_singleton.mpr (Option.map_eq_some_iff.mp hvalue)
  have hten : (tower 10).cells = [⟨0, 0⟩] := by decide
  have heleven : (tower 11).cells = [⟨0, 0⟩] := by decide
  obtain ⟨hvalue, -, -⟩ := perform_run_callTree (tower 10) (by decide) (spacedOut_joinTokens _) s
    (hten ▸ hcell) ⟨0, 0⟩
  obtain ⟨-, hfails, hstored⟩ := perform_run_callTree (tower 11) (by decide)
    (spacedOut_joinTokens _) s (heleven ▸ hcell) ⟨0, 0⟩
  exact ⟨hvalue (by decide), hfails (by decide),
    (hstored ⟨0, 1⟩ (by decide) (by decide +kernel)).2 (by decide)⟩

end Formula

end SoundSheet
