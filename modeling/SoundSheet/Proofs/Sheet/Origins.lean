import SoundSheet.Proofs.Formula.Roles
import SoundSheet.Proofs.Sheet.Chronicle
import SoundSheet.Proofs.Sheet.Refusals

/-!
# Where errors come from

After a pass some cells hold errors. Here every error is traced to its origin. A
formula that has failed has raised the error itself, or it has been answered
with the error of another cell that it has asked for as an operand or a text.
The cell holds this very error, for what a failed evaluation is turned into
keeps kind and wording, and what an error that is read is turned into back again
is the same.

So along a chain of cells that each read the one before as an operand or a text,
the error of the first cell is the error of all (`errors_keep_origin`). What is
said of the plans of formulas (`Plan.Traced`) is carried along the steps of the
pass here.
-/

namespace SoundSheet

open SoundSheet.Script SoundSheet.Formula SoundSheet.Sheet

/-! ## Answers -/

/-- **What an answer tells**: the value that the cell has, or why there is
none. -/
def Sheet.Tells (s : Sheet) (cell : Address) : Except FormulaError CellValue → Prop
  | .ok v => s.slot? cell = some (.evaluated v)
  | .error e => e.IsOwn

/-- **A plan whose lookup is answered** goes on with the answer. -/
theorem Plan.happening_answered {α : Type} {reader reader' : Option Address} {p : Plan α}
    {s : Sheet} {cell : Address} {answer : Except FormulaError CellValue}
    (h : p.happening reader s = some (.answered reader' cell answer)) :
    reader' = reader ∧ s.Tells cell answer
      ∧ ∃ next, p = .read cell next ∧ p.advance s = .moved (next answer) s := by
  cases p with
  | done a => cases h
  | fail e => cases h
  | openBus next => cases h
  | emit writes events next => cases h
  | read cell' next =>
    rw [happening] at h
    cases hget : s.grid.get? cell' with
    | none =>
      rw [hget] at h
      cases h
      exact ⟨rfl, trivial, next, rfl, by rw [advance, hget]⟩
    | some content =>
      obtain ⟨raw, slot⟩ := content
      rw [hget] at h
      cases slot with
      | unevaluated => cases h
      | evaluating =>
        cases h
        exact ⟨rfl, trivial, next, rfl, by rw [advance, hget]⟩
      | evaluated v =>
        cases h
        exact ⟨rfl, by rw [Tells, slot?, hget]; rfl, next, rfl, by rw [advance, hget]⟩

namespace Descent

variable {α : Type} {d d' d₀ : Descent α} {a b : Address} {plan : Plan CellValue}
  {rest : List Activation}

/-- What happens when the formula on top of the stack goes on is what its plan
does. -/
theorem happening_of_moved (hstack : d.stack = ⟨a, plan⟩ :: rest) {p : Plan CellValue} {s : Sheet}
    (hmoved : plan.advance d.sheet = .moved p s) :
    d.happening = plan.happening (some a) d.sheet := by
  rw [happening, hstack]
  dsimp only
  rw [hmoved]

/-- **A lookup that is answered on behalf of a cell** is one of its formula, on
top of the stack. -/
theorem exists_stack_of_answered {answer : Except FormulaError CellValue}
    (h : d.happening = some (.answered (some a) b answer)) :
    ∃ next rest, d.stack = ⟨a, .read b next⟩ :: rest ∧ d.sheet.Tells b answer
      ∧ (Plan.read b next).advance d.sheet = .moved (next answer) d.sheet := by
  obtain ⟨stack, base, s⟩ := d
  rw [happening] at h
  cases stack with
  | nil =>
    obtain ⟨hreader, -⟩ := Plan.happening_answered h
    cases hreader
  | cons top rest =>
    obtain ⟨cell, plan⟩ := top
    dsimp only at h
    split at h
    · cases h
    · obtain ⟨hreader, htells, next, rfl, hmoved⟩ := Plan.happening_answered h
      obtain rfl := Option.some.inj hreader
      exact ⟨next, rest, rfl, htells, hmoved⟩

/-! ## What formulas have ended with -/

/-- **A value that is stored in a descent** is what the formula of the cell has
ended with. -/
theorem exists_ended (hd : Steps d₀ d) {v : CellValue}
    (hbefore : ∀ v, d₀.sheet.slot? a ≠ some (.evaluated v))
    (hv : d.sheet.slot? a = some (.evaluated v)) :
    ∃ d' r rest, Steps d₀ d' ∧ d'.stack = ⟨a, .ofExcept r⟩ :: rest ∧ valueOf r = v := by
  induction hd with
  | refl => exact absurd hv (hbefore v)
  | @tail d d' hsteps hstep ih =>
    rcases step_inv hstep with ⟨p, s, -, hgrid, rfl⟩ | ⟨top, rest, p, s, -, -, hgrid, rfl⟩
      | ⟨cell, raw, -, -, -, rfl⟩ | ⟨⟨cell, plan⟩, rest, r, hstack, rfl, rfl⟩
    · exact ih (by rwa [slot?_congr hgrid] at hv)
    · exact ih (by rwa [slot?_congr hgrid] at hv)
    · exact ih (slot?_evaluated_of_mark hv)
    · rcases slot?_evaluated_of_store hv with ⟨rfl, rfl⟩ | ⟨-, hv⟩
      · exact ⟨d, r, rest, hsteps, hstack, rfl⟩
      · exact ih hv

end Descent

/-! ## Passes -/

namespace Sheet

variable {s : Sheet} {a b : Address} {role : Role} {answer : Except FormulaError CellValue}

/-- **A cell is answered** what it has asked another cell for, in a role, at
some moment of a pass. -/
def Answered (s : Sheet) (role : Role) (a b : Address) (answer : Except FormulaError CellValue) :
    Prop :=
  ∃ d plan rest, Descent.Steps (Descent.ofPass s) d ∧ d.stack = ⟨a, plan⟩ :: rest
    ∧ plan.ReadsAs role b ∧ d.happening = some (.answered (some a) b answer)

/-- **A cell takes the value of another one** as an operand or a text in a
pass. -/
def Takes (s : Sheet) (a b : Address) : Prop :=
  ∃ role v, role.passesOn = true ∧ s.Answered role a b (.ok v)

/-- **The formula of a cell raises an error** in a pass, rather than failing
with one that it has read. -/
def Raises (s : Sheet) (a : Address) (e : FormulaError) : Prop :=
  e.IsOwn ∧ ∃ d rest, Descent.Steps (Descent.ofPass s) d ∧ d.stack = ⟨a, .fail e⟩ :: rest

theorem stacked_ofPass (s : Sheet) : (Descent.ofPass s).Stacked :=
  Descent.stacked_start _ _

/-- **A cell is answered with the value that the other cell ends with.** -/
theorem Answered.value?_eq {v : CellValue} (h : s.Answered role a b (.ok v)) :
    s.pass.value? b = some v := by
  obtain ⟨d, plan, rest, hd, -, -, hhappens⟩ := h
  obtain ⟨next, rest, -, htells, -⟩ := Descent.exists_stack_of_answered hhappens
  exact value?_eq_some_iff.mpr ((s.stacked_ofPass.steps hd).slot?_evaluated_steps
    ((Descent.terminates_ofPass s).steps_end hd) htells)

/-- **A formula that fails on an answer** leaves the error to its cell. -/
theorem Answered.value?_of_fails {e : FormulaError} (h : s.Answered role a b answer)
    (hfails : ∀ next, (Plan.read b next).ReadsAs role b → next answer = .fail e) :
    s.pass.value? a = some (.error e.toCellError) := by
  obtain ⟨d, plan, rest, hd, hstack, hrole, hhappens⟩ := h
  obtain ⟨next, rest', hstack', -, hmoved⟩ := Descent.exists_stack_of_answered hhappens
  obtain ⟨hact, -⟩ := List.cons.inj (hstack.symm.trans hstack')
  obtain rfl : plan = .read b next := congrArg Activation.plan hact
  rw [hfails next hrole] at hmoved
  exact value?_eq_some_iff.mpr ((s.stacked_ofPass.steps hd).stored_of_fails hstack hmoved hd
    (Descent.terminates_ofPass s))

/-- **An error that is read as an operand or a text is stored as it is.** -/
theorem Answered.value?_of_passesOn {c : CellError} (h : s.Answered role a b (.ok (.error c)))
    (hrole : role.passesOn = true) : s.pass.value? a = some (.error c) := by
  refine h.value?_of_fails (e := .referenced c) fun next hread => ?_
  obtain ⟨next', hplan, hpasses, -⟩ := hread.exists_next
  obtain ⟨-, rfl⟩ := Plan.read.inj hplan
  exact hpasses hrole c

/-- **A lookup that fails is an error of the cell that makes it**, unless a
script does. -/
theorem Answered.value?_of_refused {e : FormulaError} (h : s.Answered role a b (.error e))
    (hrole : role ≠ .mentioned) : s.pass.value? a = some (.error e.toCellError) := by
  refine h.value?_of_fails fun next hread => ?_
  obtain ⟨next', hplan, -, hrefused⟩ := hread.exists_next
  obtain ⟨-, rfl⟩ := Plan.read.inj hplan
  exact hrefused hrole e

/-- An error of another cell that a cell is answered with as an operand or a
text. -/
def ReadError (s : Sheet) (a : Address) (c : CellError) : Prop :=
  ∃ role b, role.passesOn = true ∧ s.Answered role a b (.ok (.error c))

/-- **The errors of all formulas on the stack have an origin**, at every moment
of a pass. -/
theorem traced_pass (hhost : s.host.ReturnsNoErrors) {d : Descent Unit}
    (hd : Descent.Steps (Descent.ofPass s) d) :
    ∀ act ∈ d.stack, act.plan.Traced (s.ReadError act.cell) := by
  refine Descent.forall_plans (Q := fun cell p => p.Traced (s.ReadError cell))
    (fun cell raw _ => traced_runRaw hhost cell raw)
    (fun {d cell p rest p' s'} hd hstack hmoved h => ?_) hd fun _ hact => nomatch hact
  obtain ⟨e, he, hmoves⟩ := (p.happening_of_advance (some cell)).1 p' s' hmoved
  have hhappens : d.happening = some e := (Descent.happening_of_moved hstack hmoved).trans he
  cases hmoves with
  | known hb =>
    cases h with
    | @read role b _ hrole hvalue _ =>
      refine hvalue _ fun c hc hpasses => ⟨role, _, hpasses, d, _, rest, hd, hstack, hrole, ?_⟩
      rw [hhappens, hc]
  | refused e =>
    obtain ⟨-, hown, -⟩ := Plan.happening_answered he
    cases h with
    | read _ _ herror => exact herror e hown
  | opened => cases h with | openBus hnext => exact hnext _
  | emitted => cases h with | emit hnext => exact hnext

/-- **The error of a cell** is one that its formula raises, or one that it has
been answered with as an operand or a text. -/
theorem raises_or_answered (hhost : s.host.ReturnsNoErrors) {c : CellError}
    (h : s.pass.value? a = some (.error c)) :
    (∃ e, s.Raises a e ∧ e.toCellError = c)
      ∨ ∃ role b, role.passesOn = true ∧ s.Answered role a b (.ok (.error c)) := by
  have hbefore (v : CellValue) : s.forgetValues.slot? a ≠ some (.evaluated v) := by
    rw [s.slot?_forgetValues]
    intro hv
    obtain ⟨raw, -, heq⟩ := Option.map_eq_some_iff.mp hv
    exact nomatch heq
  obtain ⟨d, r, rest, hd, hstack, hvalue⟩ :=
    Descent.exists_ended (Descent.terminates_ofPass s).steps hbefore (value?_eq_some_iff.mp h)
  have htraced := traced_pass hhost hd ⟨a, .ofExcept r⟩ (hstack ▸ List.mem_cons_self)
  cases r with
  | ok v =>
    -- the value of the formula would be the error itself
    obtain rfl : v = .error c := hvalue
    cases htraced with
    | done hv => exact absurd rfl (hv c)
  | error e =>
    obtain rfl : e.toCellError = c := CellValue.error.inj hvalue
    cases htraced with
    | fail he =>
      rcases he with hown | ⟨c, rfl, hread⟩
      · exact .inl ⟨e, ⟨hown, d, rest, hd, hstack⟩, rfl⟩
      · exact .inr hread

/-- **Every lookup of a formula that is answered** is one in a role. -/
theorem exists_answered (hhost : s.host.ReturnsNoErrors) {d : Descent Unit}
    (hd : Descent.Steps (Descent.ofPass s) d)
    (h : d.happening = some (.answered (some a) b answer)) :
    ∃ role, s.Answered role a b answer := by
  obtain ⟨next, rest, hstack, -, -⟩ := Descent.exists_stack_of_answered h
  have htraced := traced_pass hhost hd ⟨a, .read b next⟩ (hstack ▸ List.mem_cons_self)
  cases htraced with
  | @read role _ _ hrole _ _ => exact ⟨role, d, _, rest, hd, hstack, hrole, h⟩

/-- **Errors keep their origin along chains of references.** In a pass over any
sheet whose scripts return no errors, the error of a cell has been raised by its
own formula, or it is that of a cell whose value the formula has been answered
with as an operand or a text. Every lookup that is answered is in a role. An
error that is read as an operand or a text is stored as it is, and so is the
reason why a cell cannot be looked up. So if each cell of a chain takes the
value of the one before as an operand or a text, and the first one is an error,
all of them are that error. -/
theorem errors_keep_origin (s : Sheet) (hhost : s.host.ReturnsNoErrors) :
    (∀ a c, s.pass.value? a = some (.error c) →
        (∃ e, s.Raises a e ∧ e.toCellError = c)
          ∨ ∃ role b, role.passesOn = true ∧ s.Answered role a b (.ok (.error c))
              ∧ s.pass.value? b = some (.error c))
      ∧ (∀ d a b answer, Descent.Steps (Descent.ofPass s) d →
          d.happening = some (.answered (some a) b answer) → ∃ role, s.Answered role a b answer)
      ∧ (∀ role a b c, role.passesOn = true → s.Answered role a b (.ok (.error c)) →
          s.pass.value? a = some (.error c))
      ∧ (∀ role a b e, role ≠ .mentioned → s.Answered role a b (.error e) →
          s.pass.value? a = some (.error e.toCellError))
      ∧ ∀ first rest c, (first :: rest).IsChain (fun b a => s.Takes a b) →
          s.pass.value? first = some (.error c) →
            ∀ a ∈ rest, s.pass.value? a = some (.error c) := by
  refine ⟨fun a c h => ?_, fun d a b answer hd h => exists_answered hhost hd h,
    fun role a b c hrole h => h.value?_of_passesOn hrole,
    fun role a b e hrole h => h.value?_of_refused hrole, fun first rest c hchain hfirst => ?_⟩
  · refine (raises_or_answered hhost h).imp_right ?_
    rintro ⟨role, b, hrole, hanswered⟩
    exact ⟨role, b, hrole, hanswered, hanswered.value?_eq⟩
  · induction rest generalizing first with
    | nil => exact fun a ha => nomatch ha
    | cons second rest ih =>
      obtain ⟨⟨role, v, hrole, hanswered⟩, hrest⟩ := List.isChain_cons_cons.mp hchain
      obtain rfl : v = .error c := Option.some.inj (hanswered.value?_eq.symm.trans hfirst)
      have hsecond := hanswered.value?_of_passesOn hrole
      exact List.forall_mem_cons.mpr ⟨hsecond, ih second hrest hsecond⟩

/-- Cells that read each other in a row, behind a text that is no note. -/
def failing : Sheet :=
  (Sheet.new 0 0 plainHost).setRows [["=CHORD(x)", "=A1+1", "=CONCAT(\"-\", B1)"]]

/-- All of them end with the error of the first one. -/
theorem errors_keep_origin_failing :
    failing.host.ReturnsNoErrors
      ∧ [⟨0, 0⟩, ⟨0, 1⟩, ⟨0, 2⟩].IsChain (fun b a => failing.Takes a b)
      ∧ ∀ a ∈ [⟨0, 1⟩, ⟨0, 2⟩],
          failing.pass.value? a = some (.error ⟨.parse, "Invalid note name: X"⟩) := by
  have hhost : failing.host.ReturnsNoErrors := returnsNoErrors_hostDrawing evenDraws
  -- both formulas have just been entered when they are answered
  have hoperand : (runRaw failing.setting ⟨0, 1⟩ "=A1+1").ReadsAs .operand ⟨0, 0⟩ := by
    have hplan : runRaw failing.setting ⟨0, 1⟩ "=A1+1"
        = ((((operand (runWithin failing.setting ⟨0, 1⟩ 9) ['A', '1']).bind _).bind _).bind
          Machine.finish).bind _ := rfl
    rw [hplan, Plan.bind_bind, Plan.bind_bind, Plan.bind_bind]
    exact .operand rfl
  have htext : (runRaw failing.setting ⟨0, 2⟩ "=CONCAT(\"-\", B1)").ReadsAs .text ⟨0, 1⟩ := by
    have hplan : runRaw failing.setting ⟨0, 2⟩ "=CONCAT(\"-\", B1)"
        = (((textArgument (runWithin failing.setting ⟨0, 2⟩ 9) ['B', '1']).bind _).bind _).bind
          _ := rfl
    rw [hplan, Plan.bind_bind, Plan.bind_bind]
    exact .text rfl
  have hfirst : failing.Takes ⟨0, 1⟩ ⟨0, 0⟩ :=
    ⟨.operand, .error ⟨.parse, "Invalid note name: X"⟩, rfl, _, _, [],
      (Descent.chronicle_history 4 _).steps, rfl, hoperand, by decide +kernel⟩
  have hsecond : failing.Takes ⟨0, 2⟩ ⟨0, 1⟩ :=
    ⟨.text, .error ⟨.parse, "Invalid note name: X"⟩, rfl, _, _, [],
      (Descent.chronicle_history 8 _).steps, rfl, htext, by decide +kernel⟩
  have hchain : [⟨0, 0⟩, ⟨0, 1⟩, ⟨0, 2⟩].IsChain fun b a => failing.Takes a b :=
    .cons_cons hfirst (.cons_cons hsecond (List.isChain_singleton _))
  obtain ⟨-, -, -, -, hall⟩ := errors_keep_origin failing hhost
  exact ⟨hhost, hchain, hall _ _ _ hchain (by decide +kernel)⟩

end Sheet

end SoundSheet
