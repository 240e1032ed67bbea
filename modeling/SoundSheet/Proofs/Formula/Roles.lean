import SoundSheet.Proofs.Formula.Arguments
import SoundSheet.Proofs.Formula.Relaying
import SoundSheet.Script.Language

/-!
# What formulas read cells for

A formula looks a cell up for one of six reasons (`Role`): as an operand, as a
text, as a number with a default, as an oscillator or trigger that is inspected,
as a step of a region, or because its code mentions the cell. What is done with
an error that is found there depends on the role, and on nothing else: as an
operand or a text it is passed on (`Plan.ReadsAs.exists_next`).

There is no other way for an error of another cell into a formula. If scripts
return no errors, a formula fails with an error of its own or with one that it
has read as an operand or a text, and never ends with an error for its value
(`traced_runRaw`).
-/

namespace SoundSheet

open SoundSheet.Script SoundSheet.Formula

/-! ## Roles -/

/-- **What a formula reads a cell for**. -/
inductive Role where
  /-- As an operand of arithmetic, or as one that stands for the cell by its
  text. -/
  | operand
  /-- As a text argument. -/
  | text
  /-- As a number argument, for which there is a default. -/
  | number
  /-- As an oscillator to be displayed or a trigger to be bound to. -/
  | inspected
  /-- As a cell of a region that is stepped through. -/
  | stepped
  /-- As a cell that the code of a script mentions. -/
  | mentioned
  deriving DecidableEq

/-- Whether the error of a cell is passed on. -/
def Role.passesOn : Role → Bool
  | operand | text => true
  | _ => false

/-- **A formula reads a cell in a role**: the cell is what it asks for next, and
this is what it does with the answer, whatever comes after. -/
inductive Plan.ReadsAs : Role → Plan CellValue → Address → Prop
  /-- An operand token names the cell. -/
  | operand {nested : List Char → Plan CellValue} {t : Token} {cell : Address}
      {k : Float → Plan CellValue} (hname : Address.parse? t = some cell) :
      ReadsAs .operand ((operand nested t).bind k) cell
  /-- The value of an operand token is a text that names the cell. -/
  | namedOperand {s : List Char} {cell : Address} {k : Float → Plan CellValue}
      (hname : Address.parse? s = some cell) :
      ReadsAs .operand
        (((Plan.lookupText s).bind fun v => .ofExcept (operandValue v)).bind k) cell
  /-- A text argument names the cell. -/
  | text {nested : List Char → Plan CellValue} {s : List Char} {cell : Address}
      {k : String → Plan CellValue} (hname : Address.parse? s = some cell) :
      ReadsAs .text ((textArgument nested s).bind k) cell
  /-- A number argument names the cell. -/
  | number {nested : List Char → Plan CellValue} {default : Float} {s : List Char}
      {cell : Address} {k : Float → Plan CellValue} (hname : Address.parse? s = some cell) :
      ReadsAs .number ((numberArgument nested default s).bind k) cell
  /-- A number argument where zero counts as missing names the cell. -/
  | nonzero {nested : List Char → Plan CellValue} {default : Float} {s : List Char}
      {cell : Address} {k : Float → Plan CellValue} (hname : Address.parse? s = some cell) :
      ReadsAs .number ((nonzeroArgument nested default s).bind k) cell
  /-- An argument names the cell and is inspected, and an error is of no use. -/
  | inspected {nested : List Char → Plan CellValue} {s : List Char} {cell : Address}
      {f : CellValue → Plan CellValue} {e : FormulaError}
      (hname : Address.parse? s = some cell) (hown : e.IsOwn)
      (hf : ∀ c, f (.error c) = .fail e) :
      ReadsAs .inspected ((argumentValue nested s).bind f) cell
  /-- The cell is in a region. -/
  | stepped {cell : Address} {k : Option Float → Plan CellValue} :
      ReadsAs .stepped (((Plan.lookup cell).bind fun v => .done v.coerceNumber).bind k) cell
  /-- The code of a script mentions the cell. -/
  | mentioned {cell : Address} {k : CellValue → Plan CellValue} :
      ReadsAs .mentioned ((Plan.peek cell).bind k) cell

/-- An argument that names a cell is the value of the cell. -/
theorem Formula.argumentValue_of_parse? {s : List Char} {cell : Address}
    (h : Address.parse? s = some cell) (nested : List Char → Plan CellValue) :
    argumentValue nested s = Plan.lookup cell := by
  rw [argumentValue, Argument.ofText, if_pos (Address.hasShape_of_parse? h)]
  dsimp only
  rw [Plan.lookupText, h]

/-- **What becomes of an error**: one that is found in the cell is passed on if
the role is one of those that do, and if the cell cannot be looked up, the
formula fails for the same reason, unless it is a script. -/
theorem Plan.ReadsAs.exists_next {role : Role} {p : Plan CellValue} {cell : Address}
    (h : p.ReadsAs role cell) :
    ∃ next, p = .read cell next
      ∧ (role.passesOn = true → ∀ c, next (.ok (.error c)) = .fail (.referenced c))
      ∧ (role ≠ .mentioned → ∀ e, next (.error e) = .fail e) := by
  cases h with
  | operand hname =>
    rw [Formula.operand, argumentValue_of_parse? hname]
    exact ⟨_, rfl, fun _ _ => rfl, fun _ _ => rfl⟩
  | namedOperand hname =>
    rw [lookupText, hname]
    exact ⟨_, rfl, fun _ _ => rfl, fun _ _ => rfl⟩
  | text hname =>
    rw [textArgument, argumentValue_of_parse? hname]
    exact ⟨_, rfl, fun _ _ => rfl, fun _ _ => rfl⟩
  | number hname =>
    rw [numberArgument, argumentValue_of_parse? hname]
    exact ⟨_, rfl, fun h => (nomatch h), fun _ _ => rfl⟩
  | nonzero hname =>
    rw [nonzeroArgument, argumentValue_of_parse? hname]
    exact ⟨_, rfl, fun h => (nomatch h), fun _ _ => rfl⟩
  | inspected hname _ _ =>
    rw [argumentValue_of_parse? hname]
    exact ⟨_, rfl, fun h => (nomatch h), fun _ _ => rfl⟩
  | stepped => exact ⟨_, rfl, fun h => (nomatch h), fun _ _ => rfl⟩
  | mentioned => exact ⟨_, rfl, fun h => (nomatch h), fun h => absurd rfl h⟩

/-! ## Plans whose errors have an origin -/

/-- **A plan whose errors have an origin**: all its reads are in a role, it
fails with an error of its own or with one in `K`, and it does not end with an
error for its value – as long as the errors that it reads in a role in which
they are passed on are in `K`. -/
inductive Plan.Traced (K : CellError → Prop) : Plan CellValue → Prop
  | done {v : CellValue} (hv : ∀ e, v ≠ .error e) : Traced K (.done v)
  | fail {e : FormulaError} (he : e.IsOwn ∨ ∃ c, e = .referenced c ∧ K c) : Traced K (.fail e)
  | read {role : Role} {cell : Address} {next : Except FormulaError CellValue → Plan CellValue}
      (hrole : (Plan.read cell next).ReadsAs role cell)
      (hvalue : ∀ v, (∀ c, v = .error c → role.passesOn = true → K c) → Traced K (next (.ok v)))
      (herror : ∀ e : FormulaError, e.IsOwn → Traced K (next (.error e))) :
      Traced K (.read cell next)
  | openBus {next : BusId → Plan CellValue} (hnext : ∀ bus, Traced K (next bus)) :
      Traced K (.openBus next)
  | emit {writes : List Write} {events : List SoundEvent} {next : Plan CellValue}
      (hnext : Traced K next) : Traced K (.emit writes events next)

/-- A part of such a plan: what comes after it does not matter. -/
def Plan.TracedPart (K : CellError → Prop) (α : Type) (p : Plan α) : Prop :=
  ∀ k : α → Plan CellValue, (∀ a, (k a).Traced K) → (p.bind k).Traced K

/-- **The plan of a call of this sort**: what is done with its value matters for
values only that are no errors. -/
def Plan.TracedCall (K : CellError → Prop) (p : Plan CellValue) : Prop :=
  ∀ k : CellValue → Plan CellValue, (∀ v, (∀ e, v ≠ .error e) → (k v).Traced K) →
    (p.bind k).Traced K

namespace Plan

variable {K : CellError → Prop} {role : Role} {cell : Address} {s : List Char}
  {f : CellValue → Plan CellValue}

section Values

variable {p : Plan CellValue}
  (hf : ∀ v, (∀ c, v = .error c → role.passesOn = true → K c) → (f v).Traced K)

include hf

theorem traced_lookupText (hp : p = (lookupText s).bind f)
    (hrole : ∀ cell, Address.parse? s = some cell → p.ReadsAs role cell) : p.Traced K := by
  subst hp
  unfold lookupText at hrole ⊢
  cases hs : Address.parse? s with
  | none => exact .fail (.inl trivial)
  | some cell =>
    simp only [hs] at hrole
    exact .read (hrole cell rfl) hf fun _ he => .fail (.inl he)

/-- **The value of an argument is put to a use** in a role. The value of a call
is no error. -/
theorem traced_argumentValue {nested : List Char → Plan CellValue}
    (hnested : ∀ s, (nested s).TracedCall K) (hp : p = (argumentValue nested s).bind f)
    (hrole : ∀ cell, Address.parse? s = some cell → p.ReadsAs role cell) : p.Traced K := by
  have hplain {v : CellValue} (hv : ∀ e, v ≠ .error e) : (f v).Traced K :=
    hf v fun c hc => absurd hc (hv c)
  unfold argumentValue at hp
  cases hs : Argument.ofText s with
  | cell name =>
    rw [hs] at hp
    obtain rfl := Argument.eq_of_ofText_eq_cell hs
    exact traced_lookupText hf hp hrole
  | number n =>
    rw [hp, hs]
    exact hplain fun _ h => nomatch h
  | call source =>
    rw [hp, hs]
    exact hnested source f fun v hv => hplain hv
  | text t =>
    rw [hp, hs]
    exact hplain fun _ h => nomatch h

end Values

theorem traced_operandValue {v : CellValue} {k : Float → Plan CellValue}
    (hv : ∀ c, v = .error c → K c) (hk : ∀ n, (k n).Traced K) :
    ((ofExcept (operandValue v)).bind k).Traced K := by
  cases v with
  | empty => exact hk _
  | number n => exact hk n
  | text s =>
    rw [operandValue]
    cases Decimal.parsePrefix? s.toList with
    | some n => exact hk n
    | none => exact .fail (.inl trivial)
  | error e => exact .fail (.inr ⟨e, rfl, hv e rfl⟩)
  | music m => exact .fail (.inl trivial)

/-- **Formulas are such plans, argument by argument.** -/
theorem goesByArguments_traced : Plan.GoesByArguments (TracedPart K) (TracedCall K) where
  done a k hk := hk a
  fail he k _ := .fail (.inl he)
  newBus k hk := .openBus hk
  bind hp hf k hk := by
    rw [bind_bind]
    exact hp _ fun a => hf a k hk
  steppedCell cell k hk := .read .stepped (fun v _ => hk _) fun _ he => .fail (.inl he)
  numberArgument hnested default s k hk :=
    traced_argumentValue (fun v _ => hk _) hnested (bind_bind _ _ k) fun _ => .number
  nonzeroArgument hnested default s k hk :=
    traced_argumentValue (fun v _ => hk _) hnested (bind_bind _ _ k) fun _ => .nonzero
  textArgument hnested s k hk := by
    refine traced_argumentValue (fun v hv => ?_) hnested (bind_bind _ _ k) fun _ => .text
    cases v with
    | error e => exact .fail (.inr ⟨e, rfl, hv e rfl rfl⟩)
    | _ => exact hk _
  operand hnested t k hk := by
    refine traced_argumentValue (fun v hv => ?_) hnested (bind_bind _ _ k) fun _ => .operand
    split
    · split
      · -- the text stands for a cell, which is an operand in turn
        refine traced_lookupText (fun v hv => ?_) (bind_bind _ _ k) fun _ => .namedOperand
        exact traced_operandValue (fun c hc => hv c hc rfl) hk
      · exact traced_operandValue (fun c hc => hv c hc rfl) hk
    · exact traced_operandValue (fun c hc => hv c hc rfl) hk
  inspected hnested _ _ hf herror s k hk := by
    obtain ⟨e, he, hfails⟩ := herror
    rw [bind_bind]
    exact traced_argumentValue (fun v _ => hf v k hk) hnested rfl fun _ hname =>
      .inspected hname he fun c => congrArg (bind · k) (hfails c)
  doneCall hv k hk := hk _ hv
  failCall he k _ := .fail (.inl he)
  bindCall hp hf k hk := by
    rw [bind_bind]
    exact hp _ fun a => hf a k hk

end Plan

/-! ## Scripts -/

/-- **A host that returns no errors**: what its scripts return is a value or no
result. -/
def Script.Host.ReturnsNoErrors (h : Host) : Prop :=
  ∀ code scope outcome, h.run code scope = .ok outcome → ∀ e, outcome.value ≠ .error e

theorem Script.returnsNoErrors_hostDrawing (draws : Address → Draws) :
    (hostDrawing draws).ReturnsNoErrors := by
  intro code scope outcome h e
  obtain ⟨d, hd⟩ := exists_value_of_runCode draws h
  rw [hd]
  cases d <;> exact fun heq => nomatch heq

variable {K : CellError → Prop} {setting : Setting}

/-- **A script** looks up the cells that its code mentions. What it fails with
is its own error. -/
theorem tracedCall_script (hhost : setting.host.ReturnsNoErrors) (call : Invocation) :
    (script setting call).TracedCall K := by
  have hparts := Plan.goesByArguments_traced (K := K)
  refine hparts.bindCall (hparts.each (fun cell => hparts.bind (fun k hk => ?_) fun _ =>
    hparts.done _) _) fun values => ?_
  · refine .read .mentioned (fun v _ => hk v) fun e _ => hk _
  · cases hrun : setting.host.run _ _ with
    | error message => exact hparts.failCall trivial
    | ok outcome => exact fun k hk => .emit (hk _ (hhost _ _ _ hrun))

/-- **The errors of a formula have an origin.** -/
theorem traced_runRaw (hhost : setting.host.ReturnsNoErrors) (caller : Address) (raw : String) :
    (runRaw setting caller raw).Traced K := by
  have hcall : (runRaw setting caller raw).TracedCall K :=
    Plan.goesByArguments_traced.runRaw (fun call _ => tracedCall_script hhost call) raw
  rw [← (runRaw setting caller raw).bind_done]
  exact hcall .done fun v hv => .done hv

end SoundSheet
