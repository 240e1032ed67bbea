import SoundSheet.Proofs.Formula.Arguments

/-!
# What formulas leave behind

Formulas are put together of lookups, new buses and scripts. So a property of
plans that plans made of parts have if the parts do (`Plan.Composes`) holds of
the run of every formula, as soon as it holds of scripts
(`Plan.Composes.runRaw`), to whatever use the values of arguments are put.

One such property is told here: nothing is left behind but what a script that
has run well leaves, on behalf of the cell (`leavesOnly_runRaw`). A formula that
is itself a script leaves that behind as the last thing it does: it has looked
up all that it wants by then (`emitsLast_runRaw`).
-/

namespace SoundSheet

open SoundSheet.Script SoundSheet.Formula

/-! ## Properties that go by the parts -/

/-- **A property of plans that goes by their parts.** -/
structure Plan.Composes (P : (α : Type) → Plan α → Prop) : Prop where
  /-- Plans that are done have it. -/
  done : ∀ {α : Type} (a : α), P α (.done a)
  /-- Plans that fail have it. -/
  fail : ∀ {α : Type} (e : FormulaError), P α (.fail e)
  /-- Lookups have it. -/
  lookup : ∀ cell, P CellValue (Plan.lookup cell)
  /-- New buses have it. -/
  newBus : P BusId Plan.newBus
  /-- Plans that are put together of plans with it have it. -/
  bind : ∀ {α β : Type} {p : Plan α} {f : α → Plan β}, P α p → (∀ a, P β (f a)) → P β (p.bind f)

namespace Plan.Composes

variable {P : (α : Type) → Plan α → Prop} (h : Plan.Composes P)

include h

theorem ofExcept {α : Type} (r : Except FormulaError α) : P α (Plan.ofExcept r) := by
  cases r with
  | ok a => exact h.done a
  | error e => exact h.fail e

theorem lookupText (s : List Char) : P CellValue (Plan.lookupText s) := by
  unfold Plan.lookupText
  cases Address.parse? s with
  | some cell => exact h.lookup cell
  | none => exact h.fail _

/-- The value of an argument has the property, if calls in it have. -/
theorem argumentValue {nested : List Char → Plan CellValue} (hnested : ∀ s, P CellValue (nested s))
    (s : List Char) : P CellValue (argumentValue nested s) := by
  unfold Formula.argumentValue
  cases Argument.ofText s with
  | cell name => exact h.lookupText name
  | number n => exact h.done _
  | call source => exact hnested source
  | text t => exact h.done _

/-- **A property that goes by the parts goes by the arguments**, to whatever use
they are put. -/
theorem goesByArguments : Plan.GoesByArguments P (P CellValue) where
  done := h.done
  fail _ := h.fail _
  newBus := h.newBus
  bind := h.bind
  steppedCell cell := h.bind (h.lookup cell) fun _ => h.done _
  numberArgument hnested _ s := h.bind (h.argumentValue hnested s) fun _ => h.done _
  nonzeroArgument hnested _ s := h.bind (h.argumentValue hnested s) fun _ => h.done _
  textArgument hnested s := by
    refine h.bind (h.argumentValue hnested s) fun v => ?_
    cases v with
    | error e => exact h.fail _
    | _ => exact h.done _
  operand hnested t := by
    refine h.bind (h.argumentValue hnested t) fun v => ?_
    split
    · split
      · exact h.bind (h.lookupText _) fun v => h.ofExcept _
      · exact h.ofExcept _
    · exact h.ofExcept _
  inspected hnested _ _ hf _ s := h.bind (h.argumentValue hnested s) hf
  doneCall _ := h.done _
  failCall _ := h.fail _
  bindCall := h.bind

/-- **The run of every raw text has the property**, if scripts of the cell
do. -/
theorem runRaw {setting : Setting} {caller : Address}
    (hscript : ∀ call : Invocation, call.caller = caller → P CellValue (script setting call))
    (raw : String) : P CellValue (runRaw setting caller raw) :=
  h.goesByArguments.runRaw hscript raw

end Plan.Composes

/-! ## What is left behind -/

/-- **What a script leaves behind** that has run well in a setting on behalf of
a cell. -/
def Formula.Setting.Leaves (setting : Setting) (caller : Address) (writes : List Write)
    (events : List SoundEvent) : Prop :=
  ∃ code values outcome,
    setting.host.run code ⟨caller, values, setting.tempo, setting.time⟩ = .ok outcome
      ∧ outcome.writes = writes ∧ outcome.events = events

/-- **A plan that leaves only some things behind**. -/
inductive Plan.LeavesOnly (E : List Write → List SoundEvent → Prop) :
    (α : Type) → Plan α → Prop
  | done {α : Type} (a : α) : LeavesOnly E α (.done a)
  | fail {α : Type} (e : FormulaError) : LeavesOnly E α (.fail e)
  | read {α : Type} {cell : Address} {next : Except FormulaError CellValue → Plan α}
      (hnext : ∀ answer, LeavesOnly E α (next answer)) : LeavesOnly E α (.read cell next)
  | openBus {α : Type} {next : BusId → Plan α} (hnext : ∀ bus, LeavesOnly E α (next bus)) :
      LeavesOnly E α (.openBus next)
  | emit {α : Type} {writes : List Write} {events : List SoundEvent} {next : Plan α}
      (hleft : E writes events) (hnext : LeavesOnly E α next) :
      LeavesOnly E α (.emit writes events next)

section LeavesOnly

variable {E : List Write → List SoundEvent → Prop}

theorem Plan.LeavesOnly.bind {α β : Type} {p : Plan α} {f : α → Plan β} (h : p.LeavesOnly E)
    (hf : ∀ a, (f a).LeavesOnly E) : (p.bind f).LeavesOnly E := by
  induction h with
  | done a => exact hf a
  | fail e => exact .fail e
  | read _ ih => exact .read ih
  | openBus _ ih => exact .openBus ih
  | emit hleft _ ih => exact .emit hleft ih

theorem Plan.composes_leavesOnly : Plan.Composes (Plan.LeavesOnly E) where
  done := .done
  fail := .fail
  lookup cell := .read fun answer => by
    cases answer with
    | ok v => exact .done v
    | error e => exact .fail e
  newBus := .openBus .done
  bind := .bind

theorem Plan.leavesOnly_peek (cell : Address) : (Plan.peek cell).LeavesOnly E := by
  refine .read fun answer => ?_
  cases answer with
  | ok v => exact .done v
  | error e => exact .done _

end LeavesOnly

/-- **A plan that ends when it has left something behind**. -/
inductive Plan.EmitsLast {α : Type} : Plan α → Prop
  | done (a : α) : EmitsLast (.done a)
  | fail (e : FormulaError) : EmitsLast (.fail e)
  | read {cell : Address} {next : Except FormulaError CellValue → Plan α}
      (hnext : ∀ answer, EmitsLast (next answer)) : EmitsLast (.read cell next)
  | openBus {next : BusId → Plan α} (hnext : ∀ bus, EmitsLast (next bus)) :
      EmitsLast (.openBus next)
  | emit (writes : List Write) (events : List SoundEvent) (r : Except FormulaError α) :
      EmitsLast (.emit writes events (.ofExcept r))

/-- A plan that leaves nothing behind may come before one. -/
theorem Plan.EmitsLast.bind {α β : Type} {p : Plan α} {f : α → Plan β}
    (h : p.LeavesOnly fun _ _ => False) (hf : ∀ a, (f a).EmitsLast) : (p.bind f).EmitsLast := by
  induction h with
  | done a => exact hf a
  | fail e => exact .fail e
  | read _ ih => exact .read ih
  | openBus _ ih => exact .openBus ih
  | emit hleft _ _ => exact hleft.elim

namespace Formula

open SoundSheet.Text

/-- The cells that a script names are looked up before anything is left
behind. -/
theorem leavesOnly_mentions {E : List Write → List SoundEvent → Prop} (cells : List Address) :
    (Plan.each (fun cell => (Plan.peek cell).bind fun v => .done (cell, v)) cells).LeavesOnly E :=
  Plan.composes_leavesOnly.goesByArguments.each
    (fun cell => (Plan.leavesOnly_peek cell).bind fun _ => .done _) cells

/-- **A script leaves behind what it leaves if it runs well**. -/
theorem leavesOnly_script (setting : Setting) (call : Invocation) :
    (script setting call).LeavesOnly (setting.Leaves call.caller) := by
  refine (leavesOnly_mentions _).bind fun values => ?_
  cases houtcome : setting.host.run _ _ with
  | error message => exact .fail _
  | ok outcome => exact .emit ⟨_, _, outcome, houtcome, rfl, rfl⟩ (.done _)

/-- **The formula of a cell leaves behind what its scripts do**, and nothing
else. -/
theorem leavesOnly_runRaw (setting : Setting) (caller : Address) (raw : String) :
    (runRaw setting caller raw).LeavesOnly (setting.Leaves caller) :=
  Plan.composes_leavesOnly.runRaw (fun call hcaller => hcaller ▸ leavesOnly_script setting call) raw

/-- **A raw text that is a script**: its formula is a call of one. -/
def IsScript (raw : String) : Prop :=
  ∃ body name rest, body? raw = some body ∧ tokenize body = name :: rest
    ∧ Builtin.find? name = some .script

/-- A script ends when it has left something behind. -/
theorem emitsLast_script (setting : Setting) (call : Invocation) :
    (script setting call).EmitsLast := by
  refine Plan.EmitsLast.bind (leavesOnly_mentions _) fun values => ?_
  cases setting.host.run _ _ with
  | error message => exact .fail _
  | ok outcome => exact .emit _ _ (.ok outcome.value)

/-- **A formula that is a script ends when it has left something behind.** -/
theorem emitsLast_runRaw (setting : Setting) (caller : Address) {raw : String}
    (h : IsScript raw) : (runRaw setting caller raw).EmitsLast := by
  obtain ⟨body, name, rest, hbody, htokens, hname⟩ := h
  rw [runRaw_of_body? setting caller hbody, run, maxNesting, runWithin, htokens]
  dsimp only
  rw [hname]
  exact emitsLast_script setting _

end Formula

end SoundSheet
