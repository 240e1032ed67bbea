import SoundSheet.Script.Host

/-!
# The run of a formula as a plan

Evaluating a formula asks the sheet for the values of cells, opens buses and
leaves behind what scripts have asked for. None of this needs the sheet to be
present: a **plan** is the tree of these requests, where each request names what
becomes of every answer. The same plan can then be carried out in different
ways – with remembered values, or by evaluating every cell afresh – and a
statement about two ways of evaluation is a statement about two readers of one
tree.
-/

namespace SoundSheet

open SoundSheet.Script

/-- **A run of a formula**, up to the answers of the sheet. -/
inductive Plan (α : Type) where
  /-- The run ends with a value. -/
  | done (a : α)
  /-- The run ends with an error. -/
  | fail (e : FormulaError)
  /-- Asks for the value of a cell; the answer may be that it cannot be had. -/
  | read (cell : Address) (next : Except FormulaError CellValue → Plan α)
  /-- Asks for a new bus. -/
  | openBus (next : BusId → Plan α)
  /-- Leaves behind raw texts to store and audio events. -/
  | emit (writes : List Write) (events : List SoundEvent) (next : Plan α)

namespace Plan

/-- Runs a plan and then the one that its value chooses. -/
def bind {α β : Type} : Plan α → (α → Plan β) → Plan β
  | done a, f => f a
  | fail e, _ => fail e
  | read cell next, f => read cell fun answer => (next answer).bind f
  | openBus next, f => openBus fun bus => (next bus).bind f
  | emit writes events next, f => emit writes events (next.bind f)

instance : Monad Plan where
  pure := done
  bind := bind

/-- A plan that ends as a result says. -/
def ofExcept {α : Type} : Except FormulaError α → Plan α
  | .ok a => done a
  | .error e => fail e

/-- **Looks up a cell**; if the value cannot be had, the run fails for the same
reason. -/
def lookup (cell : Address) : Plan CellValue :=
  read cell ofExcept

/-- Asks for the value of a cell; a value that cannot be had is an error
value. -/
def peek (cell : Address) : Plan CellValue :=
  read cell fun
    | .ok v => done v
    | .error e => done (.error e.toCellError)

/-- A new bus. -/
def newBus : Plan BusId :=
  openBus done

/-- Looks up a cell by its name. -/
def lookupText (s : List Char) : Plan CellValue :=
  match Address.parse? s with
  | some cell => lookup cell
  | none => fail (.invalidAddress (String.ofList s))

/-- Runs a plan for each member of a list, in order. -/
def each {α β : Type} (f : α → Plan β) : List α → Plan (List β)
  | [] => done []
  | a :: rest => (f a).bind fun b => (each f rest).bind fun bs => done (b :: bs)

/-! ## Laws of sequencing -/

theorem bind_done {α : Type} (p : Plan α) : p.bind done = p := by
  induction p with
  | done a => rfl
  | fail e => rfl
  | read cell next ih => exact congrArg (read cell) (funext ih)
  | openBus next ih => exact congrArg openBus (funext ih)
  | emit writes events next ih => exact congrArg (emit writes events) ih

theorem bind_bind {α β γ : Type} (p : Plan α) (f : α → Plan β) (g : β → Plan γ) :
    (p.bind f).bind g = p.bind fun a => (f a).bind g := by
  induction p with
  | done a => rfl
  | fail e => rfl
  | read cell next ih => exact congrArg (read cell) (funext ih)
  | openBus next ih => exact congrArg openBus (funext ih)
  | emit writes events next ih => exact congrArg (emit writes events) ih

end Plan

end SoundSheet
