import SoundSheet.Proofs.Formula.Nesting
import SoundSheet.Proofs.Sheet.CallStack
import SoundSheet.Proofs.Sheet.Pass

/-!
# Evaluation terminates

All that a sheet can be asked to evaluate is a descent, or a few of them one
after the other: the lookup of a cell, the reading of a region, a formula that
is in no cell, a cell that is computed again, and a pass over all cells. Each of
them terminates with what the sheet says, with no more cells active at any time
than the grid has. The passes of `evaluateAll` are counted by `Rounds`, and
there are at most nine of them.
-/

namespace SoundSheet

open SoundSheet.Script SoundSheet.Formula SoundSheet.Sheet

/-! ## Passes as descents -/

/-- The plan that asks for some cells in order, whatever the answers. -/
def Plan.visit : List Address → Plan Unit
  | [] => done ()
  | a :: cells => read a fun _ => visit cells

/-- **A request for a cell goes on with the answer of a lookup.** -/
theorem Runs.read {α : Type} {a : Address} {s t u : Sheet}
    {answer : Except FormulaError CellValue} (h : Runs (.read a Plan.ofExcept) s answer t)
    {next : Except FormulaError CellValue → Plan α} {r : Except FormulaError α}
    (hnext : Runs (next answer) t r u) : Runs (.read a next) s r u := by
  cases h with
  | outside hcell hend => cases hend; exact .outside hcell hnext
  | marked hcell hend => cases hend; exact .marked hcell hnext
  | known hcell hend => cases hend; exact .known hcell hnext
  | fresh hcell hraw hformula hend => cases hend; exact .fresh hcell hraw hformula hnext

theorem runs_visit (cells : List Address) :
    ∀ s : Sheet, Runs (Plan.visit cells) s (.ok ()) (s.visit cells) := by
  induction cells with
  | nil => exact fun s => .done () s
  | cons a cells ih => exact fun s => (runs_lookup a s).read (ih _)

namespace Descent

/-- **A pass as a descent**: all cells of a sheet without values, row by row. -/
def ofPass (s : Sheet) : Descent Unit :=
  start (Plan.visit s.grid.addresses) s.forgetValues

/-- **The descent that computes a cell**, whether or not it has a value, and
reads it then. -/
def ofCell (a : Address) (s : Sheet) : Descent CellValue :=
  match s.raw? a with
  | some raw => (start (Plan.lookup a) s).push a raw
  | none => start (Plan.lookup a) s

/-- **A pass terminates.** -/
theorem terminates_ofPass (s : Sheet) : (ofPass s).Terminates (.ok ()) s.pass := by
  have hrun : Runs (Plan.visit s.grid.addresses) s.forgetValues (.ok ()) s.pass :=
    runs_visit s.grid.addresses s.forgetValues
  exact (stacked_start _ _).terminates (hrun.steps .bottom)

/-- **The computation of a cell terminates.** -/
theorem terminates_ofCell (a : Address) (s : Sheet) :
    (ofCell a s).Terminates (s.evaluateCell a).1 (s.evaluateCell a).2 := by
  rw [ofCell, evaluateCell]
  cases hget : s.grid.get? a with
  | none =>
    have hcell : s.slot? a = none := by rw [slot?, hget]; rfl
    rw [(s.slot?_eq_none_iff a).mp hcell]
    exact (stacked_start _ _).terminates ((Runs.outside hcell (.fail _ s)).steps .bottom)
  | some content =>
    obtain ⟨raw, slot⟩ := content
    have hraw : s.raw? a = some raw := by rw [raw?, hget]; rfl
    have hcell : s.slot? a = some slot := by rw [slot?, hget]; rfl
    have hmark : (s.setSlot a .evaluating).slot? a = some .evaluating :=
      slot?_setSlot_self _ hcell
    have hstacked : ((start (Plan.lookup a) s).push a raw).Stacked := by
      refine ⟨fun b hb => ?_, List.nodup_singleton a⟩
      rw [List.mem_singleton.mp hb]
      exact hmark
    obtain ⟨r₁, s₁, hformula, hcompute⟩ := exists_runs_computeWith a raw s
    rw [hraw]
    dsimp only
    rw [hcompute]
    have hstored := slot?_setSlot_self (.evaluated (valueOf r₁))
      ((hformula.fills.slot?_evaluating_iff a).mpr hmark)
    -- the cell is computed on the stack, and then read
    have hpop := (Place.bottom (α := CellValue)).step_ended (p := Plan.lookup a) (s := s₁) a r₁
    have hread : Runs (Plan.lookup a) _ (.ok (valueOf r₁)) _ := .known hstored (.done _ _)
    exact hstacked.terminates ((hformula.steps (.top a [] (Plan.lookup a))).trans
      (.head hpop (hread.steps .bottom)))

end Descent

/-! ## Rounds of passes -/

/-- **So many passes one after the other**, each a descent that terminates and
whose writes are stored before the next one. The last one has writes that change
nothing, or its writes are dropped. -/
inductive Rounds : Nat → Sheet → Sheet → Prop
  /-- The writes of the last pass change nothing. -/
  | settled {s u t : Sheet} (hpass : (Descent.ofPass s).Terminates (.ok ()) u)
      (hstore : u.storeWrites = (false, t)) : Rounds 1 s t
  /-- The writes of the last pass are dropped. -/
  | dropped {s u : Sheet} (hpass : (Descent.ofPass s).Terminates (.ok ()) u) :
      Rounds 1 s { u with writes := [] }
  /-- The writes of the first pass change the sheet. -/
  | again {n : Nat} {s u v t : Sheet} (hpass : (Descent.ofPass s).Terminates (.ok ()) u)
      (hstore : u.storeWrites = (true, v)) (hrest : Rounds n v t) : Rounds (n + 1) s t

theorem exists_rounds_settle (n : Nat) :
    ∀ s : Sheet, ∃ k, k ≤ n + 1 ∧ Rounds k s (settle n s) := by
  induction n with
  | zero => exact fun s => ⟨1, Nat.le_refl _, .dropped (Descent.terminates_ofPass s)⟩
  | succ n ih =>
    intro s
    rw [settle]
    cases hstore : s.pass.storeWrites with
    | mk changed t =>
      cases changed with
      | false => exact ⟨1, by omega, .settled (Descent.terminates_ofPass s) hstore⟩
      | true =>
        obtain ⟨k, hk, hrounds⟩ := ih t
        exact ⟨k + 1, by omega, .again (Descent.terminates_ofPass s) hstore hrounds⟩

/-! ## All evaluation -/

/-- **Evaluation terminates on every sheet**, whatever its raw texts, its slots
and its host. A lookup, the reading of a region, the computation of a cell and a
formula that is in no cell are descents that come to an end with what the sheet
says, and so is every pass; on the way no cell is computed again while it is
being computed, and no more cells are active than the grid has. All cells are
evaluated in at most `maxPasses + 1` passes. And within one formula no builtin
is run at a depth above `maxNesting`: the run does not depend on how builtins
would be run there. -/
theorem evaluation_terminates (s : Sheet) :
    (∀ a, (Descent.start (Plan.lookup a) s).Terminates (s.lookup a).1 (s.lookup a).2)
      ∧ (∀ region traversal, (Descent.start (readRegion region traversal) s).Terminates
          (s.extract region traversal).1 (s.extract region traversal).2)
      ∧ (∀ a, (Descent.ofCell a s).Terminates (s.evaluateCell a).1 (s.evaluateCell a).2)
      ∧ (∀ text, ∃ r t,
          (Descent.start (run s.setting ⟨0, 0⟩ (formulaBody text)) s).Terminates r t
            ∧ s.evaluateFormula text = (valueOf r, { t with writes := [] }))
      ∧ (∃ n, n ≤ maxPasses + 1 ∧ Rounds n s s.evaluateAll)
      ∧ ∀ caller (handlers : Nat → Handler),
          (∀ depth, 0 < depth → depth ≤ maxNesting →
            handlers depth = builtinHandler s.setting) →
          runCounting caller handlers 0 = run s.setting caller := by
  refine ⟨fun a => ?_, fun region traversal => terminates_perform _ s,
    fun a => Descent.terminates_ofCell a s, fun text => ?_, exists_rounds_settle maxPasses s,
    fun caller handlers h => runCounting_eq_run s.setting caller h⟩
  · rw [lookup_eq_perform]
    exact terminates_perform _ s
  · exact ⟨_, _, terminates_perform _ s, rfl⟩

end SoundSheet
