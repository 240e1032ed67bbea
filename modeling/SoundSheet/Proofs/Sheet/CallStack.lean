import Mathlib.Data.List.Nodup
import Mathlib.Logic.Relation
import SoundSheet.Proofs.Sheet.Run

/-!
# The stack of active cells

Evaluation descends from a cell to the cells that its formula asks for. Here
this descent is spelled out, step by step, without any bound on it. A `Descent`
holds the cells that are being computed, innermost first, each with what is left
of its formula; below them the plan that started it all; and the sheet. A step
carries out one request. A request for an unevaluated cell marks the cell and
puts it on the stack; a formula that has ended stores its value and leaves the
stack, and the request that was waiting for it is made again, to find the value
in place.

The marked cells bound the descent. Every cell on the stack is marked and stands
there once (`Descent.Stacked`), since only unevaluated cells are put there. So
the stack is never higher than the grid has cells, and the descent ends with
what `perform` says (`terminates_perform`).
-/

namespace SoundSheet

open SoundSheet.Script SoundSheet.Formula SoundSheet.Sheet

/-! ## Steps -/

/-- **What a plan does next** on a sheet. -/
inductive Advance (α : Type) where
  /-- It has ended. -/
  | ended (r : Except FormulaError α)
  /-- It goes on with another plan on another sheet. -/
  | moved (p : Plan α) (s : Sheet)
  /-- It waits for a cell with a raw text that is not evaluated yet. -/
  | waits (cell : Address) (raw : String)

/-- The next thing that a plan does. -/
def Plan.advance {α : Type} : Plan α → Sheet → Advance α
  | done a, _ => .ended (.ok a)
  | fail e, _ => .ended (.error e)
  | read cell next, s =>
    match s.grid.get? cell with
    | none => .moved (next (.error (.outOfBounds cell))) s
    | some ⟨raw, slot⟩ =>
      match slot with
      | .evaluated v => .moved (next (.ok v)) s
      | .evaluating => .moved (next (.error (.circularReference cell))) s
      | .unevaluated => .waits cell raw
  | openBus next, s => .moved (next s.board.fresh) { s with board := s.board.openBus }
  | emit writes events next, s =>
    .moved next { s with writes := s.writes ++ writes, events := s.events ++ events }

/-- The cell that a plan asks for next. -/
def Plan.asks {α : Type} : Plan α → Option Address
  | read cell _ => some cell
  | _ => none

/-- **A cell that is being computed**, with what is left of its formula. -/
structure Activation where
  /-- The cell. -/
  cell : Address
  /-- What is left of its formula. -/
  plan : Plan CellValue

/-- **A state of the descent**. -/
structure Descent (α : Type) where
  /-- The cells that are being computed, innermost first. -/
  stack : List Activation
  /-- What is left of the plan that asked for them. -/
  base : Plan α
  /-- The sheet. -/
  sheet : Sheet

namespace Descent

variable {α : Type}

/-- A plan that is about to start on a sheet. -/
def start (p : Plan α) (s : Sheet) : Descent α :=
  ⟨[], p, s⟩

/-- Puts a cell with a raw text on the stack. -/
def push (d : Descent α) (cell : Address) (raw : String) : Descent α :=
  { d with
    stack := ⟨cell, runRaw d.sheet.setting cell raw⟩ :: d.stack
    sheet := d.sheet.setSlot cell .evaluating }

/-- **One step**. There is none after the plan below the stack has ended. -/
def step (d : Descent α) : Option (Descent α) :=
  match d.stack with
  | [] =>
    match d.base.advance d.sheet with
    | .ended _ => none
    | .moved p s => some { d with base := p, sheet := s }
    | .waits cell raw => some (d.push cell raw)
  | ⟨cell, plan⟩ :: rest =>
    match plan.advance d.sheet with
    | .ended r =>
      some { d with stack := rest, sheet := d.sheet.setSlot cell (.evaluated (valueOf r)) }
    | .moved p s => some { d with stack := ⟨cell, p⟩ :: rest, sheet := s }
    | .waits cell' raw => some (d.push cell' raw)

/-- **Any number of steps**. -/
abbrev Steps : Descent α → Descent α → Prop :=
  Relation.ReflTransGen fun d d' => d.step = some d'

/-- The cells that are being computed. -/
def active (d : Descent α) : List Address :=
  d.stack.map Activation.cell

/-- **The cell that is asked for next**, by the formula on top of the stack, or
else by the plan below it. -/
def asks (d : Descent α) : Option Address :=
  match d.stack with
  | [] => d.base.asks
  | top :: _ => top.plan.asks

/-! ## Marks -/

/-- **The cells on the stack are marked, and each stands there once.** -/
structure Stacked (d : Descent α) : Prop where
  /-- They are marked. -/
  marked : ∀ a ∈ d.active, d.sheet.slot? a = some .evaluating
  /-- Each stands there once. -/
  nodup : d.active.Nodup

theorem stacked_start (p : Plan α) (s : Sheet) : (start p s).Stacked :=
  ⟨fun _ h => absurd h List.not_mem_nil, List.nodup_nil⟩

end Descent

section Read

variable {α : Type} {cell : Address} {next : Except FormulaError CellValue → Plan α} {s : Sheet}

theorem Plan.advance_outside (h : s.slot? cell = none) :
    (read cell next).advance s = .moved (next (.error (.outOfBounds cell))) s := by
  rw [advance, Option.map_eq_none_iff.mp h]

theorem Plan.advance_marked (h : s.slot? cell = some .evaluating) :
    (read cell next).advance s = .moved (next (.error (.circularReference cell))) s := by
  obtain ⟨raw, -, hget⟩ := get?_of_slot? h
  rw [advance, hget]

theorem Plan.advance_known {v : CellValue} (h : s.slot? cell = some (.evaluated v)) :
    (read cell next).advance s = .moved (next (.ok v)) s := by
  obtain ⟨raw, -, hget⟩ := get?_of_slot? h
  rw [advance, hget]

theorem Plan.advance_waits (h : s.slot? cell = some .unevaluated) {raw : String}
    (hraw : s.raw? cell = some raw) : (read cell next).advance s = .waits cell raw := by
  obtain ⟨raw', hraw', hget⟩ := get?_of_slot? h
  obtain rfl : raw = raw' := Option.some.inj (hraw.symm.trans hraw')
  rw [advance, hget]

end Read

/-- **What a plan does next**: it ends, it goes on with the same cells, or it
waits for an unevaluated cell that it asks for. -/
theorem Plan.advance_inv {α : Type} (p : Plan α) (s : Sheet) :
    (∃ r, p = .ofExcept r ∧ p.advance s = .ended r)
      ∨ (∃ p' s', p.advance s = .moved p' s' ∧ s'.grid = s.grid)
      ∨ ∃ cell raw, p.asks = some cell ∧ p.advance s = .waits cell raw
          ∧ s.slot? cell = some .unevaluated ∧ s.raw? cell = some raw := by
  cases p with
  | done a => exact .inl ⟨.ok a, rfl, rfl⟩
  | fail e => exact .inl ⟨.error e, rfl, rfl⟩
  | openBus next => exact .inr (.inl ⟨_, _, rfl, rfl⟩)
  | emit writes events next => exact .inr (.inl ⟨_, _, rfl, rfl⟩)
  | read cell next =>
    cases hcell : s.slot? cell with
    | none => exact .inr (.inl ⟨_, _, advance_outside hcell, rfl⟩)
    | some slot =>
      cases slot with
      | evaluated v => exact .inr (.inl ⟨_, _, advance_known hcell, rfl⟩)
      | evaluating => exact .inr (.inl ⟨_, _, advance_marked hcell, rfl⟩)
      | unevaluated =>
        obtain ⟨raw, hraw, -⟩ := get?_of_slot? hcell
        exact .inr (.inr ⟨cell, raw, rfl, advance_waits hcell hraw, hcell, hraw⟩)

/-- **How a plan goes on**: with what it has for the answer. -/
theorem Plan.advance_eq_moved {α : Type} {p p' : Plan α} {s s' : Sheet}
    (h : p.advance s = .moved p' s') :
    (∃ cell next answer, p = .read cell next ∧ p' = next answer)
      ∨ (∃ next bus, p = .openBus next ∧ p' = next bus)
      ∨ ∃ writes events, p = .emit writes events p' := by
  cases p with
  | done a => exact nomatch h
  | fail e => exact nomatch h
  | openBus next =>
    cases h
    exact .inr (.inl ⟨_, _, rfl, rfl⟩)
  | emit writes events next =>
    cases h
    exact .inr (.inr ⟨_, _, rfl⟩)
  | read cell next =>
    refine .inl ?_
    cases hcell : s.slot? cell with
    | none =>
      rw [advance_outside hcell] at h
      cases h
      exact ⟨_, _, _, rfl, rfl⟩
    | some slot =>
      cases slot with
      | evaluated v =>
        rw [advance_known hcell] at h
        cases h
        exact ⟨_, _, _, rfl, rfl⟩
      | evaluating =>
        rw [advance_marked hcell] at h
        cases h
        exact ⟨_, _, _, rfl, rfl⟩
      | unevaluated =>
        obtain ⟨raw, hraw, -⟩ := get?_of_slot? hcell
        rw [advance_waits hcell hraw] at h
        exact nomatch h

namespace Descent

variable {α : Type} {d d' : Descent α}

/-- **What a step does**: the plan below an empty stack goes on, or the formula
on top does; a cell that is asked for is put on the stack; or the formula on top
has ended, and what it has ended with is stored. -/
theorem step_inv (h : d.step = some d') :
    (∃ p s, d.stack = [] ∧ s.grid = d.sheet.grid ∧ d' = ⟨[], p, s⟩)
      ∨ (∃ top rest p s, d.stack = top :: rest ∧ top.plan.advance d.sheet = .moved p s
          ∧ s.grid = d.sheet.grid ∧ d' = ⟨⟨top.cell, p⟩ :: rest, d.base, s⟩)
      ∨ (∃ cell raw, d.asks = some cell ∧ d.sheet.slot? cell = some .unevaluated
          ∧ d.sheet.raw? cell = some raw ∧ d' = d.push cell raw)
      ∨ ∃ top rest r, d.stack = top :: rest ∧ top.plan = .ofExcept r
          ∧ d' = ⟨rest, d.base, d.sheet.setSlot top.cell (.evaluated (valueOf r))⟩ := by
  obtain ⟨stack, base, s⟩ := d
  unfold step at h
  cases stack with
  | nil =>
    rcases base.advance_inv s with ⟨r, -, hr⟩ | ⟨p, s', hp, hgrid⟩
      | ⟨cell, raw, hasks, hwaits, hcell, hraw⟩
    · simp only [hr] at h
      exact nomatch h
    · simp only [hp] at h
      cases h
      exact .inl ⟨p, s', rfl, hgrid, rfl⟩
    · simp only [hwaits] at h
      cases h
      exact .inr (.inr (.inl ⟨cell, raw, hasks, hcell, hraw, rfl⟩))
  | cons top rest =>
    rcases top.plan.advance_inv s with ⟨r, hplan, hr⟩ | ⟨p, s', hp, hgrid⟩
      | ⟨cell, raw, hasks, hwaits, hcell, hraw⟩
    · simp only [hr] at h
      cases h
      exact .inr (.inr (.inr ⟨top, rest, r, rfl, hplan, rfl⟩))
    · simp only [hp] at h
      cases h
      exact .inr (.inl ⟨top, rest, p, s', rfl, hp, hgrid, rfl⟩)
    · simp only [hwaits] at h
      cases h
      exact .inr (.inr (.inl ⟨cell, raw, hasks, hcell, hraw, rfl⟩))

/-- **What a step does to stack and grid**: it leaves both alone, puts an
unevaluated cell on the stack and marks it, or takes a cell from the stack and
gives it a value. -/
theorem step_cases (h : d.step = some d') :
    (d'.active = d.active ∧ d'.sheet.grid = d.sheet.grid)
      ∨ (∃ cell, d.sheet.slot? cell = some .unevaluated ∧ d'.active = cell :: d.active
          ∧ d'.sheet = d.sheet.setSlot cell .evaluating)
      ∨ ∃ cell v, d.active = cell :: d'.active
          ∧ d'.sheet = d.sheet.setSlot cell (.evaluated v) := by
  rcases step_inv h with ⟨p, s, hstack, hgrid, rfl⟩ | ⟨top, rest, p, s, hstack, -, hgrid, rfl⟩
    | ⟨cell, raw, -, hcell, -, rfl⟩ | ⟨top, rest, r, hstack, -, rfl⟩
  · exact .inl ⟨by rw [active, active, hstack], hgrid⟩
  · exact .inl ⟨by rw [active, active, hstack]; rfl, hgrid⟩
  · exact .inr (.inl ⟨cell, hcell, rfl, rfl⟩)
  · exact .inr (.inr ⟨top.cell, valueOf r, by rw [active, active, hstack]; rfl, rfl⟩)

/-- **A step keeps the stack marked and without repetition.** -/
theorem Stacked.step (hd : d.Stacked) (h : d.step = some d') : d'.Stacked := by
  rcases step_cases h with ⟨hactive, hgrid⟩ | ⟨cell, hcell, hactive, hsheet⟩
    | ⟨cell, v, hactive, hsheet⟩
  · refine ⟨fun a ha => ?_, hactive ▸ hd.nodup⟩
    rw [slot?, hgrid]
    exact hd.marked a (hactive ▸ ha)
  · -- a cell on the stack is marked, so the one that is put there is a new one
    have hfresh : cell ∉ d.active := by
      intro hmem
      rw [hd.marked cell hmem] at hcell
      cases hcell
    refine ⟨fun a ha => ?_, hactive ▸ List.nodup_cons.mpr ⟨hfresh, hd.nodup⟩⟩
    rw [hsheet]
    rcases List.mem_cons.mp (hactive ▸ ha) with rfl | ha
    · exact slot?_setSlot_self _ hcell
    · have hne : cell ≠ a := fun heq => hfresh (heq ▸ ha)
      rw [slot?_setSlot_of_ne _ hne]
      exact hd.marked a ha
  · -- the cell that leaves the stack was there once, so the mark it loses is not missed
    have hnodup : (cell :: d'.active).Nodup := hactive ▸ hd.nodup
    obtain ⟨hgone, hnodup⟩ := List.nodup_cons.mp hnodup
    refine ⟨fun a ha => ?_, hnodup⟩
    have hne : cell ≠ a := fun heq => hgone (heq ▸ ha)
    rw [hsheet, slot?_setSlot_of_ne _ hne]
    exact hd.marked a (by rw [hactive]; exact List.mem_cons_of_mem _ ha)

theorem Stacked.steps (hd : d.Stacked) (h : Steps d d') : d'.Stacked := by
  induction h with
  | refl => exact hd
  | tail _ hstep ih => exact ih.step hstep

/-- The grid keeps its shape. -/
theorem addresses_of_step (h : d.step = some d') :
    d'.sheet.grid.addresses = d.sheet.grid.addresses := by
  rcases step_cases h with ⟨-, hgrid⟩ | ⟨cell, -, -, hsheet⟩ | ⟨cell, v, -, hsheet⟩
  · rw [hgrid]
  · rw [hsheet, Grid.addresses, rows_setSlot, cols_setSlot, ← Grid.addresses]
  · rw [hsheet, Grid.addresses, rows_setSlot, cols_setSlot, ← Grid.addresses]

theorem addresses_of_steps (h : Steps d d') :
    d'.sheet.grid.addresses = d.sheet.grid.addresses := by
  induction h with
  | refl => rfl
  | tail _ hstep ih => exact (addresses_of_step hstep).trans ih

/-- **A stack of marked cells is not higher than the grid has cells.** -/
theorem Stacked.length_active_le (hd : d.Stacked) :
    d.active.length ≤ d.sheet.grid.addresses.length := by
  refine (hd.nodup.subperm fun a ha => ?_).length_le
  rw [mem_addresses_iff, ← isSome_slot?, hd.marked a ha]
  rfl

/-! ## Termination -/

/-- **A descent that ends** with a result and a sheet. Whatever is reached on
the way, no cell is active twice, and no more cells are active than the grid
has. -/
structure Terminates (d : Descent α) (r : Except FormulaError α) (t : Sheet) : Prop where
  /-- It comes to an end with the result. -/
  steps : Steps d ⟨[], .ofExcept r, t⟩
  /-- There is no step from the end. -/
  ended : step ⟨[], Plan.ofExcept r, t⟩ = none
  /-- No cell is computed again while it is being computed. -/
  nodup : ∀ d', Steps d d' → d'.active.Nodup
  /-- No more cells are active than the grid has. -/
  bounded : ∀ d', Steps d d' → d'.active.length ≤ d.sheet.grid.rows * d.sheet.grid.cols

theorem step_ended (r : Except FormulaError α) (t : Sheet) :
    step ⟨[], .ofExcept r, t⟩ = none := by
  cases r <;> rfl

theorem Stacked.terminates (hd : d.Stacked) {r : Except FormulaError α} {t : Sheet}
    (h : Steps d ⟨[], .ofExcept r, t⟩) : d.Terminates r t := by
  refine ⟨h, step_ended r t, fun d' hd' => (hd.steps hd').nodup, fun d' hd' => ?_⟩
  calc d'.active.length
    _ ≤ d'.sheet.grid.addresses.length := (hd.steps hd').length_active_le
    _ = d.sheet.grid.addresses.length := by rw [addresses_of_steps hd']
    _ = d.sheet.grid.rows * d.sheet.grid.cols := d.sheet.grid.length_addresses

/-! ## Runs as descents -/

/-- **The place of a plan in a descent**: below the stack, or on top of it. -/
inductive Place (α : Type) : Type → Type 1 where
  /-- Below an empty stack. -/
  | bottom : Place α α
  /-- On top of a stack, as the plan of a cell. -/
  | top (cell : Address) (rest : List Activation) (base : Plan α) : Place α CellValue

/-- The state with a plan at a place. -/
def Place.put {α β : Type} : Place α β → Plan β → Sheet → Descent α
  | .bottom, p, s => ⟨[], p, s⟩
  | .top cell rest base, p, s => ⟨⟨cell, p⟩ :: rest, base, s⟩

/-- The place above a plan that waits for a cell. -/
def Place.above {α β : Type} : Place α β → Plan β → Address → Place α CellValue
  | .bottom, p, cell => .top cell [] p
  | .top cell rest base, p, cell' => .top cell' (⟨cell, p⟩ :: rest) base

section Place

variable {β : Type} (K : Place α β) {p : Plan β} {s : Sheet}

theorem Place.step_moved {p' : Plan β} {s' : Sheet} (h : p.advance s = .moved p' s') :
    (K.put p s).step = some (K.put p' s') := by
  cases K with
  | bottom =>
    rw [put, step]
    simp only [h]
    rfl
  | top cell rest base =>
    rw [put, step]
    simp only [h]
    rfl

theorem Place.step_waits {cell : Address} {raw : String} (h : p.advance s = .waits cell raw) :
    (K.put p s).step
      = some ((K.above p cell).put (runRaw s.setting cell raw) (s.setSlot cell .evaluating)) := by
  cases K with
  | bottom =>
    rw [put, step]
    simp only [h]
    rfl
  | top cell' rest base =>
    rw [put, step]
    simp only [h]
    rfl

theorem Place.step_ended (cell : Address) (r : Except FormulaError CellValue) :
    ((K.above p cell).put (.ofExcept r) s).step
      = some (K.put p (s.setSlot cell (.evaluated (valueOf r)))) := by
  cases K <;> cases r <;> rfl

/-- **A request for an unevaluated cell**: its formula is run on top, the value
is stored, and then the request is made again, to find the value in place. -/
theorem Place.steps_fresh {cell : Address} {next : Except FormulaError CellValue → Plan β}
    {raw : String} {s₁ : Sheet} {r₁ : Except FormulaError CellValue}
    (hcell : s.slot? cell = some .unevaluated) (hraw : s.raw? cell = some raw)
    (hmark : s₁.slot? cell = some .evaluating)
    (hformula : Steps
      ((K.above (.read cell next) cell).put (runRaw s.setting cell raw)
        (s.setSlot cell .evaluating))
      ((K.above (.read cell next) cell).put (.ofExcept r₁) s₁)) :
    Steps (K.put (.read cell next) s)
      (K.put (next (.ok (valueOf r₁))) (s₁.setSlot cell (.evaluated (valueOf r₁)))) := by
  have hstored := slot?_setSlot_self (.evaluated (valueOf r₁)) hmark
  have hpop := K.step_ended (p := .read cell next) (s := s₁) cell r₁
  exact .head (K.step_waits (Plan.advance_waits hcell hraw)) (hformula.trans
    (.head hpop (.single (K.step_moved (Plan.advance_known hstored)))))

end Place

end Descent

/-- **A run is a descent**, at whatever place its plan stands. -/
theorem Runs.steps {β : Type} {p : Plan β} {s t : Sheet} {r : Except FormulaError β}
    (h : Runs p s r t) : ∀ {α : Type} (K : Descent.Place α β),
      Descent.Steps (K.put p s) (K.put (.ofExcept r) t) := by
  induction h with
  | done a s => exact fun K => .refl
  | fail e s => exact fun K => .refl
  | outside hcell _ ih =>
    exact fun K => .head (K.step_moved (Plan.advance_outside hcell)) (ih K)
  | marked hcell _ ih =>
    exact fun K => .head (K.step_moved (Plan.advance_marked hcell)) (ih K)
  | known hcell _ ih =>
    exact fun K => .head (K.step_moved (Plan.advance_known hcell)) (ih K)
  | @fresh _ cell _ _ s₁ _ _ _ r₁ hcell hraw hformula _ ihformula ihnext =>
    intro α K
    have hmark := (hformula.fills.slot?_evaluating_iff cell).mpr (slot?_setSlot_self _ hcell)
    exact (K.steps_fresh hcell hraw hmark (ihformula _)).trans (ihnext K)
  | openBus _ ih => exact fun K => .head (K.step_moved rfl) (ih K)
  | emit _ ih => exact fun K => .head (K.step_moved rfl) (ih K)

/-- **Every plan terminates on every sheet**, with what `perform` says. -/
theorem terminates_perform {α : Type} (p : Plan α) (s : Sheet) :
    (Descent.start p s).Terminates (s.perform p).1 (s.perform p).2 :=
  (Descent.stacked_start p s).terminates ((runs_perform p s).steps .bottom)

end SoundSheet
