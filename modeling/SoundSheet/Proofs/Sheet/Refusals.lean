import Mathlib.Data.List.Chain
import SoundSheet.Proofs.Formula.ScriptFree
import SoundSheet.Proofs.Sheet.Termination

/-!
# Lookups that are refused

A lookup is refused if the cell is marked, that is, if it is being computed. On
a grid without scripts nothing else happens to a cell that is being computed
than that it waits for the cell above it on the stack, so at every moment of a
pass the stack is a chain of reads (`Descent.Coherent`). A refused lookup closes
the chain to a cycle. And since no formula on the stack goes on after it, the
cell that has made it gets the circular reference for its value, and keeps it
(`Descent.Coherent.stored_of_refuses`).
-/

namespace SoundSheet

open SoundSheet.Script SoundSheet.Formula SoundSheet.Sheet

/-! ## Refusals -/

/-- **A circular reference is reported for marked cells only**, and for those
always. -/
theorem Sheet.lookup_eq_circularReference_iff (s : Sheet) (y x : Address) :
    (s.lookup y).1 = .error (.circularReference x) ↔ y = x ∧ s.slot? x = some .evaluating := by
  have hrun := runs_lookup y s
  generalize (s.lookup y).1 = answer at hrun ⊢
  generalize (s.lookup y).2 = t at hrun
  have hne : ∀ {slot : Option Slot}, s.slot? y = slot → slot ≠ some .evaluating →
      ¬(y = x ∧ s.slot? x = some .evaluating) := by
    rintro slot hslot hnot ⟨rfl, hmark⟩
    exact hnot (hslot.symm.trans hmark)
  cases hrun with
  | outside hcell hnext =>
    cases hnext
    exact iff_of_false (fun h => nomatch h) (hne hcell fun h => nomatch h)
  | marked hcell hnext =>
    cases hnext
    refine ⟨fun h => ?_, fun h => by rw [h.1]⟩
    cases h
    exact ⟨rfl, hcell⟩
  | known hcell hnext =>
    cases hnext
    exact iff_of_false (fun h => nomatch h) (hne hcell fun h => nomatch h)
  | fresh hcell _ _ hnext =>
    cases hnext
    exact iff_of_false (fun h => nomatch h) (hne hcell fun h => nomatch h)

/-- A strict plan stays strict. -/
theorem Plan.Strict.moved {α : Type} {p p' : Plan α} {s s' : Sheet} (h : p.Strict)
    (hmoved : p.advance s = .moved p' s') : p'.Strict := by
  rcases p.advance_eq_moved hmoved with ⟨cell, next, answer, rfl, rfl⟩ | ⟨next, bus, rfl, rfl⟩
    | ⟨writes, events, rfl⟩
  · cases h with
    | read hrefused hnext =>
      cases answer with
      | ok v => exact hnext v
      | error e => exact hrefused e ▸ .fail e
  · cases h with
    | openBus hnext => exact hnext bus
  · cases h

namespace Descent

variable {α : Type} {d d' : Descent α}

/-- **The lookup that is made next is refused**, for a circular reference at
`x`. -/
def Refuses (d : Descent α) (x : Address) : Prop :=
  ∃ y, d.asks = some y ∧ (d.sheet.lookup y).1 = .error (.circularReference x)

/-- **The formula of a cell reads another cell**: the one is being computed and
asks for the other. -/
def Reads (d : Descent α) (a b : Address) : Prop :=
  ∃ act ∈ d.stack, act.cell = a ∧ act.plan.asks = some b

theorem refuses_iff {x : Address} :
    d.Refuses x ↔ d.asks = some x ∧ d.sheet.slot? x = some .evaluating := by
  refine ⟨fun h => ?_, fun h => ⟨x, h.1, (lookup_eq_circularReference_iff ..).mpr ⟨rfl, h.2⟩⟩⟩
  obtain ⟨y, hasks, hlookup⟩ := h
  obtain ⟨rfl, hmark⟩ := (lookup_eq_circularReference_iff ..).mp hlookup
  exact ⟨hasks, hmark⟩

/-! ## Steps -/

/-- A step is a function, so of two states that are reached one is reached from
the other. -/
theorem steps_total {d₁ d₂ : Descent α} (h₁ : Steps d d₁) (h₂ : Steps d d₂) :
    Steps d₁ d₂ ∨ Steps d₂ d₁ :=
  Relation.ReflTransGen.total_of_right_unique
    (fun _ _ _ h h' => Option.some.inj (h.symm.trans h')) h₁ h₂

/-- **A descent that ends passes through every state that can be reached.** -/
theorem Terminates.steps_end {r : Except FormulaError α} {t : Sheet} (h : d.Terminates r t)
    (hsteps : Steps d d') : Steps d' ⟨[], .ofExcept r, t⟩ := by
  rcases steps_total hsteps h.steps with hend | hback
  · exact hend
  · rcases hback.cases_head with rfl | ⟨d₁, hstep, -⟩
    · exact .refl
    · exact nomatch h.ended.symm.trans hstep

/-- A value stays where it is stored. -/
theorem Stacked.slot?_evaluated_step (hd : d.Stacked) (h : d.step = some d') {a : Address}
    {v : CellValue} (ha : d.sheet.slot? a = some (.evaluated v)) :
    d'.sheet.slot? a = some (.evaluated v) := by
  rcases step_cases h with ⟨-, hgrid⟩ | ⟨cell, hcell, -, hsheet⟩ | ⟨cell, w, hactive, hsheet⟩
  · rw [slot?, hgrid]
    exact ha
  · have hne : cell ≠ a := by
      rintro rfl
      rw [ha] at hcell
      cases hcell
    rw [hsheet, slot?_setSlot_of_ne _ hne]
    exact ha
  · have hne : cell ≠ a := by
      rintro rfl
      rw [hd.marked cell (hactive ▸ List.mem_cons_self)] at ha
      cases ha
    rw [hsheet, slot?_setSlot_of_ne _ hne]
    exact ha

theorem Stacked.slot?_evaluated_steps (hd : d.Stacked) (h : Steps d d') {a : Address}
    {v : CellValue} (ha : d.sheet.slot? a = some (.evaluated v)) :
    d'.sheet.slot? a = some (.evaluated v) := by
  induction h with
  | refl => exact ha
  | tail hsteps hstep ih => exact (hd.steps hsteps).slot?_evaluated_step hstep ih

/-- **A formula that fails at its next step** leaves the error to its cell. -/
theorem Stacked.stored_of_fails (hd : d.Stacked) {cell : Address} {plan : Plan CellValue}
    {rest : List Activation} {e : FormulaError} (hstack : d.stack = ⟨cell, plan⟩ :: rest)
    (hfails : plan.advance d.sheet = .moved (.fail e) d.sheet) {d₀ : Descent α}
    (hsteps : Steps d₀ d) {r : Except FormulaError α} {t : Sheet} (hend : d₀.Terminates r t) :
    t.slot? cell = some (.evaluated (.error e.toCellError)) := by
  obtain ⟨stack, base, s⟩ := d
  obtain rfl : stack = ⟨cell, plan⟩ :: rest := hstack
  let K : Place α CellValue := .top cell rest base
  let stored : Descent α := ⟨rest, base, s.setSlot cell (.evaluated (.error e.toCellError))⟩
  have hstores : (K.put (.fail e) s).step = some stored := rfl
  have hto : Steps (K.put plan s) stored := .head (K.step_moved hfails) (.single hstores)
  have hcell : s.slot? cell = some .evaluating := hd.marked cell List.mem_cons_self
  exact (hd.steps hto).slot?_evaluated_steps (hend.steps_end (hsteps.trans hto))
    (slot?_setSlot_self _ hcell)

/-! ## The chain of reads -/

/-- **The stack is a chain of reads**: the marked cells are those on it, each
asks for the one above it, and none goes on after a lookup that fails. -/
structure Coherent (texts : Address → Option String) (d : Descent α) : Prop where
  /-- The cells on the stack are marked, and each stands there once. -/
  stacked : d.Stacked
  /-- No other cells are marked. -/
  active_of_marked : ∀ a, d.sheet.slot? a = some .evaluating → a ∈ d.active
  /-- Each asks for the one above it. -/
  chained : d.stack.IsChain fun upper lower => lower.plan.asks = some upper.cell
  /-- Their formulas are strict. -/
  strict : ∀ act ∈ d.stack, act.plan.Strict
  /-- The raw texts stay. -/
  raw_eq : ∀ a, d.sheet.raw? a = texts a

namespace Coherent

variable {texts : Address → Option String}

/-- **A sheet at rest is where a descent starts.** -/
theorem start (p : Plan α) {s : Sheet} (hs : s.AtRest) : (start p s).Coherent s.raw? :=
  ⟨stacked_start p s, fun a ha => absurd ha (hs a), List.isChain_nil,
    fun _ h => absurd h List.not_mem_nil, fun _ => rfl⟩

/-- **A step keeps the stack a chain of reads**, if there are no scripts. -/
theorem step (hfree : ∀ a raw, texts a = some raw → ScriptFree raw) (hd : d.Coherent texts)
    (h : d.step = some d') : d'.Coherent texts := by
  have hstacked := hd.stacked.step h
  rcases step_inv h with ⟨p, s, hstack, hgrid, rfl⟩ | ⟨top, rest, p, s, hstack, hmoved, hgrid, rfl⟩
    | ⟨cell, raw, hasks, hcell, hraw, rfl⟩ | ⟨top, rest, r, hstack, hplan, rfl⟩
  · have hslot := slot?_congr hgrid
    have hraw := raw?_congr hgrid
    refine ⟨hstacked, fun a ha => ?_, List.isChain_nil,
      fun _ h => absurd h List.not_mem_nil, fun a => ?_⟩
    · have hmem := hd.active_of_marked a (hslot ▸ ha)
      rw [active, hstack] at hmem
      exact hmem
    · exact (congrFun hraw a).trans (hd.raw_eq a)
  · have hslot := slot?_congr hgrid
    have hraw := raw?_congr hgrid
    have hchained := hd.chained
    have hstrict := hd.strict
    rw [hstack] at hchained hstrict
    refine ⟨hstacked, fun a ha => ?_, ?_, fun act hact => ?_, fun a => ?_⟩
    · have hmem := hd.active_of_marked a (hslot ▸ ha)
      rw [active, hstack] at hmem
      exact hmem
    · cases rest with
      | nil => exact List.isChain_singleton _
      | cons lower rest =>
        rw [List.isChain_cons_cons] at hchained ⊢
        exact hchained
    · rcases List.mem_cons.mp hact with rfl | hact
      · exact (hstrict top List.mem_cons_self).moved hmoved
      · exact hstrict act (List.mem_cons_of_mem _ hact)
    · exact (congrFun hraw a).trans (hd.raw_eq a)
  · refine ⟨hstacked, fun a ha => ?_, ?_, fun act hact => ?_, fun a => ?_⟩
    · show a ∈ cell :: d.active
      by_cases hne : cell = a
      · exact hne ▸ List.mem_cons_self
      · refine List.mem_cons_of_mem _ (hd.active_of_marked a ?_)
        rwa [← slot?_setSlot_of_ne .evaluating hne]
    · show (_ :: d.stack).IsChain _
      have hchained := hd.chained
      cases hstack : d.stack with
      | nil => exact List.isChain_singleton _
      | cons lower rest =>
        rw [asks, hstack] at hasks
        rw [hstack] at hchained
        exact List.isChain_cons_cons.mpr ⟨hasks, hchained⟩
    · rcases List.mem_cons.mp hact with rfl | hact
      · have htext := (hd.raw_eq cell).symm.trans hraw
        exact (direct_runRaw rfl rfl cell (hfree cell raw htext)).strict
      · exact hd.strict act hact
    · exact (raw?_setSlot ..).trans (hd.raw_eq a)
  · have hchained := hd.chained
    have hstrict := hd.strict
    rw [hstack] at hchained hstrict
    refine ⟨hstacked, fun a ha => ?_, hchained.tail, fun act hact => ?_, fun a => ?_⟩
    · have hmark : d.sheet.slot? top.cell = some .evaluating := by
        refine hd.stacked.marked _ ?_
        rw [active, hstack]
        exact List.mem_cons_self
      have hne : top.cell ≠ a := by
        rintro rfl
        rw [slot?_setSlot_self _ hmark] at ha
        cases ha
      rw [slot?_setSlot_of_ne _ hne] at ha
      have hmem := hd.active_of_marked a ha
      rw [active, hstack] at hmem
      exact (List.mem_cons.mp hmem).resolve_left (Ne.symm hne)
    · exact hstrict act (List.mem_cons_of_mem _ hact)
    · exact (raw?_setSlot ..).trans (hd.raw_eq a)

theorem steps (hfree : ∀ a raw, texts a = some raw → ScriptFree raw) (hd : d.Coherent texts)
    (h : Steps d d') : d'.Coherent texts := by
  induction h with
  | refl => exact hd
  | tail _ hstep ih => exact ih.step hfree hstep

/-- **A lookup is refused exactly if the cell is being computed.** -/
theorem lookup_eq_circularReference_iff (hd : d.Coherent texts) (y x : Address) :
    (d.sheet.lookup y).1 = .error (.circularReference x) ↔ y = x ∧ x ∈ d.active := by
  rw [Sheet.lookup_eq_circularReference_iff]
  exact and_congr_right fun _ => ⟨hd.active_of_marked x, hd.stacked.marked x⟩

/-- Along a chain of reads every cell leads to the one on top. -/
theorem reads_of_isChain : ∀ {stack : List Activation},
    stack.IsChain (fun upper lower => lower.plan.asks = some upper.cell) →
      (∀ act ∈ stack, act ∈ d.stack) → ∀ x ∈ stack.map Activation.cell,
        ∃ top, stack.head? = some top ∧ Relation.ReflTransGen d.Reads x top.cell
  | [], _, _, _, hx => nomatch hx
  | [top], _, _, x, hx => ⟨top, rfl, List.mem_singleton.mp hx ▸ .refl⟩
  | top :: lower :: rest, hchain, hmem, x, hx => by
    refine ⟨top, rfl, ?_⟩
    rcases List.mem_cons.mp hx with rfl | hx
    · exact .refl
    · obtain ⟨hasks, hrest⟩ := List.isChain_cons_cons.mp hchain
      obtain ⟨lower', hlower, hreads⟩ :=
        reads_of_isChain hrest (fun act hact => hmem act (List.mem_cons_of_mem _ hact)) x hx
      obtain rfl := Option.some.inj hlower
      refine hreads.tail ⟨lower, hmem lower ?_, rfl, hasks⟩
      exact List.mem_cons_of_mem _ List.mem_cons_self

/-- **A refused lookup closes a cycle of reads**: from the cell that is refused
the reads lead to the cell on top of the stack, which reads the former. -/
theorem exists_cycle_of_refuses (hd : d.Coherent texts) {x : Address} (h : d.Refuses x) :
    ∃ reader, d.active.head? = some reader ∧ Relation.ReflTransGen d.Reads x reader
      ∧ d.Reads reader x := by
  obtain ⟨hasks, hmark⟩ := refuses_iff.mp h
  obtain ⟨top, htop, hreads⟩ :=
    reads_of_isChain hd.chained (fun _ hact => hact) x (hd.active_of_marked x hmark)
  obtain ⟨rest, hstack⟩ := List.head?_eq_some_iff.mp htop
  refine ⟨top.cell, by rw [active, hstack]; rfl, hreads, top, ?_, rfl, ?_⟩
  · rw [hstack]
    exact List.mem_cons_self
  · rw [asks, hstack] at hasks
    exact hasks

/-- **The cell that has made a refused lookup ends with the circular
reference.** -/
theorem stored_of_refuses (hd : d.Coherent texts) {x : Address} (h : d.Refuses x)
    {reader : Address} (hreader : d.active.head? = some reader) {d₀ : Descent α}
    (hsteps : Steps d₀ d) {r : Except FormulaError α} {t : Sheet} (hend : d₀.Terminates r t) :
    t.slot? reader
      = some (.evaluated (.error (FormulaError.circularReference x).toCellError)) := by
  obtain ⟨hasks, hmark⟩ := refuses_iff.mp h
  obtain ⟨⟨cell, plan⟩, rest, hstack⟩ : ∃ top rest, d.stack = top :: rest := by
    rw [active] at hreader
    cases hstack : d.stack with
    | nil =>
      rw [hstack] at hreader
      cases hreader
    | cons top rest => exact ⟨top, rest, rfl⟩
  obtain rfl : cell = reader := by
    rw [active, hstack] at hreader
    exact Option.some.inj hreader
  rw [asks, hstack] at hasks
  have hstrict := hd.strict ⟨cell, plan⟩ (hstack ▸ List.mem_cons_self)
  cases hstrict with
  | done _ | fail _ | openBus _ => cases hasks
  | @read y next hrefused _ =>
    obtain rfl : y = x := Option.some.inj hasks
    -- the formula fails at once
    refine hd.stacked.stored_of_fails hstack ?_ hsteps hend
    rw [Plan.advance_marked hmark, hrefused]

end Coherent

end Descent

end SoundSheet
