import SoundSheet.Proofs.Sheet.Buses
import SoundSheet.Proofs.Sheet.Settling

/-!
# What lookups leave alone

Whatever a sheet is asked for, it answers by filling itself up: cells that were
not evaluated get values, and that is all that happens to the grid. Raw texts,
tempo and time stay, and so does every value that is there, the listeners of its
bus included. Audio events of the scripts that were run are added to those from
before (`Runs.kept`). A cell that is computed again is the one exception, as far
as its own value goes (`kept_evaluateCell`).

So a value that has been given out once is given out again, until the cell gets
another text, is computed again, or all cells are evaluated afresh
(`lookups_keep`).
-/

namespace SoundSheet

open SoundSheet.Script SoundSheet.Formula

/-- **A run adds audio events** to those from before. -/
theorem Runs.events_prefix {α : Type} {p : Plan α} {s t : Sheet} {r : Except FormulaError α}
    (h : Runs p s r t) : s.events <+: t.events := by
  induction h with
  | done a s => exact List.prefix_rfl
  | fail e s => exact List.prefix_rfl
  | outside _ _ ih => exact ih
  | marked _ _ ih => exact ih
  | known _ _ ih => exact ih
  | fresh _ _ _ _ ihformula ihnext => exact ihformula.trans ihnext
  | openBus _ ih => exact ih
  | emit _ ih => exact (List.prefix_append _ _).trans ih

/-- **A run opens buses**, and does not touch the listeners of those that are
there. -/
theorem Runs.listeners_eq {α : Type} {p : Plan α} {s t : Sheet} {r : Except FormulaError α}
    (h : Runs p s r t) (bus : BusId) : t.board.listeners bus = s.board.listeners bus := by
  induction h with
  | done a s => rfl
  | fail e s => rfl
  | outside _ _ ih => exact ih
  | marked _ _ ih => exact ih
  | known _ _ ih => exact ih
  | fresh _ _ _ _ ihformula ihnext => exact ihnext.trans ihformula
  | openBus _ ih => exact ih.trans (Switchboard.listeners_openBus _ bus)
  | emit _ ih => exact ih

namespace Sheet

/-! ## What is kept -/

/-- **What a sheet keeps of another one**, as far as the slots of some cells are
concerned: it has the same raw texts, tempo and time, and the slots of these
cells are the same, except that cells which were not evaluated may have got
values. Events have only been added, and all buses have the listeners that they
had. -/
structure Kept (cells : Address → Prop) (s t : Sheet) : Prop where
  /-- The raw grid is the same. -/
  rawRows : t.rawRows = s.rawRows
  /-- The tempo is the same. -/
  tempo : t.tempo = s.tempo
  /-- The playback time is the same. -/
  time : t.time = s.time
  /-- A slot that has changed was that of an unevaluated cell and holds a
  value. -/
  slot : ∀ a, cells a → t.slot? a = s.slot? a
    ∨ s.slot? a = some .unevaluated ∧ ∃ v, t.slot? a = some (.evaluated v)
  /-- Events have only been added. -/
  events : s.events <+: t.events
  /-- The listeners are the same. -/
  listeners : ∀ bus, t.board.listeners bus = s.board.listeners bus

namespace Kept

variable {cells : Address → Prop} {s t : Sheet}

/-- The queue of writes is of no account. -/
theorem withWrites (h : s.Kept cells t) (writes : List Write) :
    s.Kept cells { t with writes := writes } :=
  ⟨h.rawRows, h.tempo, h.time, h.slot, h.events, h.listeners⟩

/-- A value that is there stays. -/
theorem slot?_evaluated (h : s.Kept cells t) {a : Address} (ha : cells a) {v : CellValue}
    (hv : s.slot? a = some (.evaluated v)) : t.slot? a = some (.evaluated v) := by
  rcases h.slot a ha with hsame | ⟨hfresh, -⟩
  · exact hsame.trans hv
  · exact nomatch hv.symm.trans hfresh

end Kept

end Sheet

/-- **A run keeps all but what it fills in.** -/
theorem Runs.kept {α : Type} {p : Plan α} {s t : Sheet} {r : Except FormulaError α}
    (h : Runs p s r t) : s.Kept (fun _ => True) t :=
  have hfills := h.fills
  ⟨hfills.sameTexts.rawRows_eq, congrArg Setting.tempo hfills.setting,
    congrArg Setting.time hfills.setting, fun a _ => hfills.slot a, h.events_prefix,
    h.listeners_eq⟩

namespace Sheet

variable {s : Sheet} {a : Address}

theorem kept_answer (s : Sheet) (q : Request) : s.Kept (fun _ => True) (s.answer q) := by
  obtain ⟨α, p, r, t, writes, hrun, heq⟩ := s.exists_runs_answer q
  rw [heq]
  exact hrun.kept.withWrites writes

/-- **A lookup by name** is the lookup of the cell with this name; a text that
names no cell is refused, and nothing happens. -/
theorem lookupText_eq (text : String) (s : Sheet) :
    s.lookupText text = match Address.parse? text.toList with
      | some a => s.lookup a
      | none => (.error (.invalidAddress text), s) := by
  rw [lookupText, Plan.lookupText]
  cases Address.parse? text.toList with
  | some a => exact (lookup_eq_perform a s).symm
  | none => rw [String.ofList_toList]; rfl

theorem kept_lookupText (text : String) (s : Sheet) :
    s.Kept (fun _ => True) (s.lookupText text).2 :=
  (runs_perform (Plan.lookupText text.toList) s).kept

/-- **Computing a cell keeps all but its own slot.** -/
theorem kept_evaluateCell (a : Address) (s : Sheet) : s.Kept (· ≠ a) (s.evaluateCell a).2 := by
  rcases s.evaluateCell_cases a with hsame | ⟨raw, slot, r₁, s₁, -, -, hformula, hstore⟩
  · rw [hsame]
    exact ⟨rfl, rfl, rfl, fun _ _ => .inl rfl, List.prefix_rfl, fun _ => rfl⟩
  rw [hstore]
  have hs₁ := hformula.fills
  have htexts : s.SameTexts (s₁.setSlot a (.evaluated (valueOf r₁))) := by
    refine ⟨fun b => ?_, ?_, ?_, hs₁.setting⟩
    · rw [raw?_setSlot, hs₁.raw, raw?_setSlot]
    · rw [rows_setSlot, hs₁.rows, rows_setSlot]
    · rw [cols_setSlot, hs₁.cols, cols_setSlot]
  refine ⟨htexts.rawRows_eq, congrArg Setting.tempo hs₁.setting,
    congrArg Setting.time hs₁.setting, fun b hb => ?_, hformula.events_prefix,
    hformula.listeners_eq⟩
  -- the mark of the cell, and the value that is put there, do not matter to another one
  have hslot := hs₁.slot b
  rw [slot?_setSlot_of_ne _ (Ne.symm hb)] at hslot
  rwa [slot?_setSlot_of_ne _ (Ne.symm hb)]

/-- **On a sheet where every cell has a value a formula that is in no cell
leaves no trace**, but for events and new buses. What its scripts want to be
stored is dropped with all that was queued before. -/
theorem exists_evaluateFormula_eq (hvalues : ∀ a, (s.raw? a).isSome → s.HasValue a)
    (text : List Char) : ∃ events board,
      (s.evaluateFormula text).2
          = { s with writes := [], events := s.events ++ events, board := board }
        ∧ ∀ bus, board.listeners bus = s.board.listeners bus := by
  have hrun := runs_perform (run s.setting ⟨0, 0⟩ (formulaBody text)) s
  have hsetting := hrun.fills.setting
  obtain ⟨events, hevents⟩ := hrun.events_prefix
  refine ⟨events, _, ?_, hrun.listeners_eq⟩
  rw [evaluateFormula, hevents, ← grid_eq_of_runs hrun hvalues]
  generalize s.perform (run s.setting ⟨0, 0⟩ (formulaBody text)) = answer at hsetting ⊢
  have htempo : answer.2.tempo = s.tempo := congrArg Setting.tempo hsetting
  have htime : answer.2.time = s.time := congrArg Setting.time hsetting
  have hhost : answer.2.host = s.host := congrArg Setting.host hsetting
  rw [← htempo, ← htime, ← hhost]

/-! ## Values that are given out again -/

/-- A lookup that gives a value has it stored. -/
theorem slot?_lookup {v : CellValue} (h : (s.lookup a).1 = .ok v) :
    (s.lookup a).2.slot? a = some (.evaluated v) := by
  have hrun := runs_lookup a s
  rw [h] at hrun
  generalize (s.lookup a).2 = t at hrun
  cases hrun with
  | outside _ hnext => exact nomatch hnext
  | marked _ hnext => exact nomatch hnext
  | known hcell hnext =>
    cases hnext
    exact hcell
  | fresh hcell _ hformula hnext =>
    cases hnext
    exact slot?_setSlot_self _
      ((hformula.fills.slot?_evaluating_iff a).mpr (slot?_setSlot_self _ hcell))

/-- A value that is stored is the answer to a lookup. -/
theorem lookup_of_slot? {v : CellValue} (h : s.slot? a = some (.evaluated v)) :
    s.lookup a = (.ok v, s) :=
  lookWithin_known h _

/-- **An operation after which the value of a cell may be another one**: the
cell gets a raw text or is computed, or all cells lose their values. -/
def Operation.Renews (a : Address) : Operation → Prop
  | reset _ _ | setRows _ _ | evaluateAll => True
  | enter b _ | evaluateCell b => b = a
  | _ => False

/-- **All other operations leave the value of the cell alone.** -/
theorem slot?_apply {op : Operation} (hop : ¬op.Renews a) {v : CellValue}
    (h : s.slot? a = some (.evaluated v)) : (op.apply s).slot? a = some (.evaluated v) := by
  cases op with
  | reset _ _ | setRows _ _ | evaluateAll => exact absurd True.intro hop
  | enter b text =>
    show ((s.enter b text).toOption.getD s).slot? a = _
    rcases s.enter_cases b text with hout | hin
    · rw [hout]
      exact h
    · have hne : b ≠ a := hop
      rw [hin]
      show Option.map Cell.slot ((s.grid.modify b fun _ => Cell.ofRaw text).get? a) = _
      rw [Grid.get?_modify, if_neg hne]
      exact h
  | evaluateCell b => exact (kept_evaluateCell b s).slot?_evaluated (Ne.symm hop) h
  | ask q => exact (s.kept_answer q).slot?_evaluated True.intro h
  | setTempo _ | setTime _ | setHost _ | takeEvents | subscribe _ _ | trigger _ _ => exact h

theorem slot?_operateAll {v : CellValue} (ops : List Operation) :
    ∀ {s : Sheet}, (∀ op ∈ ops, ¬op.Renews a) → s.slot? a = some (.evaluated v) →
      (s.operateAll ops).slot? a = some (.evaluated v) := by
  induction ops with
  | nil => exact fun _ h => h
  | cons op ops ih =>
    intro s hops h
    obtain ⟨hop, hops⟩ := List.forall_mem_cons.mp hops
    exact ih hops (slot?_apply hop h)

/-- **Lookups only fill in.** Whatever a sheet is asked for – a cell, by its
address or by its name, a region, or a formula that is in no cell – and whether
there is an answer or an error: it keeps its raw texts, tempo, time, values and
listeners, cells that are not evaluated may get values, and events are added.
Computing a cell does the same to all but the slot of the cell. And the value
that a lookup of a cell gives is given by every later one, by address or by
name, until the cell is renewed. -/
theorem lookups_keep (s : Sheet) :
    (∀ a, s.Kept (fun _ => True) (s.lookup a).2)
      ∧ (∀ text, s.Kept (fun _ => True) (s.lookupText text).2)
      ∧ (∀ region traversal, s.Kept (fun _ => True) (s.extract region traversal).2)
      ∧ (∀ text, s.Kept (fun _ => True) (s.evaluateFormula text).2)
      ∧ (∀ a, s.Kept (· ≠ a) (s.evaluateCell a).2)
      ∧ (∀ text, s.lookupText text = match Address.parse? text.toList with
          | some a => s.lookup a
          | none => (.error (.invalidAddress text), s))
      ∧ ∀ a v, (s.lookup a).1 = .ok v → ∀ ops : List Operation, (∀ op ∈ ops, ¬op.Renews a) →
          (((s.lookup a).2.operateAll ops).lookup a).1 = .ok v
            ∧ ∀ text : String, Address.parse? text.toList = some a →
                (((s.lookup a).2.operateAll ops).lookupText text).1 = .ok v := by
  refine ⟨fun a => s.kept_answer (.cell a), fun text => kept_lookupText text s,
    fun region traversal => s.kept_answer (.region region traversal),
    fun text => s.kept_answer (.formula text), fun a => kept_evaluateCell a s,
    fun text => lookupText_eq text s, fun a v hv ops hops => ?_⟩
  have hslot := slot?_operateAll ops hops (slot?_lookup hv)
  have hlookup := congrArg Prod.fst (lookup_of_slot? hslot)
  refine ⟨hlookup, fun text hname => ?_⟩
  rw [lookupText_eq, hname]
  exact hlookup

/-- A sheet with a beat and a sum that has not been evaluated yet. -/
def unheard : Sheet :=
  (Sheet.new 0 0 plainHost).setRows [["=BEAT(120, x)", "2", "=B1 + 1"]]

/-- The beat is looked up, and then much else is done: it is still the same
beat, on the same bus. -/
theorem lookups_keep_beat :
    let ops : List Operation := [.enter ⟨0, 1⟩ "3", .ask (.cell ⟨0, 2⟩), .setTempo 90,
      .evaluateCell ⟨0, 1⟩, .ask (.formula "BEAT(60, y)".toList)]
    (unheard.lookup ⟨0, 0⟩).1 = .ok (.music (.beat ⟨120, "x", 0⟩))
      ∧ (∀ op ∈ ops, ¬op.Renews ⟨0, 0⟩)
      ∧ ((unheard.lookup ⟨0, 0⟩).2.operateAll ops).value? ⟨0, 2⟩ = some (.number 4)
      ∧ (((unheard.lookup ⟨0, 0⟩).2.operateAll ops).lookup ⟨0, 0⟩).1
        = .ok (.music (.beat ⟨120, "x", 0⟩)) := by
  have hfirst : (unheard.lookup ⟨0, 0⟩).1 = .ok (.music (.beat ⟨120, "x", 0⟩)) := by
    decide +kernel
  have hops : ∀ op ∈ [Operation.enter ⟨0, 1⟩ "3", .ask (.cell ⟨0, 2⟩), .setTempo 90,
      .evaluateCell ⟨0, 1⟩, .ask (.formula "BEAT(60, y)".toList)], ¬op.Renews ⟨0, 0⟩ := by
    simp [Operation.Renews]
  obtain ⟨-, -, -, -, -, -, hagain⟩ := lookups_keep unheard
  exact ⟨hfirst, hops, by decide +kernel, (hagain ⟨0, 0⟩ _ hfirst _ hops).1⟩

end Sheet

end SoundSheet
