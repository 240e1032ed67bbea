import Mathlib.Data.Finset.Card
import Mathlib.Data.Finset.Filter
import Mathlib.Data.Finset.Basic
import SoundSheet.Sheet.Lookup

/-!
# Runs of plans on a sheet

A plan is carried out on a sheet with a bound on the hops from cell to cell. The
bound is there for the definition only. What a run does is told by the rules of
`Runs`, which know no bound: a request for a cell is answered from its slot if
the cell is evaluated, refused if it is marked, and else answered by a run of
its own formula on the sheet where the cell is marked.

The two agree. A run that starts with at most as many unevaluated cells as hops
never runs out of hops, for every hop marks one of these cells and none of them
comes back (`runs_runOn`, `Runs.runOn_eq`). So a plan ends on every sheet, in
exactly one way: `runs_perform` and `Runs.perform_eq`.

What a run leaves alone is the relation `Fills`: raw texts, shape and setting
stay, and the only slots that change are those of unevaluated cells that become
evaluated.
-/

namespace SoundSheet

open SoundSheet.Script SoundSheet.Formula SoundSheet.Sheet

/-! ## The rules -/

/-- **The runs of plans on sheets**: `Runs p s r t` says that the plan `p`,
carried out on the sheet `s`, ends with the result `r` and leaves the sheet
`t`. -/
inductive Runs : {α : Type} → Plan α → Sheet → Except FormulaError α → Sheet → Prop
  /-- A plan that is done ends with its value. -/
  | done {α : Type} (a : α) (s : Sheet) : Runs (.done a) s (.ok a) s
  /-- A plan that fails ends with its error. -/
  | fail {α : Type} (e : FormulaError) (s : Sheet) : Runs (α := α) (.fail e) s (.error e) s
  /-- A cell outside the grid cannot be read. -/
  | outside {α : Type} {cell : Address} {next : Except FormulaError CellValue → Plan α}
      {s t : Sheet} {r : Except FormulaError α} (hcell : s.slot? cell = none)
      (hnext : Runs (next (.error (.outOfBounds cell))) s r t) : Runs (.read cell next) s r t
  /-- A marked cell cannot be read. -/
  | marked {α : Type} {cell : Address} {next : Except FormulaError CellValue → Plan α}
      {s t : Sheet} {r : Except FormulaError α} (hcell : s.slot? cell = some .evaluating)
      (hnext : Runs (next (.error (.circularReference cell))) s r t) :
      Runs (.read cell next) s r t
  /-- The value of an evaluated cell is known. -/
  | known {α : Type} {cell : Address} {next : Except FormulaError CellValue → Plan α}
      {s t : Sheet} {r : Except FormulaError α} {v : CellValue}
      (hcell : s.slot? cell = some (.evaluated v)) (hnext : Runs (next (.ok v)) s r t) :
      Runs (.read cell next) s r t
  /-- An unevaluated cell is marked while its raw text is run, and then holds
  its value. -/
  | fresh {α : Type} {cell : Address} {next : Except FormulaError CellValue → Plan α}
      {s s₁ t : Sheet} {r : Except FormulaError α} {raw : String}
      {r₁ : Except FormulaError CellValue} (hcell : s.slot? cell = some .unevaluated)
      (hraw : s.raw? cell = some raw)
      (hformula : Runs (runRaw s.setting cell raw) (s.setSlot cell .evaluating) r₁ s₁)
      (hnext : Runs (next (.ok (valueOf r₁))) (s₁.setSlot cell (.evaluated (valueOf r₁))) r t) :
      Runs (.read cell next) s r t
  /-- A new bus is the next one of the switchboard. -/
  | openBus {α : Type} {next : BusId → Plan α} {s t : Sheet} {r : Except FormulaError α}
      (hnext : Runs (next s.board.fresh) { s with board := s.board.openBus } r t) :
      Runs (.openBus next) s r t
  /-- What scripts leave behind is kept in order. -/
  | emit {α : Type} {writes : List Write} {events : List SoundEvent} {next : Plan α}
      {s t : Sheet} {r : Except FormulaError α}
      (hnext : Runs next
        { s with writes := s.writes ++ writes, events := s.events ++ events } r t) :
      Runs (.emit writes events next) s r t

/-! ## What a run leaves alone -/

/-- **A sheet that fills another one up**: the same raw texts in the same shape
and setting, with values for some cells that were not evaluated. -/
structure Fills (s t : Sheet) : Prop where
  /-- The raw texts are the same. -/
  raw : ∀ a, t.raw? a = s.raw? a
  /-- The rows are as many. -/
  rows : t.grid.rows = s.grid.rows
  /-- The columns are as many. -/
  cols : t.grid.cols = s.grid.cols
  /-- Tempo, time and host are the same. -/
  setting : t.setting = s.setting
  /-- A slot that has changed was that of an unevaluated cell and holds a
  value. -/
  slot : ∀ a, t.slot? a = s.slot? a
    ∨ s.slot? a = some .unevaluated ∧ ∃ v, t.slot? a = some (.evaluated v)

namespace Fills

variable {s t u : Sheet}

theorem refl (s : Sheet) : Fills s s :=
  ⟨fun _ => rfl, rfl, rfl, rfl, fun _ => .inl rfl⟩

theorem trans (h : Fills s t) (h' : Fills t u) : Fills s u := by
  refine ⟨fun a => (h'.raw a).trans (h.raw a), h'.rows.trans h.rows, h'.cols.trans h.cols,
    h'.setting.trans h.setting, fun a => ?_⟩
  rcases h.slot a with hs | ⟨hs, v, hv⟩
  · rw [← hs]
    exact h'.slot a
  · rcases h'.slot a with ht | ⟨ht, -⟩
    · exact .inr ⟨hs, v, ht.trans hv⟩
    · rw [hv] at ht
      exact nomatch ht

theorem host (h : Fills s t) : t.host = s.host :=
  congrArg Setting.host h.setting

/-- A value that is known stays. -/
theorem slot?_evaluated (h : Fills s t) {a : Address} {v : CellValue}
    (ha : s.slot? a = some (.evaluated v)) : t.slot? a = some (.evaluated v) := by
  rcases h.slot a with hs | ⟨hs, -⟩
  · exact hs.trans ha
  · rw [ha] at hs
    exact nomatch hs

/-- The marked cells are the same. -/
theorem slot?_evaluating_iff (h : Fills s t) (a : Address) :
    t.slot? a = some .evaluating ↔ s.slot? a = some .evaluating := by
  rcases h.slot a with hs | ⟨hs, v, hv⟩
  · rw [hs]
  · rw [hs, hv]
    simp

/-- A cell that is unevaluated was so before. -/
theorem slot?_unevaluated (h : Fills s t) {a : Address}
    (ha : t.slot? a = some .unevaluated) : s.slot? a = some .unevaluated := by
  rcases h.slot a with hs | ⟨hs, -⟩
  · exact hs.symm.trans ha
  · exact hs

/-- **A cell that is marked, run and given a value** is filled. -/
theorem setSlot {a : Address} {s₁ : Sheet} (ha : s.slot? a = some .unevaluated)
    (h : Fills (s.setSlot a .evaluating) s₁) (v : CellValue) :
    Fills s (s₁.setSlot a (.evaluated v)) := by
  have hmark : (s.setSlot a .evaluating).slot? a = some .evaluating :=
    slot?_setSlot_self _ ha
  refine ⟨fun b => ?_, ?_, ?_, h.setting, fun b => ?_⟩
  · rw [raw?_setSlot, h.raw, raw?_setSlot]
  · rw [rows_setSlot, h.rows, rows_setSlot]
  · rw [cols_setSlot, h.cols, cols_setSlot]
  · by_cases hab : a = b
    · subst hab
      exact .inr ⟨ha, v, slot?_setSlot_self _ ((h.slot?_evaluating_iff a).mpr hmark)⟩
    · rw [slot?_setSlot_of_ne _ hab, ← slot?_setSlot_of_ne (s := s) .evaluating hab]
      exact h.slot b

end Fills

/-- **A run fills the sheet up.** -/
theorem Runs.fills {α : Type} {p : Plan α} {s t : Sheet} {r : Except FormulaError α}
    (h : Runs p s r t) : Fills s t := by
  induction h with
  | done a s => exact .refl s
  | fail e s => exact .refl s
  | outside _ _ ih => exact ih
  | marked _ _ ih => exact ih
  | known _ _ ih => exact ih
  | fresh hcell _ _ _ ihformula ihnext => exact (ihformula.setSlot hcell _).trans ihnext
  | openBus _ ih => exact ⟨ih.raw, ih.rows, ih.cols, ih.setting, ih.slot⟩
  | emit _ ih => exact ⟨ih.raw, ih.rows, ih.cols, ih.setting, ih.slot⟩

/-! ## Cells that are not evaluated yet -/

namespace Sheet

/-- **The cells that are not evaluated yet**. -/
def pending (s : Sheet) : Finset Address :=
  s.grid.addresses.toFinset.filter fun a => s.slot? a = some .unevaluated

theorem mem_pending_iff (s : Sheet) (a : Address) :
    a ∈ s.pending ↔ s.slot? a = some .unevaluated := by
  rw [pending, Finset.mem_filter, List.mem_toFinset, mem_addresses_iff, ← isSome_slot?]
  refine ⟨And.right, fun h => ⟨?_, h⟩⟩
  rw [h]
  rfl

/-- There are at most as many as there are cells. -/
theorem card_pending_le (s : Sheet) : s.pending.card ≤ s.grid.size :=
  calc s.pending.card
    _ ≤ s.grid.addresses.toFinset.card := Finset.card_filter_le _ _
    _ ≤ s.grid.addresses.length := List.toFinset_card_le _
    _ = s.grid.size := s.grid.length_addresses

/-- **Marking one of them leaves one fewer.** -/
theorem card_pending_mark {s : Sheet} {a : Address} (ha : s.slot? a = some .unevaluated) :
    (s.setSlot a .evaluating).pending.card < s.pending.card := by
  refine Finset.card_lt_card ((Finset.ssubset_iff_of_subset fun b hb => ?_).mpr
    ⟨a, (s.mem_pending_iff a).mpr ha, fun hmem => ?_⟩)
  · rw [mem_pending_iff, slot?_setSlot] at hb
    rw [mem_pending_iff]
    by_cases hab : a = b
    · rw [if_pos hab, ← hab, ha] at hb
      exact nomatch hb
    · rwa [if_neg hab] at hb
  · rw [mem_pending_iff, slot?_setSlot_self _ ha] at hmem
    exact nomatch hmem

end Sheet

/-- A run leaves no more of them. -/
theorem Fills.card_pending_le {s t : Sheet} (h : Fills s t) :
    t.pending.card ≤ s.pending.card := by
  refine Finset.card_le_card fun a ha => ?_
  rw [mem_pending_iff] at ha ⊢
  exact h.slot?_unevaluated ha

/-! ## Hops -/

namespace Sheet

theorem get?_of_slot? {s : Sheet} {a : Address} {slot : Slot} (h : s.slot? a = some slot) :
    ∃ raw, s.raw? a = some raw ∧ s.grid.get? a = some ⟨raw, slot⟩ := by
  obtain ⟨⟨raw, slot'⟩, hget, rfl⟩ := Option.map_eq_some_iff.mp h
  exact ⟨raw, by rw [raw?, hget]; rfl, hget⟩

section Lookup

variable {s : Sheet} {a : Address}

theorem lookWithin_outside (h : s.slot? a = none) (hops : Nat) :
    lookWithin hops a s = (.error (.outOfBounds a), s) := by
  unfold lookWithin
  rw [Option.map_eq_none_iff.mp h]

theorem lookWithin_marked (h : s.slot? a = some .evaluating) (hops : Nat) :
    lookWithin hops a s = (.error (.circularReference a), s) := by
  obtain ⟨raw, -, hget⟩ := get?_of_slot? h
  unfold lookWithin
  rw [hget]

theorem lookWithin_known {v : CellValue} (h : s.slot? a = some (.evaluated v)) (hops : Nat) :
    lookWithin hops a s = (.ok v, s) := by
  obtain ⟨raw, -, hget⟩ := get?_of_slot? h
  unfold lookWithin
  rw [hget]

/-- A cell that is not evaluated takes a hop. -/
theorem lookWithin_fresh (h : s.slot? a = some .unevaluated) {raw : String}
    (hraw : s.raw? a = some raw) (hops : Nat) :
    lookWithin (hops + 1) a s
      = (.ok (computeWith (lookWithin hops) a raw s).1,
          (computeWith (lookWithin hops) a raw s).2) := by
  obtain ⟨raw', hraw', hget⟩ := get?_of_slot? h
  obtain rfl : raw = raw' := Option.some.inj (hraw.symm.trans hraw')
  rw [lookWithin, hget]

end Lookup

end Sheet

/-- **With enough hops a plan runs by the rules.** -/
theorem runs_runOn (hops : Nat) : ∀ {α : Type} (p : Plan α) (s : Sheet),
    s.pending.card ≤ hops →
      Runs p s (p.runOn (lookWithin hops) s).1 (p.runOn (lookWithin hops) s).2 := by
  -- a formula that is hopped to has one hop less, and the rest of the plan has as many
  -- as before: hence an induction on plans within one on hops
  induction hops using Nat.strong_induction_on with
  | _ hops ihhops =>
  intro α p
  induction p with
  | done a => exact fun s _ => .done a s
  | fail e => exact fun s _ => .fail e s
  | openBus next ih => exact fun s h => .openBus (ih _ _ h)
  | emit writes events next ih => exact fun s h => .emit (ih _ h)
  | read cell next ih =>
    intro s h
    rw [Plan.runOn]
    cases hcell : s.slot? cell with
    | none =>
      rw [lookWithin_outside hcell]
      exact .outside hcell (ih _ s h)
    | some slot =>
      cases slot with
      | evaluating =>
        rw [lookWithin_marked hcell]
        exact .marked hcell (ih _ s h)
      | evaluated v =>
        rw [lookWithin_known hcell]
        exact .known hcell (ih _ s h)
      | unevaluated =>
        obtain ⟨raw, hraw, -⟩ := get?_of_slot? hcell
        have hmark := card_pending_mark hcell
        -- there is a pending cell, so there is a hop left for it
        obtain ⟨hops, rfl⟩ : ∃ n, hops = n + 1 := ⟨hops - 1, by omega⟩
        have hformula := ihhops hops (Nat.lt_succ_self _) (runRaw s.setting cell raw)
          (s.setSlot cell .evaluating) (by omega)
        rw [lookWithin_fresh hcell hraw]
        refine .fresh hcell hraw hformula (ih _ _ ?_)
        exact ((hformula.fills.setSlot hcell _).card_pending_le).trans h

/-- **A run by the rules is what comes of the plan**, with any number of hops
that is enough. -/
theorem Runs.runOn_eq {α : Type} {p : Plan α} {s t : Sheet} {r : Except FormulaError α}
    (h : Runs p s r t) : ∀ {hops : Nat}, s.pending.card ≤ hops →
      p.runOn (lookWithin hops) s = (r, t) := by
  induction h with
  | done a s => exact fun _ => rfl
  | fail e s => exact fun _ => rfl
  | openBus _ ih => exact fun h => ih h
  | emit _ ih => exact fun h => ih h
  | outside hcell _ ih =>
    intro hops h
    rw [Plan.runOn, lookWithin_outside hcell]
    exact ih h
  | marked hcell _ ih =>
    intro hops h
    rw [Plan.runOn, lookWithin_marked hcell]
    exact ih h
  | known hcell _ ih =>
    intro hops h
    rw [Plan.runOn, lookWithin_known hcell]
    exact ih h
  | fresh hcell hraw hformula _ ihformula ihnext =>
    intro hops h
    have hmark := card_pending_mark hcell
    obtain ⟨hops, rfl⟩ : ∃ n, hops = n + 1 := ⟨hops - 1, by omega⟩
    rw [Plan.runOn, lookWithin_fresh hcell hraw, computeWith, ihformula (by omega)]
    exact ihnext (((hformula.fills.setSlot hcell _).card_pending_le).trans h)

/-! ## Plans one after the other -/

/-- **One plan after the other.** -/
theorem Runs.bind {α : Type} {p : Plan α} {s t : Sheet} {r : Except FormulaError α}
    (h : Runs p s r t) : ∀ {β : Type} {f : α → Plan β} {a : α} {r' : Except FormulaError β}
      {u : Sheet}, r = .ok a → Runs (f a) t r' u → Runs (p.bind f) s r' u := by
  induction h with
  | done a s =>
    rintro β f _ r' u ⟨⟩ hf
    exact hf
  | fail e s => exact fun hr _ => nomatch hr
  | outside hcell _ ih => exact fun hr hf => .outside hcell (ih hr hf)
  | marked hcell _ ih => exact fun hr hf => .marked hcell (ih hr hf)
  | known hcell _ ih => exact fun hr hf => .known hcell (ih hr hf)
  | fresh hcell hraw hformula _ _ ih => exact fun hr hf => .fresh hcell hraw hformula (ih hr hf)
  | openBus _ ih => exact fun hr hf => .openBus (ih hr hf)
  | emit _ ih => exact fun hr hf => .emit (ih hr hf)

/-- **Runs of one plan after the other**: the second one runs on what the first
one leaves, unless that fails. -/
theorem Runs.of_bind {α β : Type} {f : α → Plan β} {r : Except FormulaError β} {t : Sheet}
    {p : Plan α} : ∀ {s : Sheet}, Runs (p.bind f) s r t →
      (∃ a u, Runs p s (.ok a) u ∧ Runs (f a) u r t)
        ∨ ∃ e, Runs p s (.error e) t ∧ r = .error e := by
  induction p with
  | done a =>
    intro s h
    exact .inl ⟨a, s, .done a s, h⟩
  | fail e =>
    intro s h
    cases h
    exact .inr ⟨e, .fail e _, rfl⟩
  | openBus next ih =>
    intro s h
    cases h with
    | openBus hnext =>
      rcases ih _ hnext with ⟨a, u, hp, hf⟩ | ⟨e, hp, hr⟩
      · exact .inl ⟨a, u, .openBus hp, hf⟩
      · exact .inr ⟨e, .openBus hp, hr⟩
  | emit writes events next ih =>
    intro s h
    cases h with
    | emit hnext =>
      rcases ih hnext with ⟨a, u, hp, hf⟩ | ⟨e, hp, hr⟩
      · exact .inl ⟨a, u, .emit hp, hf⟩
      · exact .inr ⟨e, .emit hp, hr⟩
  | read cell next ih =>
    intro s h
    -- the cell is read in the same way, and what follows is taken apart
    have hread {answer : Except FormulaError CellValue} {s' : Sheet}
        (hlookup : ∀ {γ : Type} {next : Except FormulaError CellValue → Plan γ}
          {r : Except FormulaError γ} {t : Sheet}, Runs (next answer) s' r t →
            Runs (.read cell next) s r t)
        (hnext : Runs ((next answer).bind f) s' r t) :
        (∃ a u, Runs (.read cell next) s (.ok a) u ∧ Runs (f a) u r t)
          ∨ ∃ e, Runs (.read cell next) s (.error e) t ∧ r = .error e := by
      rcases ih _ hnext with ⟨a, u, hp, hf⟩ | ⟨e, hp, hr⟩
      · exact .inl ⟨a, u, hlookup hp, hf⟩
      · exact .inr ⟨e, hlookup hp, hr⟩
    cases h with
    | outside hcell hnext => exact hread (.outside hcell) hnext
    | marked hcell hnext => exact hread (.marked hcell) hnext
    | known hcell hnext => exact hread (.known hcell) hnext
    | fresh hcell hraw hformula hnext => exact hread (.fresh hcell hraw hformula) hnext

/-- What is done last succeeds only on a value of what is done first. -/
theorem Runs.of_bind_ok {α β : Type} {p : Plan α} {f : α → Plan β} {s t : Sheet} {b : β}
    (h : Runs (p.bind f) s (.ok b) t) : ∃ a u, Runs p s (.ok a) u ∧ Runs (f a) u (.ok b) t := by
  obtain hsplit | ⟨e, -, hfail⟩ := h.of_bind
  · exact hsplit
  · exact nomatch hfail

/-! ## Plans on sheets -/

/-- **Every plan runs on every sheet**, and what comes of it is what `perform`
says. -/
theorem runs_perform {α : Type} (p : Plan α) (s : Sheet) :
    Runs p s (s.perform p).1 (s.perform p).2 :=
  runs_runOn _ p s s.card_pending_le

/-- **It runs in one way only.** -/
theorem Runs.perform_eq {α : Type} {p : Plan α} {s t : Sheet} {r : Except FormulaError α}
    (h : Runs p s r t) : s.perform p = (r, t) :=
  h.runOn_eq s.card_pending_le

/-- To look a cell up is to carry out the plan that reads it. -/
theorem lookup_eq_perform (a : Address) (s : Sheet) :
    s.lookup a = s.perform (Plan.lookup a) := by
  show lookWithin s.grid.size a s = Plan.runOn _ (.read a Plan.ofExcept) s
  rw [Plan.runOn]
  cases h : lookWithin s.grid.size a s with
  | mk answer t => cases answer <;> rfl

/-- **To compute a cell is to run its raw text** while it is marked, and to
store what comes of it. -/
theorem exists_runs_computeWith (a : Address) (raw : String) (s : Sheet) :
    ∃ r₁ s₁, Runs (runRaw s.setting a raw) (s.setSlot a .evaluating) r₁ s₁
      ∧ computeWith (lookWithin s.grid.size) a raw s
        = (valueOf r₁, s₁.setSlot a (.evaluated (valueOf r₁))) := by
  refine ⟨_, _, runs_runOn s.grid.size _ _ ((card_pending_le _).trans (Nat.le_of_eq ?_)), rfl⟩
  rw [Grid.size, rows_setSlot, cols_setSlot, ← Grid.size]

end SoundSheet
