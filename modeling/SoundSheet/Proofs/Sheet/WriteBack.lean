import SoundSheet.Proofs.Sheet.Chronicle
import SoundSheet.Proofs.Sheet.Writes

/-!
# Only what scripts write is changed

An evaluation of all cells may change raw texts between its passes, and it does
so for one reason: a script has asked for it. What scripts ask for in a pass is
told by the chronicle of the pass (`writesOf`), in the order in which the
scripts come to their end, and in this order it is stored. So a cell that no
script has written to keeps its text, and one that has been written to holds the
text of the last write (`writesBack_of_chronicle`). A write to a cell outside
the grid might as well not be there (`storeAll_filter`).

All this is said of one pass. The passes of an evaluation are the same over
again, each from the texts that the one before it has left
(`writesBack_evaluateAll`). The last pass is apart if no more of them may
follow: then what its scripts ask for is dropped.
-/

namespace SoundSheet

open SoundSheet.Script

/-! ## The text of one cell -/

/-- **The last write to a cell counts**, whatever comes before it and after. -/
theorem textAfter_of_last {a : Address} {text : String} {before after : List Write}
    (h : ∀ w ∈ after, w.cell ≠ a) (raw : String) :
    textAfter a (before ++ ⟨a, text⟩ :: after) raw = text := by
  rw [textAfter, List.foldl_append, List.foldl_cons, if_pos rfl]
  exact textAfter_eq_self fun w hw hcell => absurd hcell (h w hw)

namespace Sheet

/-! ## Writes outside the grid -/

theorem isSome_raw?_store (s : Sheet) (w : Write) (a : Address) :
    ((s.store w).2.raw? a).isSome = (s.raw? a).isSome := by
  rw [raw?_store, Option.isSome_map]

/-- **Writes outside the grid might as well not be there.** -/
theorem storeAll_filter (writes : List Write) : ∀ s : Sheet,
    storeAll (writes.filter fun w => (s.raw? w.cell).isSome) s = storeAll writes s := by
  induction writes with
  | nil => exact fun s => rfl
  | cons w writes ih =>
    intro s
    cases hraw : s.raw? w.cell with
    | none =>
      have hstore : s.store w = (false, s) := by rw [store, hraw]
      rw [List.filter_cons_of_neg (by rw [hraw]; exact Bool.false_ne_true), ih, storeAll_cons,
        hstore, Bool.false_or]
    | some raw =>
      -- the grid has the same cells after the first write
      have hcells : (fun v : Write => (s.raw? v.cell).isSome)
          = fun v => ((s.store w).2.raw? v.cell).isSome :=
        funext fun v => (s.isSome_raw?_store w v.cell).symm
      rw [List.filter_cons_of_pos (by rw [hraw]; rfl), storeAll_cons, storeAll_cons, hcells, ih]

/-! ## The size of the grid -/

theorem cols_storeAll (writes : List Write) :
    ∀ s : Sheet, (storeAll writes s).2.grid.cols = s.grid.cols := by
  induction writes with
  | nil => exact fun _ => rfl
  | cons w writes ih =>
    intro s
    rw [storeAll_cons]
    refine (ih _).trans ?_
    rcases s.store_eq_or w with hstore | hstore
    · rw [hstore]
    · rw [hstore]
      exact s.grid.cols_modify _ _

theorem cols_pass (s : Sheet) : s.pass.grid.cols = s.grid.cols :=
  s.fills_pass.cols.trans s.cols_forgetValues

theorem Rewritten.cols {s u : Sheet} (h : Rewritten s u) : u.grid.cols = s.grid.cols := by
  induction h with
  | refl => rfl
  | @pass u _ ih => exact (cols_storeAll _ _).trans (u.cols_pass.trans ih)

theorem cols_evaluateAll (s : Sheet) : s.evaluateAll.grid.cols = s.grid.cols := by
  obtain ⟨u, hu, heq⟩ := s.exists_rewritten_evaluateAll
  rw [heq]
  exact u.cols_pass.trans hu.cols

theorem rows_evaluateAll (s : Sheet) : s.evaluateAll.grid.rows = s.grid.rows := by
  have hlengths := congrArg List.length s.rowLengths_evaluateAll
  rwa [Grid.rowLengths, Grid.rowLengths, List.length_map, List.length_map] at hlengths

/-! ## One pass -/

/-- **The writes that scripts ask for**, in the order in which the scripts come
to their end. -/
def writesOf (log : List Happening) : List Write :=
  log.flatMap Happening.writes

/-- **A pass that changes what its scripts have written**, and nothing else. -/
structure WritesBack (s : Sheet) (log : List Happening) : Prop where
  /-- What is written is what scripts of cells leave that have run well. -/
  scripts : ∀ reader writes events, .emitted reader writes events ∈ log →
    ∃ cell, reader = some cell ∧ s.setting.Leaves cell writes events
  /-- A cell that no script has written to keeps its text. -/
  kept : ∀ a, (∀ w ∈ writesOf log, w.cell ≠ a) → s.pass.storeWrites.2.raw? a = s.raw? a
  /-- A cell in the grid holds the text of the last write to it. -/
  last : ∀ a text before after, (s.raw? a).isSome →
    writesOf log = before ++ ⟨a, text⟩ :: after → (∀ w ∈ after, w.cell ≠ a) →
      s.pass.storeWrites.2.raw? a = some text
  /-- Writes outside the grid make no difference. -/
  outside : s.pass.storeWrites
    = storeAll ((writesOf log).filter fun w => (s.raw? w.cell).isSome) { s.pass with writes := [] }
  /-- By themselves they are no change. -/
  silent : (∀ w ∈ writesOf log, s.raw? w.cell = none) → s.pass.storeWrites.1 = false

theorem exists_chronicle_pass (s : Sheet) :
    ∃ log, (Descent.ofPass s).Chronicle log (Descent.passed s) :=
  Descent.exists_chronicle (Descent.terminates_ofPass s).steps

/-- **A pass writes back** what is queued in it, if nothing has been queued
before. -/
theorem writesBack_of_chronicle {s : Sheet} (hqueue : s.writes = []) {log : List Happening}
    (h : (Descent.ofPass s).Chronicle log (Descent.passed s)) : s.WritesBack log := by
  have hscripts : ∀ reader writes events, .emitted reader writes events ∈ log →
      ∃ cell, reader = some cell ∧ s.setting.Leaves cell writes events :=
    fun reader writes events hmem =>
      h.leaves (Descent.leavesOnly_visit _) (fun _ hact => nomatch hact) hmem
  have hwrites : s.pass.writes = writesOf log := by
    obtain ⟨hqueued, -⟩ := h.sheet
    exact hqueued.trans (congrArg (· ++ writesOf log) hqueue)
  have hraw (a : Address) :
      s.pass.storeWrites.2.raw? a = (s.raw? a).map (textAfter a (writesOf log)) := by
    rw [raw?_storeWrites, hwrites, raw?_pass]
  refine ⟨hscripts, fun a ha => ?_, fun a text before after ha hlog hafter => ?_, ?_,
    fun hout => ?_⟩
  · rw [hraw]
    cases s.raw? a with
    | none => rfl
    | some raw => exact congrArg some (textAfter_eq_self fun w hw hcell => absurd hcell (ha w hw))
  · obtain ⟨raw, hcell⟩ := Option.isSome_iff_exists.mp ha
    rw [hraw, hcell, hlog, Option.map_some, textAfter_of_last hafter]
  · have hcells : (fun w : Write => (s.raw? w.cell).isSome)
        = fun w => (({ s.pass with writes := [] } : Sheet).raw? w.cell).isSome :=
      funext fun w => congrArg Option.isSome (s.raw?_pass w.cell).symm
    rw [storeWrites, hwrites, hcells, storeAll_filter]
  · refine Bool.eq_false_iff.mpr fun hchanged => ?_
    obtain ⟨w, hw, raw, hcell, -⟩ := s.pass.changed_storeWrites_iff.mp hchanged
    rw [raw?_pass] at hcell
    exact Option.some_ne_none raw (hcell.symm.trans (hout w (hwrites ▸ hw)))

/-! ## One pass after the other -/

theorem afterPasses_succ (n : Nat) : ∀ s : Sheet,
    afterPasses (n + 1) s = (afterPasses n s).pass.storeWrites.2 := by
  induction n with
  | zero => exact fun s => rfl
  | succ n ih => exact fun s => ih _

/-- Every pass starts without writes, if the first one does. -/
theorem writes_afterPasses {s : Sheet} (hqueue : s.writes = []) (n : Nat) :
    (afterPasses n s).writes = [] := by
  cases n with
  | zero => exact hqueue
  | succ n =>
    rw [afterPasses_succ]
    exact writes_storeAll _ _

/-- **A cell that is written to in no pass keeps its text.** -/
theorem raw?_afterPasses {s : Sheet} (hqueue : s.writes = []) {a : Address} {n : Nat}
    (h : ∀ j, j < n → ∀ log,
      (Descent.ofPass (afterPasses j s)).Chronicle log (Descent.passed (afterPasses j s)) →
        ∀ w ∈ writesOf log, w.cell ≠ a) :
    (afterPasses n s).raw? a = s.raw? a := by
  induction n with
  | zero => rfl
  | succ n ih =>
    obtain ⟨log, hlog⟩ := exists_chronicle_pass (afterPasses n s)
    have hback := writesBack_of_chronicle (writes_afterPasses hqueue n) hlog
    rw [afterPasses_succ, hback.kept a (h n (Nat.lt_succ_self n) log hlog)]
    exact ih fun j hj => h j (Nat.lt_succ_of_lt hj)

/-- **What an evaluation of all cells changes.** It keeps the shape of the grid,
the tempo and the time. It is a number of passes, each with a chronicle, where
each writes back what its scripts ask for, in the order in which they come to
their end; there is another pass only if that is a change. The evaluation ends
with what the last pass has written back, or, if no more passes may follow, with
the last pass itself. So a cell that no script has written to in any of the
passes has the text that it had. -/
theorem writesBack_evaluateAll (s : Sheet) (hqueue : s.writes = []) :
    (s.evaluateAll.grid.rows = s.grid.rows ∧ s.evaluateAll.grid.cols = s.grid.cols
        ∧ s.evaluateAll.tempo = s.tempo ∧ s.evaluateAll.time = s.time)
      ∧ (∀ j, ∃ log,
          (Descent.ofPass (afterPasses j s)).Chronicle log (Descent.passed (afterPasses j s)))
      ∧ (∀ j log,
          (Descent.ofPass (afterPasses j s)).Chronicle log (Descent.passed (afterPasses j s)) →
            (afterPasses j s).WritesBack log
              ∧ afterPasses (j + 1) s = (afterPasses j s).pass.storeWrites.2)
      ∧ ∃ k, k ≤ maxPasses ∧ (account maxPasses s).passes = k + 1
        ∧ (∀ j, j < k → (afterPasses j s).pass.storeWrites.1 = true)
        ∧ (k < maxPasses → s.evaluateAll = afterPasses (k + 1) s)
        ∧ (k = maxPasses → s.evaluateAll = { (afterPasses maxPasses s).pass with writes := [] })
        ∧ ∀ a, (∀ j, j ≤ k → ∀ log,
            (Descent.ofPass (afterPasses j s)).Chronicle log (Descent.passed (afterPasses j s)) →
              ∀ w ∈ writesOf log, w.cell ≠ a) →
          s.evaluateAll.raw? a = s.raw? a := by
  obtain ⟨k, hk, hpasses, hsettle, hchanged, hlast⟩ := exists_passes_account maxPasses s
  refine ⟨⟨s.rows_evaluateAll, s.cols_evaluateAll, s.tempo_evaluateAll,
      congrArg Formula.Setting.time s.setting_evaluateAll⟩,
    fun j => exists_chronicle_pass _,
    fun j log hlog => ⟨writesBack_of_chronicle (writes_afterPasses hqueue j) hlog,
      afterPasses_succ j s⟩,
    k, hk, hpasses, hchanged, fun hkn => ?_, ?_, fun a ha => ?_⟩
  · rw [evaluateAll, hsettle, afterPasses_succ]
    exact (storeAll_eq_of_unchanged (Prod.ext (hlast hkn) rfl)).symm
  · rintro rfl
    exact hsettle
  · rw [evaluateAll, hsettle]
    show (afterPasses k s).pass.raw? a = _
    rw [raw?_pass]
    exact raw?_afterPasses hqueue fun j hj => ha j (Nat.le_of_lt hj)

/-- A script that writes to a cell twice, and once outside the grid. -/
def wroteTwice : Sheet :=
  (Sheet.new 0 0 plainHost).setRows
    [["=JS(setValue(\"B1\", \"x\"); setValue(\"Z9\", 1); setValue(\"B1\", \"y\"))", "", "z"]]

/-- The first pass changes the second cell, to the later text, and leaves the
third one alone. -/
theorem writesBack_wroteTwice : ∃ log,
    (Descent.ofPass wroteTwice).Chronicle log (Descent.passed wroteTwice)
      ∧ writesOf log = [⟨⟨0, 1⟩, "x"⟩, ⟨⟨8, 25⟩, "1"⟩, ⟨⟨0, 1⟩, "y"⟩]
      ∧ (afterPasses 1 wroteTwice).raw? ⟨0, 1⟩ = some "y"
      ∧ (afterPasses 1 wroteTwice).raw? ⟨0, 2⟩ = wroteTwice.raw? ⟨0, 2⟩ := by
  have hend : (Descent.history 10 (Descent.ofPass wroteTwice)).2.step.isNone = true := by
    decide +kernel
  have hlog := Descent.chronicle_history_ofPass hend
  have hwrites : writesOf (Descent.history 10 (Descent.ofPass wroteTwice)).1
      = [⟨⟨0, 1⟩, "x"⟩, ⟨⟨8, 25⟩, "1"⟩, ⟨⟨0, 1⟩, "y"⟩] := by
    decide +kernel
  obtain ⟨-, -, hpasses, -⟩ := writesBack_evaluateAll wroteTwice rfl
  obtain ⟨hback, hnext⟩ := hpasses 0 _ hlog
  refine ⟨_, hlog, hwrites, ?_, ?_⟩
  · rw [hnext]
    exact hback.last ⟨0, 1⟩ "y" [⟨⟨0, 1⟩, "x"⟩, ⟨⟨8, 25⟩, "1"⟩] [] (by decide +kernel) hwrites
      fun _ hw => nomatch hw
  · rw [hnext]
    refine hback.kept ⟨0, 2⟩ fun w hw => ?_
    rw [hwrites] at hw
    revert w
    decide

end Sheet

end SoundSheet
