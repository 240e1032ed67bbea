import SoundSheet.Proofs.Sheet.Circular
import SoundSheet.Proofs.Sheet.Current
import SoundSheet.Proofs.Sheet.OneRenaming
import SoundSheet.Proofs.Sheet.ScriptFree
import SoundSheet.Proofs.Sheet.Voices

/-!
# Formulas that are tried out

A formula can be evaluated on a sheet without being in any cell, and it can be
entered into an empty cell and evaluated there, together with all other cells.
This gives the same value if there are no scripts and no circular references and
if nothing reads the cell (`exists_renaming_entered`).

The two evaluations differ in all that does not matter. The one finds every cell
evaluated by the last pass. The other evaluates all cells once more, in their
order, so other cells may be evaluated on behalf of the formula and buses get
other numbers. Between them stands the sheet on which the last pass is left as
it is and only the new cell is looked up. There the formula runs as it does
outside the grid, since it finds the same values in the cells that it reads
(`Runs.exists_evaluates_of_hasValue`). And both this sheet and that of the new
pass hold plain values and share their buses as they should, whence their values
are the same up to a renaming of buses (`Faithful.sameValues`).
-/

namespace SoundSheet

open SoundSheet.Script SoundSheet.Formula SoundSheet.Sheet SoundSheet.Text

/-! ## Buses without scripts -/

/-- **A run keeps the cells sharing their buses** on a sheet without scripts,
with whatever host. -/
theorem Runs.shares_of_scriptFree {α : Type} {p : Plan α} {s t : Sheet}
    {r : Except FormulaError α} (h : Runs p s r t)
    (hfree : ∀ a raw, s.raw? a = some raw → ScriptFree raw) (hs : s.HoldsOpened)
    (hshares : s.Shares) : t.Shares := by
  have hplain := (h.withHost hfree plainHost).shares returnsNoMusic_plainHost hs
    (hshares.congr rfl rfl)
  exact hplain.congr rfl rfl

/-- No bus is closed by a run. -/
theorem Runs.fresh_le {α : Type} {p : Plan α} {s t : Sheet} {r : Except FormulaError α}
    (h : Runs p s r t) : s.board.fresh ≤ t.board.fresh := by
  induction h with
  | done a s => exact Nat.le_refl _
  | fail e s => exact Nat.le_refl _
  | outside _ _ ih => exact ih
  | marked _ _ ih => exact ih
  | known _ _ ih => exact ih
  | fresh _ _ _ _ ihformula ihnext => exact ihformula.trans ihnext
  | openBus _ ih =>
    rw [Switchboard.fresh_openBus] at ih
    exact (Nat.le_succ _).trans ih
  | emit _ ih => exact ih

/-! ## Plain values -/

section Plain

variable {setting : Setting} {texts : Address → Option String} {s t : Sheet}

/-- **Plain values are faithful.** -/
theorem Sheet.HasPlain.faithful (hbuses : IgnoreBuses s.setting s.raw?)
    (h : s.HasPlain s.setting s.raw?) : Faithful s.setting s.raw? s := by
  refine ⟨rfl, fun _ => rfl, fun a v w reads hv hw => ?_⟩
  obtain ⟨reads', hv⟩ := h a v hv
  exact (hv.matches hbuses hw).1

/-- **In whatever order the cells have been evaluated**, the values are the same
up to a renaming of buses, if all cells are well-founded and the buses are
shared as they should. -/
theorem Faithful.sameValues (hs : Faithful setting texts s) (ht : Faithful setting texts t)
    (hwf : ∀ a, (texts a).isSome → WellFounded setting texts a)
    (hvalue : ∀ a, (texts a).isSome → s.HasValue a)
    (hvalue' : ∀ a, (texts a).isSome → t.HasValue a) (hshares : s.Shares)
    (hshares' : t.Shares) : s.SameValues t := by
  have hraw : t.raw? = s.raw? := funext fun a => (ht.raw_eq a).trans (hs.raw_eq a).symm
  refine sameValues_of_shares hshares hshares' hraw fun a => ?_
  cases htext : texts a with
  | none =>
    have hnone : ∀ {u : Sheet}, Faithful setting texts u → u.value? a = none := by
      intro u hu
      rw [value?, (u.slot?_eq_none_iff a).mpr ((hu.raw_eq a).trans htext)]
      rfl
    rw [hnone hs, hnone ht]
    exact .none
  | some raw =>
    have hcell : (texts a).isSome := by
      rw [htext]
      rfl
    obtain ⟨x, reads, hx⟩ := hwf a hcell
    obtain ⟨v, hv⟩ := hvalue a hcell
    obtain ⟨w, hw⟩ := hvalue' a hcell
    rw [value?_eq_some_iff.mpr hv, value?_eq_some_iff.mpr hw]
    exact .some ((hs.value a v x reads hv hx).trans_anyBus
      (ht.value a w x reads hw hx).symm_anyBus)

/-- **Where every cell has a plain value** a plan runs as plain evaluation has
it, and it runs alike on every sheet with the same buses that shows the same in
the cells that it reads. -/
theorem Runs.exists_evaluates_of_hasValue {α : Type} {p : Plan α} {r : Except FormulaError α}
    (h : Runs p s r t) (hvalues : ∀ a, (s.raw? a).isSome → s.HasValue a)
    (htexts : ∀ a, s.raw? a = texts a) (hplain : s.HasPlain setting texts) :
    ∃ reads, Evaluates setting texts p r reads
      ∧ ∀ s' : Sheet, (∀ a ∈ reads, s'.slot? a = s.slot? a) → s'.board = s.board →
          ∃ t', Runs p s' r t' := by
  induction h with
  | done a s => exact ⟨[], .done a, fun s' _ _ => ⟨s', .done a s'⟩⟩
  | fail e s => exact ⟨[], .fail e, fun s' _ _ => ⟨s', .fail e s'⟩⟩
  | outside hcell _ ih =>
    obtain ⟨reads, hreads, hlocal⟩ := ih hvalues htexts hplain
    refine ⟨_, .outside ?_ hreads, fun s' hslots hboard => ?_⟩
    · rwa [slot?_eq_none_iff, htexts] at hcell
    · obtain ⟨hcell', hslots⟩ := List.forall_mem_cons.mp hslots
      obtain ⟨t', hrun⟩ := hlocal s' hslots hboard
      exact ⟨t', .outside (hcell'.trans hcell) hrun⟩
  | @marked _ cell _ s _ _ hcell _ _ =>
    obtain ⟨v, hv⟩ := hvalues cell (by rw [← isSome_slot?, hcell]; rfl)
    cases hcell.symm.trans hv
  | known hcell _ ih =>
    obtain ⟨reads, hreads, hlocal⟩ := ih hvalues htexts hplain
    obtain ⟨reads₁, raw, r₁, hraw, hr₁, rfl⟩ := hplain _ _ hcell
    refine ⟨_, .inside hraw hr₁ hreads, fun s' hslots hboard => ?_⟩
    obtain ⟨hcell', hslots⟩ := List.forall_mem_cons.mp hslots
    obtain ⟨t', hrun⟩ := hlocal s' (fun a ha => hslots a (List.mem_append_right _ ha)) hboard
    exact ⟨t', .known (hcell'.trans hcell) hrun⟩
  | @fresh _ cell _ s _ _ _ _ _ hcell _ _ _ _ _ =>
    obtain ⟨v, hv⟩ := hvalues cell (by rw [← isSome_slot?, hcell]; rfl)
    cases hcell.symm.trans hv
  | openBus _ ih =>
    obtain ⟨reads, hreads, hlocal⟩ := ih hvalues htexts hplain
    refine ⟨reads, .openBus _ hreads, fun s' hslots hboard => ?_⟩
    obtain ⟨t', hrun⟩ := hlocal { s' with board := s'.board.openBus } hslots
      (congrArg Switchboard.openBus hboard)
    rw [← hboard] at hrun
    exact ⟨t', .openBus hrun⟩
  | emit _ ih =>
    obtain ⟨reads, hreads, hlocal⟩ := ih hvalues htexts hplain
    refine ⟨reads, .emit hreads, fun s' hslots hboard => ?_⟩
    obtain ⟨t', hrun⟩ := hlocal
      { s' with writes := s'.writes ++ _, events := s'.events ++ _ } hslots hboard
    exact ⟨t', .emit hrun⟩

end Plain

namespace Sheet

/-! ## Passes -/

/-- A pass leaves plain values. -/
theorem faithful_pass {s : Sheet} (hbuses : IgnoreBuses s.setting s.raw?) :
    Faithful s.setting s.raw? s.pass := by
  refine s.runs_pass.faithful hbuses (fun a ha => absurd ha (s.atRest_forgetValues a)) ?_
  exact ⟨rfl, s.raw?_forgetValues, fun a v w reads hv _ =>
    nomatch s.allUnevaluated_forgetValues a _ hv⟩

/-- Without scripts it leaves the buses shared, with whatever host. -/
theorem shares_pass_of_scriptFree {s : Sheet}
    (hfree : ∀ a raw, s.raw? a = some raw → ScriptFree raw) : s.pass.Shares :=
  s.runs_pass.shares_of_scriptFree
    (fun a raw hraw => hfree a raw (by rwa [raw?_forgetValues] at hraw))
    s.allUnevaluated_forgetValues.holdsOpened (.ofAllUnevaluated s.allUnevaluated_forgetValues)

/-- **A pass from scratch refuses no lookup** if and only if all cells are
well-founded. -/
theorem not_refuses_fromScratch_iff {s : Sheet}
    (hfree : ∀ a raw, s.raw? a = some raw → ScriptFree raw) (board : Switchboard) :
    (∀ d x, Descent.Steps (Descent.ofPass (s.fromScratch s.time board)) d → ¬d.Refuses x)
      ↔ ∀ a, (s.raw? a).isSome → WellFounded s.setting s.raw? a := by
  have hraw : (s.fromScratch s.time board).raw? = s.raw? := funext s.raw?_forgetValues
  have hsetting : (s.fromScratch s.time board).setting = s.setting := rfl
  constructor
  · intro hclean a ha
    have hwf := wellFounded_of_not_refuses _ hclean (a := a) (by rwa [hraw])
    rwa [hraw, hsetting] at hwf
  · intro hwf
    refine not_refuses_of_wellFounded _ (hraw ▸ hfree) fun a ha => ?_
    rw [hraw] at ha ⊢
    exact hwf a ha

/-! ## Sheets that show a pass -/

/-- **A sheet that shows the pass over another one**: it has the cells of that
pass as they are, and since then nothing has happened but that buses have been
opened and the time has been set. -/
structure ShowsPass (s u : Sheet) : Prop where
  /-- The grid is that of the pass. -/
  grid : s.grid = u.pass.grid
  /-- The tempo is that of the pass. -/
  tempo : s.tempo = u.tempo
  /-- The host is that of the pass. -/
  host : s.host = u.host
  /-- The buses of the pass have been opened. -/
  fresh_le : u.pass.board.fresh ≤ s.board.fresh
  /-- No write is left. -/
  writes : s.writes = []

/-- **After all cells are evaluated the sheet shows a pass.** -/
theorem exists_showsPass_evaluateAll (s : Sheet) :
    ∃ u : Sheet, u.time = s.time ∧ s.evaluateAll.ShowsPass u := by
  obtain ⟨u, hsetting, hu⟩ := exists_pass_of_settle maxPasses s
  have hpass : u.pass.setting = u.setting := u.fills_pass.setting
  rw [evaluateAll, hu]
  exact ⟨u, congrArg Setting.time hsetting, rfl, congrArg Setting.tempo hpass,
    congrArg Setting.host hpass, Nat.le_refl _, rfl⟩

namespace ShowsPass

variable {s t u : Sheet}

theorem hasValue (h : s.ShowsPass u) {a : Address} (ha : (s.raw? a).isSome) : s.HasValue a := by
  rw [raw?_congr h.grid, raw?_pass] at ha
  rw [HasValue, slot?_congr h.grid]
  exact hasValue_pass ha

/-- A formula that is in no cell leaves the pass there. -/
theorem evaluateFormula (h : s.ShowsPass u) (text : List Char) :
    (s.evaluateFormula text).2.ShowsPass u := by
  have hrun := runs_perform (run s.setting ⟨0, 0⟩ (formulaBody text)) s
  have hsetting := s.setting_evaluateFormula text
  exact ⟨(grid_eq_of_runs hrun fun a ha => h.hasValue ha).trans h.grid,
    (congrArg Setting.tempo hsetting).trans h.tempo,
    (congrArg Setting.host hsetting).trans h.host, h.fresh_le.trans hrun.fresh_le, rfl⟩

section ScriptFree

variable (h : s.ShowsPass u) (hfree : ∀ a raw, s.raw? a = some raw → ScriptFree raw)

include h hfree

theorem scriptFree : ∀ a raw, u.raw? a = some raw → ScriptFree raw := by
  intro a raw hraw
  refine hfree a raw ?_
  rwa [raw?_congr h.grid, raw?_pass]

theorem shares : s.Shares :=
  (shares_pass_of_scriptFree (h.scriptFree hfree)).congr (slot?_congr h.grid) (raw?_congr h.grid)

theorem holdsOpened : s.HoldsOpened := by
  have hpass : u.pass.HoldsOpened := by
    have hopens := opens_pass (s := { u with host := plainHost }) returnsNoMusic_plainHost
    rw [pass_withHost (h.scriptFree hfree)] at hopens
    exact hopens.opened
  intro a bus hbus
  obtain ⟨v, hv, hbus⟩ := hbus
  rw [Has, slot?_congr h.grid] at hv
  exact Nat.lt_of_lt_of_le (hpass a bus ⟨v, hv, hbus⟩) h.fresh_le

/-- **The values are plain values** if all cells are well-founded. -/
theorem hasPlain (htime : u.time = s.time)
    (hwf : ∀ a, (s.raw? a).isSome → WellFounded s.setting s.raw? a) :
    s.HasPlain s.setting s.raw? := by
  have hsetting : s.setting = u.setting := by
    rw [setting, setting, h.tempo, h.host, htime]
  have hraw : s.raw? = u.raw? := (raw?_congr h.grid).trans (funext u.raw?_pass)
  rw [hsetting, hraw] at hwf ⊢
  have hclean := u.not_refuses_of_wellFounded (h.scriptFree hfree) hwf
  obtain ⟨hplain, -⟩ := u.runs_pass.exists_evaluates .bottom hclean rfl u.raw?_forgetValues
    u.allUnevaluated_forgetValues.hasPlain
  intro a v hv
  rw [slot?_congr h.grid] at hv
  exact hplain a v hv

end ScriptFree

end ShowsPass

/-! ## Formulas in no cell -/

/-- A formula that does not begin with an equals sign is its own body. -/
theorem formulaBody_of_head? {text : List Char} (h : text.head? ≠ some '=') :
    formulaBody text = text := by
  unfold formulaBody
  split
  · exact absurd rfl h
  · rfl

/-- **The value of a formula that is in no cell** is that of its run. -/
theorem evaluateFormula_fst (s : Sheet) (text : List Char) : (s.evaluateFormula text).1
    = valueOf (s.perform (run s.setting ⟨0, 0⟩ (formulaBody text))).1 := by
  rw [evaluateFormula]

/-! ## Entering a text -/

/-- The sheet after a raw text has been entered. -/
def entered (s : Sheet) (a : Address) (text : String) : Sheet :=
  { s with grid := s.grid.modify a fun _ => Cell.ofRaw text }

section Entered

variable {s : Sheet} {c : Address} {text : String}

theorem raw?_entered_of_ne {a : Address} (h : c ≠ a) : (s.entered c text).raw? a = s.raw? a := by
  rw [raw?, entered, Grid.get?_modify, if_neg h]
  rfl

theorem slot?_entered_of_ne {a : Address} (h : c ≠ a) :
    (s.entered c text).slot? a = s.slot? a := by
  rw [slot?, entered, Grid.get?_modify, if_neg h]
  rfl

/-- The text that is entered is there, and not evaluated yet. -/
theorem get?_entered_self (h : (s.raw? c).isSome) (text : String) :
    (s.entered c text).raw? c = some text ∧ (s.entered c text).slot? c = some .unevaluated := by
  rw [raw?, Option.isSome_map] at h
  obtain ⟨cell, hcell⟩ := Option.isSome_iff_exists.mp h
  have hget : (s.entered c text).grid.get? c = some (Cell.ofRaw text) := by
    rw [entered, Grid.get?_modify, if_pos rfl, hcell]
    rfl
  rw [raw?, slot?, hget]
  exact ⟨rfl, rfl⟩

/-- So the cells that have a value are other cells. -/
theorem has_entered_iff (h : (s.raw? c).isSome) {a : Address} {v : CellValue} :
    (s.entered c text).Has a v ↔ c ≠ a ∧ s.Has a v := by
  by_cases hca : c = a
  · subst hca
    rw [Has, (get?_entered_self h text).2]
    refine iff_of_false (fun hv => ?_) fun hv => hv.1 rfl
    cases hv
  · rw [Has, slot?_entered_of_ne hca]
    exact (and_iff_right hca).symm

/-- **The buses stay shared** if the cell has triggered none. -/
theorem Shares.entered (h : s.Shares) (hin : (s.raw? c).isSome)
    (hsilent : ∀ v, s.Has c v → v.triggerBus? = none) : (s.entered c text).Shares := by
  have hold : ∀ {a v}, (s.entered c text).Has a v → c ≠ a ∧ s.Has a v :=
    fun hv => (has_entered_iff hin).mp hv
  have hkept : ∀ {a v bus}, s.Has a v → v.triggerBus? = some bus →
      (s.entered c text).Has a v := by
    intro a v bus hv hbus
    refine (has_entered_iff hin).mpr ⟨?_, hv⟩
    rintro rfl
    cases (hsilent v hv).symm.trans hbus
  refine ⟨fun a b v w bus hv hw => h.distinct a b v w bus (hold hv).2 (hold hw).2,
    fun a voice ha => ?_⟩
  obtain ⟨hca, ha⟩ := hold ha
  obtain ⟨raw, hraw, horigin⟩ := h.bound a voice ha
  refine ⟨raw, (raw?_entered_of_ne hca).trans hraw, ?_⟩
  rcases horigin.voice_cases with ⟨name, cell, w, hargument, hname, hread, hbus⟩
    | ⟨source, hargument, honly⟩
  · exact .shared hargument hname (hkept hread hbus) hbus
  · refine .nested hargument fun b hb => ?_
    obtain ⟨w, hw, hbus⟩ := hb
    exact honly b ⟨w, (hold hw).2, hbus⟩

theorem HoldsOpened.entered (h : s.HoldsOpened) (hin : (s.raw? c).isSome) :
    (s.entered c text).HoldsOpened := by
  intro a bus hbus
  obtain ⟨v, hv, hbus⟩ := hbus
  exact h a bus ⟨v, ((has_entered_iff hin).mp hv).2, hbus⟩

end Entered

/-! ## Cells that nothing reads -/

/-- **A plan reaches a cell** if it reads the cell, be it through other
cells. -/
def Reaches (s : Sheet) {α : Type} (p : Plan α) (c : Address) : Prop :=
  ∃ r reads, Evaluates s.setting s.raw? p r reads ∧ c ∈ reads

/-- **One plain evaluation tells what a plan reaches.** -/
theorem not_reaches_of_evaluates {s : Sheet} (hbuses : IgnoreBuses s.setting s.raw?) {α : Type}
    {A : α → α → Prop} {p : Plan α} (hp : p.Matches AnyBus A p) {r : Except FormulaError α}
    {reads : List Address} (h : Evaluates s.setting s.raw? p r reads) {c : Address}
    (hc : c ∉ reads) : ¬s.Reaches p c := by
  rintro ⟨r', reads', h', hmem⟩
  obtain ⟨-, rfl⟩ := h.matches hbuses hp h'
  exact hc hmem

/-- What does not reach a cell has the same plain meaning whatever is entered
there. -/
theorem evaluates_entered {s : Sheet} {c : Address} (text : String) {α : Type} {p : Plan α}
    {r : Except FormulaError α} {reads : List Address}
    (h : Evaluates s.setting s.raw? p r reads) (hp : ¬s.Reaches p c) :
    Evaluates (s.entered c text).setting (s.entered c text).raw? p r reads ∧ c ∉ reads := by
  have hc : c ∉ reads := fun hmem => hp ⟨r, reads, h, hmem⟩
  exact ⟨h.congr fun a ha => raw?_entered_of_ne (ne_of_mem_of_not_mem ha hc).symm, hc⟩

/-- **A trial**: a formula, and an empty cell that neither the formula nor any
cell reads. There are no scripts, and all cells are well-founded. -/
structure Trial (s : Sheet) (c : Address) (f : String) : Prop where
  /-- No cell calls a script. -/
  scriptFree : ∀ a raw, s.raw? a = some raw → ScriptFree raw
  /-- All cells are well-founded. -/
  wellFounded : ∀ a, (s.raw? a).isSome → WellFounded s.setting s.raw? a
  /-- The formula calls no script. -/
  formula : ¬CallsScript f.toList
  /-- The cell is in the grid and empty. -/
  empty : s.raw? c = some ""
  /-- No cell reads it. -/
  unread : ∀ a raw, s.raw? a = some raw → ¬s.Reaches (runRaw s.setting a raw) c
  /-- Neither does the formula. -/
  unread_formula : ¬s.Reaches (run s.setting ⟨0, 0⟩ (trim f.toList)) c

namespace Trial

variable {s u : Sheet} {c : Address} {f : String} (h : s.Trial c f)

include h

theorem isSome_raw? : (s.raw? c).isSome := by
  rw [h.empty]
  rfl

theorem raw?_entered_self : (s.entered c ("=" ++ f)).raw? c = some ("=" ++ f) :=
  (get?_entered_self h.isSome_raw? _).1

/-- There are no scripts after the formula has been entered either. -/
theorem scriptFree_entered :
    ∀ a raw, (s.entered c ("=" ++ f)).raw? a = some raw → ScriptFree raw := by
  intro a raw hraw
  by_cases hca : c = a
  · subst hca
    obtain rfl := Option.some.inj (h.raw?_entered_self.symm.trans hraw)
    intro body hbody
    obtain rfl := Option.some.inj ((body?_append f).symm.trans hbody)
    exact h.formula
  · exact h.scriptFree a raw ((raw?_entered_of_ne hca).symm.trans hraw)

/-- **In the cell it is the same formula**, spaces around it and the cell
apart. -/
theorem runRaw_eq :
    runRaw s.setting c ("=" ++ f) = run s.setting ⟨0, 0⟩ (trim f.toList) :=
  (runRaw_of_body? _ _ (body?_append f)).trans (run_trim rfl rfl c ⟨0, 0⟩ h.formula).symm

variable (hpass : s.ShowsPass u) (htime : u.time = s.time)

include hpass htime

theorem hasPlain : s.HasPlain s.setting s.raw? :=
  hpass.hasPlain h.scriptFree htime h.wellFounded

/-- The other cells keep their plain values. -/
theorem hasPlain_entered : (s.entered c ("=" ++ f)).HasPlain s.setting
    (s.entered c ("=" ++ f)).raw? := by
  intro a v hv
  obtain ⟨hca, hv⟩ := (has_entered_iff h.isSome_raw?).mp hv
  obtain ⟨reads, raw, r, hraw, hr, heq⟩ := h.hasPlain hpass htime a v hv
  obtain ⟨hr, -⟩ := evaluates_entered ("=" ++ f) hr (h.unread a raw hraw)
  exact ⟨reads, raw, r, (raw?_entered_of_ne hca).trans hraw, hr, heq⟩

theorem faithful_entered : Faithful s.setting (s.entered c ("=" ++ f)).raw?
    (s.entered c ("=" ++ f)) :=
  (h.hasPlain_entered hpass htime).faithful (ignoreBuses_of_scriptFree h.scriptFree_entered)

omit htime in
theorem shares_entered : (s.entered c ("=" ++ f)).Shares := by
  refine (hpass.shares h.scriptFree).entered h.isSome_raw? fun v hv => ?_
  -- an empty cell has no bus
  obtain rfl := (u.orderly_pass.congr hpass.grid).literal c "" v h.empty hv rfl
  rfl

/-- **The formula runs in the cell as it does outside the grid**, and plain
evaluation has the same result. -/
theorem exists_runs_entered : ∃ t reads,
    Runs (runRaw s.setting c ("=" ++ f)) ((s.entered c ("=" ++ f)).setSlot c .evaluating)
        (s.perform (run s.setting ⟨0, 0⟩ (trim f.toList))).1 t
      ∧ Evaluates s.setting (s.entered c ("=" ++ f)).raw? (runRaw s.setting c ("=" ++ f))
        (s.perform (run s.setting ⟨0, 0⟩ (trim f.toList))).1 reads := by
  obtain ⟨reads, hreads, hlocal⟩ := (runs_perform (run s.setting ⟨0, 0⟩ (trim f.toList)) s)
    |>.exists_evaluates_of_hasValue (fun a ha => hpass.hasValue ha) (fun _ => rfl)
      (h.hasPlain hpass htime)
  obtain ⟨hplain, hunread⟩ := evaluates_entered ("=" ++ f) hreads h.unread_formula
  rw [h.runRaw_eq]
  -- the cells that it reads are other cells, and these are as before
  obtain ⟨t, hrun⟩ := hlocal ((s.entered c ("=" ++ f)).setSlot c .evaluating) (fun a ha => by
    have hca : c ≠ a := (ne_of_mem_of_not_mem ha hunread).symm
    rw [slot?_setSlot_of_ne _ hca, slot?_entered_of_ne hca]) rfl
  exact ⟨t, reads, hrun, hplain⟩

/-- All cells are well-founded after the formula has been entered. -/
theorem wellFounded_entered (a : Address) (ha : ((s.entered c ("=" ++ f)).raw? a).isSome) :
    WellFounded s.setting (s.entered c ("=" ++ f)).raw? a := by
  by_cases hca : c = a
  · subst hca
    obtain ⟨-, reads, -, hreads⟩ := h.exists_runs_entered hpass htime
    exact ⟨_, reads, _, _, h.raw?_entered_self, hreads, rfl⟩
  · rw [raw?_entered_of_ne hca] at ha
    obtain ⟨v, hv⟩ := hpass.hasValue ha
    obtain ⟨reads, hplain⟩ := h.hasPlain_entered hpass htime a v
      ((has_entered_iff h.isSome_raw?).mpr ⟨hca, hv⟩)
    exact ⟨v, reads, hplain⟩

/-- **The sheet in between**: the last pass is left as it is, and only the new
cell is looked up. The other cells have the values of before, and the new one
has that of the formula outside the grid. -/
theorem exists_between : ∃ between : Sheet,
    Faithful s.setting (s.entered c ("=" ++ f)).raw? between ∧ between.Shares
      ∧ (∀ a, a ≠ c → between.slot? a = s.slot? a)
      ∧ between.Has c (valueOf (s.perform (run s.setting ⟨0, 0⟩ (trim f.toList))).1) := by
  obtain ⟨t, reads, hrun, hreads⟩ := h.exists_runs_entered hpass htime
  generalize (s.perform (run s.setting ⟨0, 0⟩ (trim f.toList))).1 = r at hrun hreads ⊢
  have hslot := (get?_entered_self h.isSome_raw? ("=" ++ f)).2
  have hlookup : Runs (Plan.lookup c) (s.entered c ("=" ++ f)) (.ok (valueOf r))
      (t.setSlot c (.evaluated (valueOf r))) :=
    .fresh hslot h.raw?_entered_self hrun (.done _ _)
  have horderly : (s.entered c ("=" ++ f)).Orderly :=
    (u.orderly_pass.congr hpass.grid).enter c ("=" ++ f)
  have hfaithful := (hlookup.agrees (ignoreBuses_of_scriptFree h.scriptFree_entered) (.lookup c)
    (.inside h.raw?_entered_self hreads (.done _)) (fun a _ => horderly.atRest a)
    (h.faithful_entered hpass htime)).2
  refine ⟨_, hfaithful, hlookup.shares_of_scriptFree h.scriptFree_entered
    ((hpass.holdsOpened h.scriptFree).entered h.isSome_raw?) (h.shares_entered hpass),
    fun a hca => ?_, ?_⟩
  · rcases hlookup.fills.slot a with hsame | ⟨hfresh, -⟩
    · exact hsame.trans (slot?_entered_of_ne hca.symm)
    · -- every other cell has a value already
      rw [slot?_entered_of_ne hca.symm] at hfresh
      obtain ⟨v, hv⟩ := hpass.hasValue (a := a) (by rw [← isSome_slot?, hfresh]; rfl)
      cases hfresh.symm.trans hv
  · have hmark := (hrun.fills.slot?_evaluating_iff c).mpr (slot?_setSlot_self _ hslot)
    exact slot?_setSlot_self _ hmark

/-- **A formula that is entered has the value that it has outside the grid**,
and no other cell changes its value, up to one renaming of buses. -/
theorem exists_renaming : ∃ R, Relator.BiUnique R
    ∧ (∀ a, a ≠ c → Option.Rel (CellValue.Matches R) (s.value? a)
        ((s.entered c ("=" ++ f)).evaluateAll.value? a))
    ∧ ∃ w, (s.entered c ("=" ++ f)).evaluateAll.value? c = some w
        ∧ (valueOf (s.perform (run s.setting ⟨0, 0⟩ (trim f.toList))).1).Matches R w := by
  obtain ⟨between, hfaithful, hshares, hslots, hc⟩ := h.exists_between hpass htime
  have hvalue : ∀ a, ((s.entered c ("=" ++ f)).raw? a).isSome → between.HasValue a := by
    intro a ha
    by_cases hca : a = c
    · exact hca ▸ ⟨_, hc⟩
    · rw [raw?_entered_of_ne (Ne.symm hca)] at ha
      rw [HasValue, hslots a hca]
      exact hpass.hasValue ha
  obtain ⟨R, hR, hvalues⟩ := hfaithful.sameValues
    (faithful_pass (ignoreBuses_of_scriptFree h.scriptFree_entered))
    (h.wellFounded_entered hpass htime) hvalue (fun a ha => hasValue_pass ha) hshares
    (shares_pass_of_scriptFree h.scriptFree_entered)
  have hend : (s.entered c ("=" ++ f)).evaluateAll = (s.entered c ("=" ++ f)).pass :=
    evaluateAll_eq_pass h.scriptFree_entered hpass.writes
  rw [hend]
  refine ⟨R, hR, fun a hca => ?_, ?_⟩
  · have hrel := hvalues a
    rw [value?, hslots a hca] at hrel
    exact hrel
  · have hrel := hvalues c
    rw [value?_eq_some_iff.mpr hc] at hrel
    generalize (s.entered c ("=" ++ f)).pass.value? c = y at hrel ⊢
    cases hrel with
    | some hmatch => exact ⟨_, rfl, hmatch⟩

end Trial

end Sheet

end SoundSheet
