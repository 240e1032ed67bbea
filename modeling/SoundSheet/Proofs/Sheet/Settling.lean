import SoundSheet.Proofs.Sheet.Current
import SoundSheet.Proofs.Sheet.Operations

/-!
# Evaluations of all cells side by side, and twice

What an evaluation of all cells starts from is the raw texts, the setting and
the writes that are queued. Values, marks, events and buses are left from before
and make no difference, for a pass forgets them or adds to them only. So two
sheets that agree in the former end with the same raw texts, and with the same
values up to a renaming of buses, whatever has been done to either of them
(`sameTexts_settle`). The queue cannot be left out: a script that is run by
itself, outside of a pass, queues a write that is still there when the script is
gone.

The passes of an evaluation are counted by an `Account` of it. If the last of
them changes nothing, all that it has queued is in the grid already. A second
evaluation then starts from the same raw texts, queues the same in its first
pass (`unchanged_pass_pass`), and so that pass is its only one.
-/

namespace SoundSheet

open SoundSheet.Script SoundSheet.Formula

/-! ## Sheets with the same texts -/

/-- A sheet that fills another one up has the same texts. -/
theorem Fills.sameTexts {s t : Sheet} (h : Fills s t) : s.SameTexts t :=
  ⟨h.raw, h.rows, h.cols, h.setting⟩

/-- **A grid is given by its entries** and the number of its rows. -/
theorem Grid.toRows_eq_of_get? {α : Type} {g h : Grid α} (hrows : h.rows = g.rows)
    (hget : ∀ a, h.get? a = g.get? a) : h.toRows = g.toRows := by
  refine List.ext_getElem hrows fun i hi hi' => List.ext_getElem? fun j => ?_
  have hij := hget ⟨i, j⟩
  rwa [Grid.get?, Grid.get?, List.getElem?_eq_getElem hi, List.getElem?_eq_getElem hi'] at hij

namespace Sheet

variable {s t u : Sheet}

theorem get?_map_raw (s : Sheet) (a : Address) : (s.grid.map Cell.raw).get? a = s.raw? a := by
  rw [Grid.get?_map, raw?]

theorem map_raw_eq (h : t.rawRows = s.rawRows) :
    t.grid.map Cell.raw = s.grid.map Cell.raw := by
  rw [Grid.mk.injEq]
  exact h

/-- Sheets with as many rows have the same raw grid if every cell has the same
text. -/
theorem rawRows_eq_iff (hrows : t.grid.rows = s.grid.rows) :
    t.rawRows = s.rawRows ↔ ∀ a, t.raw? a = s.raw? a := by
  constructor
  · intro h a
    rw [← get?_map_raw, ← get?_map_raw, map_raw_eq h]
  · intro h
    refine Grid.toRows_eq_of_get? ?_ fun a => ?_
    · rw [Grid.rows_map, Grid.rows_map, hrows]
    · rw [get?_map_raw, get?_map_raw, h]

namespace SameTexts

theorem rawRows_eq (h : s.SameTexts t) : t.rawRows = s.rawRows :=
  (rawRows_eq_iff h.rows).mpr h.raw

/-- Sheets with the same raw grid in the same setting have the same texts. -/
theorem of_rawRows_eq (h : t.rawRows = s.rawRows) (hsetting : t.setting = s.setting) :
    s.SameTexts t := by
  have hrows : t.grid.rows = s.grid.rows := by
    rw [← t.grid.rows_map Cell.raw, ← s.grid.rows_map Cell.raw, map_raw_eq h]
  refine ⟨(rawRows_eq_iff hrows).mp h, hrows, ?_, hsetting⟩
  rw [← t.grid.cols_map Cell.raw, ← s.grid.cols_map Cell.raw, map_raw_eq h]

theorem symm (h : s.SameTexts t) : t.SameTexts s :=
  ⟨fun a => (h.raw a).symm, h.rows.symm, h.cols.symm, h.setting.symm⟩

theorem trans (h : s.SameTexts t) (h' : t.SameTexts u) : s.SameTexts u :=
  ⟨fun a => (h'.raw a).trans (h.raw a), h'.rows.trans h.rows, h'.cols.trans h.cols,
    h'.setting.trans h.setting⟩

/-- The queue is no text. -/
theorem withWrites (h : s.SameTexts t) (first second : List Write) :
    SameTexts { s with writes := first } { t with writes := second } :=
  ⟨h.raw, h.rows, h.cols, h.setting⟩

/-- A pass leaves the texts alone. -/
theorem self_pass (s : Sheet) : s.SameTexts s.pass where
  raw := s.raw?_pass
  rows := s.fills_pass.rows.trans s.rows_forgetValues
  cols := s.fills_pass.cols.trans s.cols_forgetValues
  setting := s.fills_pass.setting

/-- So does the end of an evaluation that stores nothing. -/
theorem self_end (s : Sheet) : s.SameTexts { s.pass with writes := [] } :=
  (self_pass s).withWrites s.writes []

theorem pass (h : s.SameTexts t) : s.pass.SameTexts t.pass :=
  (self_pass s).symm.trans (h.trans (self_pass t))

/-! ## Storing -/

theorem overwrite (h : s.SameTexts t) (a : Address) (text : String) :
    (s.overwrite a text).SameTexts (t.overwrite a text) := by
  refine ⟨fun b => ?_, ?_, ?_, h.setting⟩
  · have hraw := h.raw b
    simp only [raw?, Sheet.overwrite, Grid.get?_modify] at hraw ⊢
    by_cases hab : a = b
    · -- which text was there before is lost on both sheets
      rw [if_pos hab, if_pos hab, Option.map_map, Option.map_map]
      have := congrArg (Option.map fun _ => text) hraw
      rwa [Option.map_map, Option.map_map] at this
    · rwa [if_neg hab, if_neg hab]
  · exact (t.grid.rows_modify _ _).trans (h.rows.trans (s.grid.rows_modify _ _).symm)
  · exact (t.grid.cols_modify _ _).trans (h.cols.trans (s.grid.cols_modify _ _).symm)

/-- **A write changes both sheets or neither.** -/
theorem store (h : s.SameTexts t) (w : Write) :
    (t.store w).1 = (s.store w).1 ∧ (s.store w).2.SameTexts (t.store w).2 := by
  rw [Sheet.store, Sheet.store, h.raw]
  cases s.raw? w.cell with
  | none => exact ⟨rfl, h⟩
  | some raw =>
    dsimp only
    by_cases hsame : raw = w.text
    · rw [if_pos hsame, if_pos hsame]
      exact ⟨rfl, h⟩
    · rw [if_neg hsame, if_neg hsame]
      exact ⟨rfl, h.overwrite _ _⟩

theorem storeAll (writes : List Write) : ∀ {s t : Sheet}, s.SameTexts t →
    (Sheet.storeAll writes t).1 = (Sheet.storeAll writes s).1
      ∧ (Sheet.storeAll writes s).2.SameTexts (Sheet.storeAll writes t).2 := by
  induction writes with
  | nil => exact fun h => ⟨rfl, h⟩
  | cons w writes ih =>
    intro s t h
    obtain ⟨hnow, hfirst⟩ := h.store w
    obtain ⟨hlater, hrest⟩ := ih hfirst
    rw [storeAll_cons, storeAll_cons, hnow, hlater]
    exact ⟨rfl, hrest⟩

end SameTexts

/-- Raw texts may be stored in two goes. -/
theorem storeAll_append (first second : List Write) : ∀ s : Sheet,
    storeAll (first ++ second) s
      = ((storeAll first s).1 || (storeAll second (storeAll first s).2).1,
          (storeAll second (storeAll first s).2).2) := by
  induction first with
  | nil => exact fun s => rfl
  | cons w first ih =>
    intro s
    rw [List.cons_append, storeAll_cons, ih, storeAll_cons, Bool.or_assoc]

/-- Storing raw texts queues none. -/
theorem writes_storeAll (writes : List Write) :
    ∀ s : Sheet, (storeAll writes s).2.writes = s.writes := by
  induction writes with
  | nil => exact fun _ => rfl
  | cons w writes ih =>
    intro s
    rw [storeAll_cons]
    refine (ih _).trans ?_
    rcases s.store_eq_or w with hstore | hstore
    · rw [hstore]
    · rw [hstore]
      rfl

/-- **Passes from the same texts and the same queue store the same.** -/
theorem SameTexts.storeWrites_pass (h : s.SameTexts t) (hwrites : t.writes = s.writes)
    (hhost : s.host.RespectsRenaming) :
    t.pass.storeWrites.1 = s.pass.storeWrites.1
      ∧ s.pass.storeWrites.2.SameTexts t.pass.storeWrites.2
      ∧ t.pass.storeWrites.2.writes = s.pass.storeWrites.2.writes := by
  obtain ⟨queued, hs, ht⟩ := queueAlike_pass h hhost
  have hsame : t.pass.writes = s.pass.writes := by rw [ht, hs, hwrites]
  obtain ⟨hchanged, htexts⟩ := (h.pass.withWrites [] []).storeAll s.pass.writes
  rw [Sheet.storeWrites, Sheet.storeWrites, hsame]
  exact ⟨hchanged, htexts, by rw [writes_storeAll, writes_storeAll]⟩

theorem host_storeWrites_pass (s : Sheet) : s.pass.storeWrites.2.host = s.host :=
  (congrArg Setting.host (setting_storeAll s.pass.writes _)).trans s.fills_pass.host

/-! ## Settings -/

/-- **The setting after an operation**. -/
def Operation.settingAfter : Operation → Setting → Setting
  | reset _ _, setting => ⟨defaultTempo, 0, setting.host⟩
  | setRows _ _, setting => { setting with time := 0 }
  | setTempo bpm, setting => { setting with tempo := bpm }
  | setTime time, setting => { setting with time := time }
  | setHost host, setting => { setting with host := host }
  | _, setting => setting

/-- **No evaluation changes the setting**: it is told by the operations that set
it. -/
theorem setting_apply (op : Operation) (s : Sheet) :
    (op.apply s).setting = op.settingAfter s.setting := by
  cases op with
  | setRows rows evaluate =>
    cases evaluate with
    | false => rfl
    | true => exact setting_evaluateAll _
  | enter a text =>
    show ((s.enter a text).toOption.getD s).setting = s.setting
    rcases s.enter_cases a text with hout | hin
    · rw [hout]
      rfl
    · rw [hin]
      rfl
  | evaluateCell a =>
    show (s.evaluateCell a).2.setting = s.setting
    rcases s.evaluateCell_cases a with hsame | ⟨raw, slot, r₁, s₁, -, -, hformula, hstore⟩
    · rw [hsame]
    · rw [hstore]
      exact hformula.fills.setting
  | ask q =>
    show (s.answer q).setting = s.setting
    obtain ⟨α, p, r, t, writes, hrun, heq⟩ := s.exists_runs_answer q
    rw [heq]
    exact hrun.fills.setting
  | evaluateAll => exact setting_evaluateAll s
  | reset _ _ | setTempo _ | setTime _ | setHost _ | takeEvents | subscribe _ _
  | trigger _ _ => rfl

theorem setting_operateAll (ops : List Operation) : ∀ s : Sheet,
    (s.operateAll ops).setting
      = ops.foldl (fun setting op => op.settingAfter setting) s.setting := by
  induction ops with
  | nil => exact fun _ => rfl
  | cons op ops ih =>
    intro s
    rw [List.foldl_cons, ← setting_apply]
    exact ih (op.apply s)

/-! ## Side by side -/

/-- **Evaluations go alike** if they start from the same texts and the same
queue. -/
theorem sameTexts_settle (n : Nat) : ∀ {s t : Sheet}, s.SameTexts t → t.writes = s.writes →
    s.host.RespectsRenaming →
      (settle n s).SameTexts (settle n t) ∧ (settle n s).SameValues (settle n t) := by
  induction n with
  | zero =>
    intro s t h _ hhost
    exact ⟨h.pass.withWrites [] [], sameValues_pass h hhost⟩
  | succ n ih =>
    intro s t h hwrites hhost
    obtain ⟨hchanged, htexts, hqueue⟩ := h.storeWrites_pass hwrites hhost
    have hhost' : s.pass.storeWrites.2.host.RespectsRenaming :=
      s.host_storeWrites_pass.symm ▸ hhost
    rw [settle, settle]
    cases hs : s.pass.storeWrites with
    | mk changed s' =>
      cases ht : t.pass.storeWrites with
      | mk changed' t' =>
        rw [hs, ht] at hchanged htexts hqueue
        rw [hs] at hhost'
        obtain rfl : changed' = changed := hchanged
        cases changed' with
        | true => exact ih htexts hqueue hhost'
        | false =>
          -- nothing is stored, so the values are still those of the pass
          obtain rfl := storeAll_eq_of_unchanged hs
          obtain rfl := storeAll_eq_of_unchanged ht
          exact ⟨htexts, sameValues_pass h hhost⟩

/-- **An evaluation of all cells depends on the raw grid, the setting and the
queue only**: two sheets that agree in these end with the same raw grid and with
the same values up to a renaming of buses, whatever else is known of their
cells, whatever events are kept and whatever buses are open. -/
theorem rawRows_evaluateAll_eq (hraw : t.rawRows = s.rawRows)
    (hsetting : t.setting = s.setting) (hqueue : t.writes = s.writes)
    (hhost : s.host.RespectsRenaming) :
    t.evaluateAll.rawRows = s.evaluateAll.rawRows ∧ s.evaluateAll.SameValues t.evaluateAll := by
  obtain ⟨htexts, hvalues⟩ :=
    sameTexts_settle maxPasses (.of_rawRows_eq hraw hsetting) hqueue hhost
  exact ⟨htexts.rawRows_eq, hvalues⟩

/-- A sheet that has been evaluated, edited and asked for a value since. -/
def edited : Sheet :=
  (Sheet.new 1 3 plainHost).operateAll
    [.setRows [["x", "=CONCAT(\"-\", A1, A1)", "=BEAT(120, x)"]] true, .enter ⟨0, 0⟩ "y",
      .ask (.cell ⟨0, 1⟩)]

/-- Its texts are put into another sheet, where nothing has been evaluated yet.
Both end the same. -/
theorem rawRows_evaluateAll_eq_edited :
    let loaded := (Sheet.new 1 3 plainHost).setRows edited.rawRows
    edited.value? ⟨0, 1⟩ = some (.text "x-x") ∧ loaded.value? ⟨0, 1⟩ = none
      ∧ loaded.evaluateAll.value? ⟨0, 1⟩ = some (.text "y-y")
      ∧ loaded.evaluateAll.rawRows = edited.evaluateAll.rawRows
      ∧ edited.evaluateAll.SameValues loaded.evaluateAll := by
  have hsetting : edited.setting = ⟨defaultTempo, 0, plainHost⟩ := setting_operateAll _ _
  exact ⟨by decide +kernel, by decide +kernel, by decide +kernel,
    rawRows_evaluateAll_eq (by decide +kernel) hsetting.symm (by decide +kernel)
      fun R _ => respects_plainHost R⟩

/-- A sheet where a script was run by itself before another text took its
place. -/
def outlived : Sheet :=
  (Sheet.new 1 2 plainHost).operateAll
    [.enter ⟨0, 0⟩ "=JS(setValue(\"B1\",\"x\"))", .evaluateCell ⟨0, 0⟩, .enter ⟨0, 0⟩ "hello"]

/-- **A script that is run by itself leaves a trace**: its write stays queued
when its cell gets another text, and the next evaluation of all cells stores it.
On a sheet with the same raw grid in the same setting that has never held the
script nothing is stored. -/
theorem rawRows_evaluateAll_ne_outlived :
    let fresh := (Sheet.new 1 2 plainHost).operateAll [.enter ⟨0, 0⟩ "hello"]
    fresh.rawRows = outlived.rawRows ∧ fresh.setting = outlived.setting
      ∧ outlived.evaluateAll.rawRows = [["hello", "x"]]
      ∧ fresh.evaluateAll.rawRows = [["hello", ""]] := by
  have hsetting : outlived.setting = ⟨defaultTempo, 0, plainHost⟩ := setting_operateAll _ _
  exact ⟨by decide +kernel, hsetting.symm, by decide +kernel, by decide +kernel⟩

/-! ## Twice -/

/-- **An account of an evaluation of all cells**. -/
structure Account where
  /-- How many passes are run. -/
  passes : Nat
  /-- Whether the writes of the last pass change nothing. -/
  settled : Bool
  /-- The sheet in the end. -/
  sheet : Sheet

/-- Gives an account of `settle`. -/
def account : Nat → Sheet → Account
  | 0, s => ⟨1, false, { s.pass with writes := [] }⟩
  | n + 1, s =>
    match s.pass.storeWrites with
    | (true, s) => { account n s with passes := (account n s).passes + 1 }
    | (false, s) => ⟨1, true, s⟩

theorem sheet_account (n : Nat) : ∀ s : Sheet, (account n s).sheet = settle n s := by
  induction n with
  | zero => exact fun _ => rfl
  | succ n ih =>
    intro s
    rw [account, settle]
    cases s.pass.storeWrites with
    | mk changed t =>
      cases changed with
      | true => exact ih t
      | false => rfl

/-- **An evaluation that settles ends with a pass whose writes change
nothing.** -/
theorem exists_pass_of_settled (n : Nat) : ∀ {s : Sheet}, (account n s).settled = true →
    ∃ u : Sheet, u.host = s.host ∧ u.pass.storeWrites.1 = false
      ∧ settle n s = { u.pass with writes := [] } := by
  induction n with
  | zero => exact fun h => nomatch h
  | succ n ih =>
    intro s h
    have hhost := s.host_storeWrites_pass
    rw [account] at h
    rw [settle]
    cases hstore : s.pass.storeWrites with
    | mk changed t =>
      rw [hstore] at h hhost
      cases changed with
      | true =>
        obtain ⟨u, hu, hunchanged, hsettle⟩ := ih h
        exact ⟨u, hu.trans hhost, hunchanged, hsettle⟩
      | false => exact ⟨s, rfl, congrArg Prod.fst hstore, storeAll_eq_of_unchanged hstore⟩

/-- **A pass whose writes change nothing is the only one.** -/
theorem account_of_unchanged {s : Sheet} (h : s.pass.storeWrites.1 = false) (n : Nat) :
    account (n + 1) s = ⟨1, true, { s.pass with writes := [] }⟩ := by
  rw [account]
  cases hstore : s.pass.storeWrites with
  | mk changed t =>
    rw [hstore] at h
    obtain rfl : changed = false := h
    rw [← storeAll_eq_of_unchanged hstore]

/-- **What a pass has queued without changing anything is in the grid**: a pass
over the sheet that it leaves changes nothing either. -/
theorem unchanged_pass_pass {u v : Sheet} (hv : v = { u.pass with writes := [] })
    (hhost : u.host.RespectsRenaming) (h : u.pass.storeWrites.1 = false) :
    v.pass.storeWrites.1 = false := by
  have htexts : u.SameTexts v := hv ▸ SameTexts.self_end u
  obtain ⟨queued, hfirst, hsecond⟩ := queueAlike_pass htexts hhost
  -- the writes of the first pass change nothing, and those that it has added are the last
  rw [storeWrites, ← hv, hfirst, storeAll_append, Bool.or_eq_false_iff] at h
  have hbefore : (storeAll u.writes v).2 = v := storeAll_eq_of_unchanged (Prod.ext h.1 rfl)
  rw [hbefore] at h
  -- the second pass adds the same writes, and they find the same texts
  have hqueue : v.pass.writes = queued := by rw [hsecond, hv, List.nil_append]
  obtain ⟨hchanged, -⟩ := ((SameTexts.self_pass v).withWrites v.writes []).storeAll queued
  rw [storeWrites, hqueue, hchanged]
  exact h.2

/-- **Evaluations of all cells reach a consistent end.** Whether or not the
writes of scripts settle, in the end no write is queued, and the values are
those of a single pass over the raw texts that are there. If they have settled,
a second evaluation runs one pass and changes neither the raw grid nor, up to a
renaming of buses, any value. -/
theorem consistent_evaluateAll (s : Sheet) (hhost : s.host.RespectsRenaming) :
    s.evaluateAll.Current s.evaluateAll.time
      ∧ ((account maxPasses s).settled = true →
          (account maxPasses s.evaluateAll).passes = 1
            ∧ (account maxPasses s.evaluateAll).settled = true
            ∧ s.evaluateAll.evaluateAll.rawRows = s.evaluateAll.rawRows
            ∧ s.evaluateAll.SameValues s.evaluateAll.evaluateAll) := by
  have htime : s.evaluateAll.time = s.time := congrArg Setting.time s.setting_evaluateAll
  refine ⟨htime ▸ current_evaluateAll hhost, fun hsettled => ?_⟩
  obtain ⟨u, hu, hunchanged, hend⟩ := exists_pass_of_settled maxPasses hsettled
  have hhost' : u.host.RespectsRenaming := hu ▸ hhost
  generalize hv : s.evaluateAll = v
  replace hend : v = { u.pass with writes := [] } := hv.symm.trans hend
  have haccount : account maxPasses v = ⟨1, true, { v.pass with writes := [] }⟩ :=
    account_of_unchanged (unchanged_pass_pass hend hhost' hunchanged) _
  have hsecond : v.evaluateAll = { v.pass with writes := [] } := by
    rw [evaluateAll, ← sheet_account, haccount]
  have hraw : v.evaluateAll.rawRows = v.rawRows := by
    rw [hsecond]
    exact (SameTexts.self_end v).rawRows_eq
  -- both sheets are those of a pass from scratch over the same texts
  have hvalues : u.pass.SameValues v.pass :=
    sameValues_pass (hend ▸ SameTexts.self_end u) hhost'
  refine ⟨by rw [haccount], by rw [haccount], hraw, ?_⟩
  rw [hsecond]
  rw [hend] at hvalues ⊢
  exact hvalues

/-- A sheet with a script that writes a text into the cell beside it. -/
def scripted : Sheet :=
  (Sheet.new 1 3 plainHost).setRows
    [["=JS(setValue(\"B1\",\"x\"))", "", "=CONCAT(\"-\", B1, B1)"]]

/-- It settles with the text in the grid, and a second evaluation finds all as
it is. -/
theorem consistent_evaluateAll_scripted :
    (account maxPasses scripted).passes = 2
      ∧ scripted.evaluateAll.value? ⟨0, 2⟩ = some (.text "x-x")
      ∧ scripted.evaluateAll.Current scripted.evaluateAll.time
      ∧ (account maxPasses scripted.evaluateAll).passes = 1
      ∧ scripted.evaluateAll.evaluateAll.rawRows = scripted.evaluateAll.rawRows
      ∧ scripted.evaluateAll.SameValues scripted.evaluateAll.evaluateAll := by
  have hfirst : (account maxPasses scripted).passes = 2
      ∧ (account maxPasses scripted).settled = true
      ∧ (account maxPasses scripted).sheet.value? ⟨0, 2⟩ = some (.text "x-x") := by
    decide +kernel
  obtain ⟨hpasses, hsettled, hvalue⟩ := hfirst
  rw [sheet_account] at hvalue
  obtain ⟨hcurrent, hagain⟩ :=
    consistent_evaluateAll scripted fun R _ => respects_plainHost R
  obtain ⟨hsecond, -, hraw, hvalues⟩ := hagain hsettled
  exact ⟨hpasses, hvalue, hcurrent, hsecond, hraw, hvalues⟩

end Sheet

end SoundSheet
