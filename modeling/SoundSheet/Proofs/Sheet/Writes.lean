import SoundSheet.Proofs.Sheet.Settling

/-!
# When writes count as a change

The writes of scripts are stored one after the other, and the sheet tells
whether one of them has changed a text *on the way*. What a cell holds in the
end is another matter: that is the text of the last write to it (`textAfter`).
The two agree but in one case. A cell may be given another text by one write and
its old one by a later write. Then the grid is as before, and the sheet still
says that it has changed (`changed_storeWrites_iff_ne_or`).

The difference is heard, for an evaluation of all cells is over after the first
pass without a change (`exists_passes_account`). A sheet whose scripts take a
write back runs them all over again, as often as passes may be run, although
nothing ever changes (`passes_account_of_restored`).
-/

namespace SoundSheet

open SoundSheet.Script

/-- **The text that a cell holds after some writes**, where it has held one
before. -/
def textAfter (a : Address) (writes : List Write) (raw : String) : String :=
  writes.foldl (fun text w => if w.cell = a then w.text else text) raw

/-- A cell keeps its text if the writes to it have that text. -/
theorem textAfter_eq_self {a : Address} {writes : List Write} {raw : String}
    (h : ∀ w ∈ writes, w.cell = a → w.text = raw) : textAfter a writes raw = raw := by
  induction writes with
  | nil => rfl
  | cons w writes ih =>
    have hfirst : (if w.cell = a then w.text else raw) = raw := ite_eq_right_iff.mpr
      (h w List.mem_cons_self)
    rw [textAfter, List.foldl_cons, hfirst]
    exact ih fun v hv => h v (List.mem_cons_of_mem w hv)

namespace Sheet

variable {s : Sheet}

/-- **A write has another text than its cell**, which lies in the grid. -/
def Changes (s : Sheet) (w : Write) : Prop :=
  ∃ raw, s.raw? w.cell = some raw ∧ raw ≠ w.text

/-! ## One write -/

theorem raw?_overwrite (s : Sheet) (a b : Address) (text : String) :
    (s.overwrite a text).raw? b
      = (s.raw? b).map fun raw => if a = b then text else raw := by
  rw [raw?, raw?, overwrite, Grid.get?_modify]
  by_cases hab : a = b
  · simp only [if_pos hab, Option.map_map]
    rfl
  · simp only [if_neg hab, Option.map_id']

/-- **A write changes the sheet if it has another text than its cell.** -/
theorem changed_store_iff (s : Sheet) (w : Write) : (s.store w).1 = true ↔ s.Changes w := by
  rw [store, Changes]
  cases s.raw? w.cell with
  | none => simp
  | some raw =>
    dsimp only
    by_cases hsame : raw = w.text
    · simp [hsame]
    · simp [hsame]

/-- **After a write its cell holds the text**, whether or not that is a
change. -/
theorem raw?_store (s : Sheet) (w : Write) (a : Address) :
    (s.store w).2.raw? a = (s.raw? a).map fun raw => if w.cell = a then w.text else raw := by
  rw [store]
  cases hraw : s.raw? w.cell with
  | none =>
    -- a cell outside the grid has no text, and the others keep theirs
    dsimp only
    by_cases ha : w.cell = a
    · rw [← ha, hraw]
      rfl
    · simp only [if_neg ha, Option.map_id']
  | some raw =>
    dsimp only
    by_cases hsame : raw = w.text
    · rw [if_pos hsame]
      by_cases ha : w.cell = a
      · rw [← ha, hraw, hsame]
        simp
      · simp only [if_neg ha, Option.map_id']
    · rw [if_neg hsame]
      exact s.raw?_overwrite w.cell a w.text

/-! ## All writes in order -/

/-- **The last write to a cell counts.** -/
theorem raw?_storeAll (a : Address) (writes : List Write) :
    ∀ s : Sheet, (storeAll writes s).2.raw? a = (s.raw? a).map (textAfter a writes) := by
  induction writes with
  | nil => exact fun s => Option.map_id'.symm
  | cons w writes ih =>
    intro s
    rw [storeAll_cons, ih, raw?_store, Option.map_map]
    rfl

/-- **A change is told if some write has another text than its cell has had at
first.** It need not be the first write: the cells of those before it have been
left alone. -/
theorem changed_storeAll_iff (writes : List Write) :
    ∀ s : Sheet, (storeAll writes s).1 = true ↔ ∃ w ∈ writes, s.Changes w := by
  induction writes with
  | nil => exact fun s => ⟨fun h => (nomatch h), fun ⟨w, hw, _⟩ => nomatch hw⟩
  | cons w writes ih =>
    intro s
    rw [storeAll_cons, Bool.or_eq_true, changed_store_iff, List.exists_mem_cons_iff]
    rcases s.store_eq_or w with hstore | hstore
    · -- nothing has changed yet, so the other writes find what they would have found
      rw [hstore, ih]
    · -- the first write settles it, whatever becomes of the others
      have hchanges : s.Changes w := (s.changed_store_iff w).mp (congrArg Prod.fst hstore)
      exact iff_of_true (.inl hchanges) (.inl hchanges)

theorem rows_storeAll (writes : List Write) (s : Sheet) :
    (storeAll writes s).2.grid.rows = s.grid.rows := by
  have hlengths := congrArg List.length (rowLengths_storeAll writes s)
  rwa [Grid.rowLengths, Grid.rowLengths, List.length_map, List.length_map] at hlengths

/-! ## All writes that are queued -/

theorem raw?_storeWrites (s : Sheet) (a : Address) :
    s.storeWrites.2.raw? a = (s.raw? a).map (textAfter a s.writes) :=
  raw?_storeAll a s.writes _

theorem rawRows_storeWrites_eq_iff (s : Sheet) :
    s.storeWrites.2.rawRows = s.rawRows ↔ ∀ a, s.storeWrites.2.raw? a = s.raw? a :=
  rawRows_eq_iff (rows_storeAll s.writes _)

theorem changed_storeWrites_iff (s : Sheet) :
    s.storeWrites.1 = true ↔ ∃ w ∈ s.writes, s.Changes w :=
  changed_storeAll_iff s.writes _

/-- If no write has another text than its cell, the grid stays as it is. -/
theorem rawRows_storeWrites_eq (h : ¬ ∃ w ∈ s.writes, s.Changes w) :
    s.storeWrites.2.rawRows = s.rawRows := by
  refine s.rawRows_storeWrites_eq_iff.mpr fun a => ?_
  rw [raw?_storeWrites]
  cases ha : s.raw? a with
  | none => rfl
  | some raw =>
    refine congrArg some (textAfter_eq_self fun w hw hcell => ?_)
    by_contra hne
    exact h ⟨w, hw, raw, hcell ▸ ha, fun heq => hne heq.symm⟩

/-- **When the sheet tells of a change**: if the raw grid is another one than
before, and also if some write has given its cell another text and a later one
has put the old one back. -/
theorem changed_storeWrites_iff_ne_or (s : Sheet) :
    s.storeWrites.1 = true
      ↔ s.storeWrites.2.rawRows ≠ s.rawRows
        ∨ ∃ w ∈ s.writes, s.Changes w ∧ s.storeWrites.2.raw? w.cell = s.raw? w.cell := by
  rw [changed_storeWrites_iff]
  constructor
  · rintro ⟨w, hw, hchanges⟩
    by_cases hback : s.storeWrites.2.raw? w.cell = s.raw? w.cell
    · exact .inr ⟨w, hw, hchanges, hback⟩
    · exact .inl fun hsame => hback (s.rawRows_storeWrites_eq_iff.mp hsame w.cell)
  · rintro (hdiffers | ⟨w, hw, hchanges, -⟩)
    · by_contra hnone
      exact hdiffers (rawRows_storeWrites_eq hnone)
    · exact ⟨w, hw, hchanges⟩

/-! ## Passes -/

/-- **The sheet that so many passes leave**, the writes of each of them
stored. -/
def afterPasses : Nat → Sheet → Sheet
  | 0, s => s
  | n + 1, s => afterPasses n s.pass.storeWrites.2

/-- **An evaluation is over after the first pass without a change**, or when no
more passes may follow. -/
theorem exists_passes_account (n : Nat) : ∀ s : Sheet,
    ∃ k, k ≤ n ∧ (account n s).passes = k + 1
      ∧ settle n s = { (afterPasses k s).pass with writes := [] }
      ∧ (∀ j, j < k → (afterPasses j s).pass.storeWrites.1 = true)
      ∧ (k < n → (afterPasses k s).pass.storeWrites.1 = false) := by
  induction n with
  | zero => exact fun s => ⟨0, Nat.le_refl 0, rfl, rfl, fun j hj => absurd hj j.not_lt_zero,
      fun h => absurd h (Nat.lt_irrefl 0)⟩
  | succ n ih =>
    intro s
    rw [account, settle]
    cases hstore : s.pass.storeWrites with
    | mk changed t =>
      cases changed with
      | false =>
        exact ⟨0, Nat.zero_le _, rfl, storeAll_eq_of_unchanged hstore,
          fun j hj => absurd hj j.not_lt_zero, fun _ => congrArg Prod.fst hstore⟩
      | true =>
        have ht (j : Nat) : afterPasses (j + 1) s = afterPasses j t := by
          rw [afterPasses, hstore]
        obtain ⟨k, hk, hpasses, hsettle, hchanged, hlast⟩ := ih t
        refine ⟨k + 1, Nat.succ_le_succ hk, congrArg (· + 1) hpasses, ?_, fun j hj => ?_,
          fun hkn => ?_⟩
        · rw [ht]
          exact hsettle
        · cases j with
          | zero => exact congrArg Prod.fst hstore
          | succ j =>
            rw [ht]
            exact hchanged j (Nat.lt_of_succ_lt_succ hj)
        · rw [ht]
          exact hlast (Nat.lt_of_succ_lt_succ hkn)

/-- **Passes that leave the grid as it was and still count as a change** are
repeated as often as passes may be. -/
theorem passes_account_of_restored (hhost : s.host.RespectsRenaming) (hwrites : s.writes = [])
    (hchanged : s.pass.storeWrites.1 = true)
    (hrestored : s.pass.storeWrites.2.rawRows = s.rawRows) (n : Nat) :
    (account n s).passes = n + 1 := by
  have hafter : s.SameTexts s.pass.storeWrites.2 := by
    refine .of_rawRows_eq hrestored ?_
    exact (setting_storeAll s.pass.writes _).trans s.fills_pass.setting
  -- every pass starts from the same texts, and so it stores the same
  suffices ∀ t : Sheet, s.SameTexts t → t.writes = [] → (account n t).passes = n + 1 from
    this s (.of_rawRows_eq rfl rfl) hwrites
  induction n with
  | zero => exact fun _ _ _ => rfl
  | succ n ih =>
    intro t ht hqueue
    obtain ⟨hflag, htexts, hleft⟩ := ht.storeWrites_pass (hqueue.trans hwrites.symm) hhost
    rw [account]
    cases hstore : t.pass.storeWrites with
    | mk changed u =>
      rw [hstore] at hflag htexts hleft
      rw [hchanged] at hflag
      obtain rfl : changed = true := hflag
      refine congrArg (· + 1) (ih u (hafter.trans htexts) ?_)
      exact hleft.trans (writes_storeAll s.pass.writes _)

/-- **What counts as a change.** The sheet tells of one if some write has
another text than its cell before all of them; in the end each cell holds the
text of the last write to it. So the raw grid is another one than before, or a
text has been taken back. An evaluation of all cells is over after the first
pass whose writes have the texts of their cells throughout. -/
theorem tells_changes (s : Sheet) :
    (s.storeWrites.1 = true ↔ ∃ w ∈ s.writes, s.Changes w)
      ∧ (∀ a, s.storeWrites.2.raw? a = (s.raw? a).map (textAfter a s.writes))
      ∧ (s.storeWrites.1 = true
          ↔ s.storeWrites.2.rawRows ≠ s.rawRows
            ∨ ∃ w ∈ s.writes, s.Changes w ∧ s.storeWrites.2.raw? w.cell = s.raw? w.cell)
      ∧ ∃ k, k ≤ maxPasses ∧ (account maxPasses s).passes = k + 1
        ∧ s.evaluateAll = { (afterPasses k s).pass with writes := [] }
        ∧ (∀ j, j < k →
            ∃ w ∈ (afterPasses j s).pass.writes, (afterPasses j s).pass.Changes w)
        ∧ (k < maxPasses →
            ∀ w ∈ (afterPasses k s).pass.writes, ¬ (afterPasses k s).pass.Changes w) := by
  obtain ⟨k, hk, hpasses, hsettle, hchanged, hlast⟩ := exists_passes_account maxPasses s
  refine ⟨s.changed_storeWrites_iff, s.raw?_storeWrites, s.changed_storeWrites_iff_ne_or, k, hk,
    hpasses, hsettle, fun j hj => (changed_storeWrites_iff _).mp (hchanged j hj),
    fun hkn w hw hchanges => ?_⟩
  have htrue := (afterPasses k s).pass.changed_storeWrites_iff.mpr ⟨w, hw, hchanges⟩
  rw [hlast hkn] at htrue
  exact nomatch htrue

/-- A sheet with a script that puts another text into a cell and takes it
back. -/
def undone : Sheet :=
  (Sheet.new 1 2 plainHost).setRows
    [["=JS(setValue(\"B1\",\"b\"); setValue(\"B1\",\"a\"); playNote(440, 1))", "a"]]

/-- **A text that is taken back counts as a change**: the writes of the script
leave the raw grid as it is, and still the script is run nine times. -/
theorem tells_changes_undone :
    undone.pass.storeWrites.1 = true
      ∧ undone.pass.storeWrites.2.rawRows = undone.pass.rawRows
      ∧ (account maxPasses undone).passes = 9 := by
  have hpass : undone.pass.storeWrites.1 = true
      ∧ undone.pass.storeWrites.2.rawRows = undone.rawRows := by decide +kernel
  exact ⟨hpass.1, hpass.2.trans (SameTexts.self_pass undone).rawRows_eq.symm,
    passes_account_of_restored (fun R _ => respects_plainHost R) rfl hpass.1 hpass.2 maxPasses⟩

end Sheet

end SoundSheet
