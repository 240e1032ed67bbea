import Mathlib.Data.List.Forall2
import Mathlib.Logic.Function.Iterate
import SoundSheet.Proofs.Sheet.Orderly

/-!
# Regions that are read

A region is read in one of three orders. Which cells are visited is said without
the order (`Region.Visits`), and in each of the orders they come row by row, so
a list of them is determined (`Region.mem_cells_iff`, `Region.pairwise_cells`).

Every cell that is visited is looked up, and may be the first to ask for other
cells, also for cells of the region that are still to come. But a value that is
there stays, so when the region has been read, each entry belongs to the value
that its cell has then (`Runs.entries`). Reading ends early at the first cell
that cannot be looked up: outside of the grid, or, in the course of an
evaluation, marked.

All this is so for a region whose cells a list can hold. The cells are listed
before the first of them is looked up, so that for any other region the program
ends, even where the second cell is already outside of the grid
(`Sheet.extract_pastCapacity`). If it is the formula of a cell that asks for
such a region, the sheet shows in the cell that the program has ended
(`Sheet.Ended`). The program itself comes to show no such sheet.

Sequences are made of the entries of a region, and step through them in a circle
(`Sequence.step_iterate_advance`).
-/

namespace SoundSheet

open SoundSheet.Script SoundSheet.Formula

/-! ## The cells of a region -/

/-- **The order of rows**: a cell is before the cells behind it in its row, and
before the cells of later rows. -/
def Address.Before (a b : Address) : Prop :=
  a.row < b.row ∨ a.row = b.row ∧ a.col < b.col

namespace Region

/-- **The cells that are visited** in a traversal: the first column between the
two rows, the first row between the two columns, or the rectangle. -/
def Visits (r : Region) : Traversal → Address → Prop
  | .vertical, a => (r.first.row ≤ a.row ∧ a.row ≤ r.last.row) ∧ a.col = r.first.col
  | .horizontal, a => a.row = r.first.row ∧ r.first.col ≤ a.col ∧ a.col ≤ r.last.col
  | .matrix, a =>
    (r.first.row ≤ a.row ∧ a.row ≤ r.last.row) ∧ r.first.col ≤ a.col ∧ a.col ≤ r.last.col

variable (r : Region)

theorem mem_cells_iff {traversal : Traversal} {a : Address} :
    a ∈ r.cells traversal ↔ r.Visits traversal a := by
  obtain ⟨row, col⟩ := a
  cases traversal with
  | vertical =>
    rw [cells, List.mem_map, Visits]
    simp only [mem_between, Address.mk.injEq]
    exact ⟨fun ⟨_, hrow, heq, hcol⟩ => ⟨heq ▸ hrow, hcol.symm⟩,
      fun ⟨hrow, hcol⟩ => ⟨row, hrow, rfl, hcol.symm⟩⟩
  | horizontal =>
    rw [cells, List.mem_map, Visits]
    simp only [mem_between, Address.mk.injEq]
    exact ⟨fun ⟨_, hcol, hrow, heq⟩ => ⟨hrow.symm, heq ▸ hcol⟩,
      fun ⟨hrow, hcol⟩ => ⟨col, hcol, hrow.symm, rfl⟩⟩
  | matrix =>
    rw [cells, List.mem_flatMap, Visits]
    simp only [List.mem_map, mem_between, Address.mk.injEq]
    exact ⟨fun ⟨_, hrow, _, hcol, heq, heq'⟩ => ⟨heq ▸ hrow, heq' ▸ hcol⟩,
      fun ⟨hrow, hcol⟩ => ⟨row, hrow, col, hcol, rfl, rfl⟩⟩

theorem pairwise_between (a b : Nat) : (between a b).Pairwise (· < ·) :=
  List.pairwise_lt_range' 1

/-- **They come row by row.** -/
theorem pairwise_cells (traversal : Traversal) :
    (r.cells traversal).Pairwise Address.Before := by
  have hrow (row : Nat) : ((between r.first.col r.last.col).map (Address.mk row)).Pairwise
      Address.Before :=
    List.pairwise_map.mpr ((pairwise_between _ _).imp fun h => .inr ⟨rfl, h⟩)
  cases traversal with
  | vertical => exact List.pairwise_map.mpr ((pairwise_between _ _).imp .inl)
  | horizontal => exact hrow r.first.row
  | matrix =>
    refine List.pairwise_flatMap.mpr ⟨fun row _ => hrow row, ?_⟩
    refine (pairwise_between _ _).imp fun hlt a ha b hb => ?_
    obtain ⟨-, -, rfl⟩ := List.mem_map.mp ha
    obtain ⟨-, -, rfl⟩ := List.mem_map.mp hb
    exact .inl hlt

/-- **They are as many as are counted** before they are listed. -/
theorem length_cells (traversal : Traversal) :
    (r.cells traversal).length = r.count traversal := by
  have hbetween (a b : Nat) : (between a b).length = b + 1 - a := List.length_range'
  cases traversal with
  | vertical => rw [cells, List.length_map, hbetween, count]
  | horizontal => rw [cells, List.length_map, hbetween, count]
  | matrix =>
    simp only [cells, List.length_flatMap, List.length_map, hbetween, List.map_const',
      List.sum_replicate_nat, count]

/-- **Nothing is visited if the end precedes the start** where the traversal
moves. -/
theorem cells_eq_nil {traversal : Traversal}
    (h : traversal ≠ .horizontal ∧ r.last.row < r.first.row
      ∨ traversal ≠ .vertical ∧ r.last.col < r.first.col) : r.cells traversal = [] := by
  refine List.eq_nil_iff_forall_not_mem.mpr fun a ha => ?_
  have hvisits := r.mem_cells_iff.mp ha
  cases traversal <;> simp only [Visits] at hvisits <;> grind

end Region

/-! ## Reading cells one after the other -/

namespace Sheet

/-- **Entries of cells**: for each of them, the numeric reading of the value
that is stored for it. -/
def Entries (t : Sheet) : List Address → List (Option Float) → Prop :=
  List.Forall₂ fun a entry => ∃ v, t.value? a = some v ∧ entry = v.coerceNumber

theorem Entries.hasValue {t : Sheet} {cells : List Address} {entries : List (Option Float)}
    (h : t.Entries cells entries) : ∀ a ∈ cells, t.HasValue a := by
  induction h with
  | nil => exact List.forall_mem_nil _
  | cons hentry _ ih =>
    obtain ⟨v, hv, -⟩ := hentry
    exact List.forall_mem_cons.mpr ⟨⟨v, value?_eq_some_iff.mp hv⟩, ih⟩

/-- A cell in the grid. -/
def Within (s : Sheet) (a : Address) : Prop :=
  a.row < s.grid.rows ∧ a.col < s.grid.cols

instance (s : Sheet) (a : Address) : Decidable (s.Within a) :=
  inferInstanceAs (Decidable (_ ∧ _))

theorem within_iff {s : Sheet} {a : Address} : s.Within a ↔ (s.slot? a).isSome := by
  rw [slot?, Option.isSome_map, Grid.isSome_get?_iff, Within]

theorem not_within_iff {s : Sheet} {a : Address} : ¬s.Within a ↔ s.slot? a = none := by
  rw [within_iff, Option.not_isSome_iff_eq_none]

end Sheet

open SoundSheet.Sheet

/-- Entries stay, for values do. -/
theorem Fills.entries {s t : Sheet} (h : Fills s t) {cells : List Address}
    {entries : List (Option Float)} (hentries : s.Entries cells entries) :
    t.Entries cells entries := by
  refine List.Forall₂.imp (fun a entry => ?_) hentries
  rintro ⟨v, hv, rfl⟩
  exact ⟨v, value?_eq_some_iff.mpr (h.slot?_evaluated (value?_eq_some_iff.mp hv)), rfl⟩

/-- **Why a cell cannot be looked up.** -/
inductive Refused (s : Sheet) (a : Address) : FormulaError → Prop
  /-- It is outside of the grid. -/
  | outside (h : s.slot? a = none) : Refused s a (.outOfBounds a)
  /-- It is being computed. -/
  | marked (h : s.slot? a = some .evaluating) : Refused s a (.circularReference a)

/-- The same cells could not be looked up before. -/
theorem Refused.of_fills {s t : Sheet} {a : Address} {e : FormulaError} (h : Refused t a e)
    (hfills : Fills s t) : Refused s a e := by
  cases h with
  | outside h =>
    refine .outside ?_
    rwa [slot?_eq_none_iff, ← hfills.raw, ← slot?_eq_none_iff]
  | marked h => exact .marked ((hfills.slot?_evaluating_iff a).mp h)

/-- **A lookup has the value of the cell stored, or is refused.** -/
theorem Runs.lookup_cases {a : Address} {s t : Sheet} {r : Except FormulaError CellValue}
    (h : Runs (Plan.lookup a) s r t) :
    (∃ v, r = .ok v ∧ t.value? a = some v) ∨ ∃ e, r = .error e ∧ Refused s a e := by
  cases h with
  | outside hcell hnext =>
    cases hnext
    exact .inr ⟨_, rfl, .outside hcell⟩
  | marked hcell hnext =>
    cases hnext
    exact .inr ⟨_, rfl, .marked hcell⟩
  | known hcell hnext =>
    cases hnext
    exact .inl ⟨_, rfl, value?_eq_some_iff.mpr hcell⟩
  | fresh hcell _ hformula hnext =>
    cases hnext
    have hmark := (hformula.fills.slot?_evaluating_iff a).mpr (slot?_setSlot_self _ hcell)
    exact .inl ⟨_, rfl, value?_eq_some_iff.mpr (slot?_setSlot_self _ hmark)⟩

/-- The entry of a cell is that of its value. -/
theorem Runs.entry_cases {a : Address} {s t : Sheet} {r : Except FormulaError (Option Float)}
    (h : Runs ((Plan.lookup a).bind fun v => .done v.coerceNumber) s r t) :
    (∃ v, r = .ok v.coerceNumber ∧ t.value? a = some v) ∨ ∃ e, r = .error e ∧ Refused s a e := by
  rcases h.of_bind with ⟨v, u, hlookup, hdone⟩ | ⟨e, hlookup, rfl⟩
  · cases hdone
    obtain ⟨w, hw, hvalue⟩ | ⟨e, hfail, -⟩ := hlookup.lookup_cases
    · cases hw
      exact .inl ⟨v, rfl, hvalue⟩
    · exact nomatch hfail
  · obtain ⟨w, hw, -⟩ | ⟨e', hfail, hrefused⟩ := hlookup.lookup_cases
    · exact nomatch hw
    · cases hfail
      exact .inr ⟨e, rfl, hrefused⟩

/-- **Reading cells one after the other** yields the entry of each of them, or
else the error of the first one that cannot be looked up. -/
theorem Runs.entries {cells : List Address} : ∀ {s t : Sheet}
    {r : Except FormulaError (List (Option Float))},
    Runs (Plan.each (fun a => (Plan.lookup a).bind fun v => .done v.coerceNumber) cells) s r t →
      (∃ entries, r = .ok entries ∧ t.Entries cells entries)
        ∨ ∃ before a after e, cells = before ++ a :: after ∧ r = .error e ∧ Refused s a e
          ∧ ∀ b ∈ before, t.HasValue b := by
  induction cells with
  | nil =>
    intro s t r h
    cases h
    exact .inl ⟨[], rfl, .nil⟩
  | cons a cells ih =>
    intro s t r h
    rcases h.of_bind with ⟨entry, u, hfirst, hrest⟩ | ⟨e, hfirst, rfl⟩
    · obtain ⟨v, hv, hvalue⟩ | ⟨e, hfail, -⟩ := hfirst.entry_cases
      swap
      · exact nomatch hfail
      cases hv
      -- what the later cells do leaves the value where it is
      rcases hrest.of_bind with ⟨entries, u', hcells, hdone⟩ | ⟨e, hcells, rfl⟩
      · cases hdone
        obtain ⟨entries', heq, hentries⟩ | ⟨_, _, _, e, -, hfail, -⟩ := ih hcells
        swap
        · exact nomatch hfail
        cases heq
        have hstored : u.Entries [a] [v.coerceNumber] := .cons ⟨v, hvalue, rfl⟩ .nil
        have hkept := List.forall₂_cons.mp (hcells.fills.entries hstored)
        exact .inl ⟨_, rfl, .cons hkept.1 hentries⟩
      · obtain ⟨entries', heq, -⟩ | ⟨before, b, after, e, rfl, hfail, hrefused, hbefore⟩ :=
          ih hcells
        · exact nomatch heq
        have hkept := hcells.fills.hasValue ⟨v, value?_eq_some_iff.mp hvalue⟩
        exact .inr ⟨a :: before, b, after, e, rfl, hfail, hrefused.of_fills hfirst.fills,
          List.forall_mem_cons.mpr ⟨hkept, hbefore⟩⟩
    · obtain ⟨v, hv, -⟩ | ⟨e', hfail, hrefused⟩ := hfirst.entry_cases
      · exact nomatch hv
      · cases hfail
        exact .inr ⟨[], a, cells, e, rfl, rfl, hrefused, List.forall_mem_nil _⟩

/-- **Reading a region** is reading the cells in its list, if there is such a
list. -/
theorem Runs.readRegion_cases {region : Region} {traversal : Traversal} {s t : Sheet}
    {r : Except FormulaError (List (Option Float))}
    (h : Runs (readRegion region traversal) s r t) :
    Runs (readCells (region.cells traversal)) s r t
      ∨ Region.capacity < region.count traversal ∧ r = .error .regionTooLarge ∧ t = s := by
  unfold readRegion at h
  rcases Nat.lt_or_ge Region.capacity (region.count traversal) with hlt | hle
  · rw [Region.listed?_of_lt hlt] at h
    cases h
    exact .inr ⟨hlt, rfl, rfl⟩
  · rw [Region.listed?_of_le hle] at h
    exact .inl h

namespace Sheet

variable {s : Sheet} {region : Region} {traversal : Traversal}

theorem runs_extract (region : Region) (traversal : Traversal) (s : Sheet) :
    Runs (readRegion region traversal) s (s.extract region traversal).1
      (s.extract region traversal).2 :=
  runs_perform _ s

/-- **What is extracted are the entries of the cells that are visited.** -/
theorem entries_extract {entries : List (Option Float)} {t : Sheet}
    (h : s.extract region traversal = (.ok entries, t)) :
    t.Entries (region.cells traversal) entries := by
  have hrun := runs_extract region traversal s
  rw [h] at hrun
  obtain hcells | ⟨-, hfail, -⟩ := hrun.readRegion_cases
  swap
  · exact nomatch hfail
  obtain ⟨entries', heq, hentries⟩ | ⟨_, _, _, e, -, hfail, -⟩ := hcells.entries
  · cases heq
    exact hentries
  · exact nomatch hfail

/-- **The program has ended** on a formula: a list would have been too long. -/
def Ended (s : Sheet) : Prop :=
  ∃ a e, s.value? a = some (.error e) ∧ e.kind = .capacity

/-- Cells that a list can hold are read one after the other. -/
theorem runs_extract_of_le (h : region.count traversal ≤ Region.capacity) :
    Runs (readCells (region.cells traversal)) s (s.extract region traversal).1
      (s.extract region traversal).2 := by
  obtain hcells | ⟨hlt, -, -⟩ := (runs_extract region traversal s).readRegion_cases
  · exact hcells
  · exact absurd h (Nat.not_le.mpr hlt)

/-- **If no list can hold them, none is looked up.** -/
theorem extract_of_lt (h : Region.capacity < region.count traversal) :
    s.extract region traversal = (.error .regionTooLarge, s) := by
  rw [extract, readRegion, Region.listed?_of_lt h]
  rfl

/-- **A region inside of the grid is read**, between operations. -/
theorem exists_extract_eq_ok (hs : s.AtRest) (hle : region.count traversal ≤ Region.capacity)
    (h : ∀ a ∈ region.cells traversal, s.Within a) :
    ∃ entries t, s.extract region traversal = (.ok entries, t) := by
  rcases (runs_extract_of_le hle).entries with
    ⟨entries, heq, -⟩ | ⟨before, a, after, e, hcells, -, hrefused, -⟩
  · exact ⟨entries, _, Prod.ext heq rfl⟩
  · cases hrefused with
    | outside hout => exact absurd (h a (by simp [hcells])) (not_within_iff.mpr hout)
    | marked hmark => exact absurd hmark (hs a)

/-- **A region that leaves the grid is refused**, for the first cell outside. -/
theorem fst_extract_of_outside (hs : s.AtRest)
    (hle : region.count traversal ≤ Region.capacity) {a : Address}
    (h : (region.cells traversal).find? (fun a => !s.Within a) = some a) :
    (s.extract region traversal).1 = .error (.outOfBounds a) := by
  have hrun := runs_extract_of_le (s := s) hle
  have hfills := hrun.fills
  have hwithin {b : Address} (hb : (s.extract region traversal).2.HasValue b) : s.Within b := by
    obtain ⟨v, hv⟩ := hb
    rw [within_iff, isSome_slot?, ← hfills.raw, ← isSome_slot?, hv]
    rfl
  rcases hrun.entries with
    ⟨entries, -, hentries⟩ | ⟨before, b, after, e, hcells, heq, hrefused, hbefore⟩
  · have hin := hwithin (hentries.hasValue a (List.mem_of_find?_eq_some h))
    have hout : ¬s.Within a := by simpa using List.find?_some h
    exact absurd hin hout
  · cases hrefused with
    | marked hmark => exact absurd hmark (hs b)
    | outside hout =>
      have hfind : (region.cells traversal).find? (fun a => !s.Within a) = some b := by
        refine List.find?_eq_some_iff_append.mpr ⟨?_, before, after, hcells, fun c hc => ?_⟩
        · simpa using not_within_iff.mpr hout
        · simpa using hwithin (hbefore c hc)
      obtain rfl : a = b := Option.some.inj (h.symm.trans hfind)
      exact heq

end Sheet

/-! ## Sequences -/

namespace Sequence

/-- **A sequence as it is made**: the cursor is at the start, and there is a
step for each of the values. -/
structure IsNew (q : Sequence) : Prop where
  /-- The cursor is at the start. -/
  step : q.step = 0
  /-- There is a step for each value. -/
  totalSteps : q.totalSteps = q.values.length

variable (q : Sequence)

/-- A step moves the cursor alone. -/
theorem values_advance : q.advance.values = q.values := by
  rw [advance]
  split_ifs <;> rfl

theorem totalSteps_advance : q.advance.totalSteps = q.totalSteps := by
  rw [advance]
  split_ifs <;> rfl

theorem values_iterate_advance (k : Nat) : (advance^[k] q).values = q.values := by
  induction k with
  | zero => rfl
  | succ k ih => rw [Function.iterate_succ_apply', values_advance, ih]

theorem totalSteps_iterate_advance (k : Nat) : (advance^[k] q).totalSteps = q.totalSteps := by
  induction k with
  | zero => rfl
  | succ k ih => rw [Function.iterate_succ_apply', totalSteps_advance, ih]

/-- **The cursor counts the steps**, from the start, and up to the number of
steps. -/
theorem step_iterate_advance {q : Sequence} (hstep : q.step = 0) (k : Nat) :
    (advance^[k] q).step = if q.totalSteps = 0 then 0 else k % q.totalSteps := by
  induction k with
  | zero => simpa using hstep
  | succ k ih =>
    rw [Function.iterate_succ_apply', advance, totalSteps_iterate_advance]
    by_cases hn : q.totalSteps = 0
    · rw [if_pos hn, ih, if_pos hn, if_pos hn]
    · rw [if_neg hn] at ih ⊢
      rw [if_neg hn]
      show (_ + 1) % q.totalSteps = _
      rw [ih, Nat.mod_add_mod]

/-- **The value under the cursor is the one of the step that has been counted**,
and there is none if there are no steps. -/
theorem IsNew.current_iterate_advance {q : Sequence} (h : q.IsNew) (k : Nat) :
    (advance^[k] q).current = q.values[k % q.totalSteps]?.join := by
  rw [current, values_iterate_advance, step_iterate_advance h.step]
  split_ifs with hn
  · have hnil : q.values = [] := List.length_eq_zero_iff.mp (h.totalSteps ▸ hn)
    simp [hnil]
  · rfl

end Sequence

/-- The steps of a region are its entries, read in the course of the run, and
the cursor is at the start. -/
theorem Runs.stepped {nested : List Char → Plan CellValue} {source bpm : List Char}
    {traversal : Option (List Char)} {s t : Sheet} {m : MusicObject}
    (h : Runs (Formula.stepped nested source bpm traversal) s (.ok m) t) :
    ∃ q s₁ s₂, m = .sequence q ∧ q.IsNew
      ∧ Runs (readRegion q.region q.traversal) s₁ (.ok q.values) s₂ ∧ Fills s₂ t := by
  unfold Formula.stepped at h
  split at h
  · exact nomatch h
  next region _ =>
  obtain ⟨bpm, s₀, -, h⟩ := h.of_bind_ok
  obtain ⟨traversal, s₁, -, h⟩ := h.of_bind_ok
  obtain ⟨values, s₂, hread, h⟩ := h.of_bind_ok
  have hfills := h.fills
  obtain ⟨bus, s₃, -, h⟩ := h.of_bind_ok
  cases h
  exact ⟨⟨values, 0, values.length, bpm, bus, region, traversal⟩, s₁, s₂, rfl, ⟨rfl, rfl⟩, hread,
    hfills⟩

namespace Sheet

/-- **What a sequence is made of**, whoever asks for it: the entries of its
region, and a cursor at the start. -/
theorem exists_extract_of_sequence {nested : List Char → Plan CellValue} {call : Invocation}
    {s t : Sheet} {m : MusicObject}
    (h : s.perform (Formula.sequence nested call) = (.ok m, t)) :
    ∃ (q : Sequence) (s₁ s₂ : Sheet), m = .sequence q ∧ q.IsNew
      ∧ s₁.extract q.region q.traversal = (.ok q.values, s₂)
      ∧ t.Entries (q.region.cells q.traversal) q.values := by
  have hrun := runs_perform (Formula.sequence nested call) s
  rw [h] at hrun
  obtain ⟨source, bpm, traversal, hstepped⟩ : ∃ source bpm traversal,
      Runs (Formula.stepped nested source bpm traversal) s (.ok m) t := by
    unfold Formula.sequence at hrun
    split at hrun
    · exact ⟨_, _, _, hrun⟩
    · exact ⟨_, _, _, hrun⟩
    · exact nomatch hrun
  obtain ⟨q, s₁, s₂, hm, hnew, hread, hfills⟩ := hstepped.stepped
  have hextract : s₁.extract q.region q.traversal = (.ok q.values, s₂) := hread.perform_eq
  exact ⟨q, s₁, s₂, hm, hnew, hextract, hfills.entries (entries_extract hextract)⟩

/-- A column in which the first two cells each ask for the next one. -/
def descending : Sheet :=
  (Sheet.new 0 0 ⟨fun _ _ => .error "no scripts"⟩).operateAll
    [.setRows [["=A2"], ["=A3 * 2"], ["3"]] false]

end Sheet

end SoundSheet
