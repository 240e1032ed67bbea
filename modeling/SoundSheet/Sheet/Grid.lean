import SoundSheet.Address.Basic

/-!
# Rectangular grids

A grid is a list of rows of one length. That they have one length is part of the
type, so whatever is done to a sheet, its cells stay a rectangle, and an address
is in the grid exactly if its row and its column are.
-/

namespace SoundSheet

/-- **A rectangle of entries**. -/
structure Grid (α : Type) where
  /-- The rows from top to bottom. -/
  toRows : List (List α)
  /-- All rows have one length. -/
  rectangular : ∀ r ∈ toRows, ∀ s ∈ toRows, r.length = s.length

namespace Grid

variable {α β : Type}

/-- The number of rows. -/
def rows (g : Grid α) : Nat :=
  g.toRows.length

/-- The number of columns; a grid without rows has none. -/
def cols (g : Grid α) : Nat :=
  (g.toRows.head?.map List.length).getD 0

/-- The number of entries. -/
def size (g : Grid α) : Nat :=
  g.rows * g.cols

/-- **The entry at an address**, if it lies in the grid. -/
def get? (g : Grid α) (a : Address) : Option α :=
  (g.toRows[a.row]?).bind fun row => row[a.col]?

/-- The grid of a shape with one entry everywhere. -/
def fill (rows cols : Nat) (x : α) : Grid α where
  toRows := List.replicate rows (List.replicate cols x)
  rectangular r hr s hs := by
    rw [List.eq_of_mem_replicate hr, List.eq_of_mem_replicate hs]

/-- The length of the longest row. -/
def width (rows : List (List α)) : Nat :=
  rows.foldr (fun row n => max row.length n) 0

/-- A row filled up with an entry to a length. -/
def pad (x : α) (n : Nat) (row : List α) : List α :=
  row ++ List.replicate (n - row.length) x

theorem length_le_width {rows : List (List α)} {row : List α} (h : row ∈ rows) :
    row.length ≤ width rows := by
  induction rows with
  | nil => cases h
  | cons r rows ih =>
    rcases List.mem_cons.mp h with rfl | h
    · exact Nat.le_max_left _ _
    · exact Nat.le_trans (ih h) (Nat.le_max_right _ _)

theorem width_le {rows : List (List α)} {n : Nat} (h : ∀ row ∈ rows, row.length ≤ n) :
    width rows ≤ n := by
  induction rows with
  | nil => exact Nat.zero_le _
  | cons r rows ih =>
    exact Nat.max_le.mpr
      ⟨h r List.mem_cons_self, ih fun row hrow => h row (List.mem_cons_of_mem _ hrow)⟩

theorem length_pad {x : α} {n : Nat} {row : List α} (h : row.length ≤ n) :
    (pad x n row).length = n := by
  rw [pad, List.length_append, List.length_replicate]
  exact Nat.add_sub_cancel' h

/-- **The grid of some rows**, where short rows are filled up to the longest. -/
def ofRows (x : α) (rows : List (List α)) : Grid α where
  toRows := rows.map (pad x (width rows))
  rectangular r hr s hs := by
    obtain ⟨r', hr', rfl⟩ := List.mem_map.mp hr
    obtain ⟨s', hs', rfl⟩ := List.mem_map.mp hs
    rw [length_pad (length_le_width hr'), length_pad (length_le_width hs')]

/-- **Rows of one length** are the rows of their grid. -/
theorem toRows_ofRows (x : α) (g : Grid α) : (ofRows x g.toRows).toRows = g.toRows := by
  have hpad : ∀ row ∈ g.toRows, pad x (width g.toRows) row = row := by
    intro row hrow
    have hwidth : width g.toRows ≤ row.length :=
      width_le fun r hr => Nat.le_of_eq (g.rectangular r hr row hrow)
    rw [pad, Nat.sub_eq_zero_of_le hwidth, List.replicate_zero, List.append_nil]
  exact (List.map_congr_left hpad).trans (List.map_id _)

/-- Applies a function to every entry. -/
def map (f : α → β) (g : Grid α) : Grid β where
  toRows := g.toRows.map (List.map f)
  rectangular r hr s hs := by
    obtain ⟨r', hr', rfl⟩ := List.mem_map.mp hr
    obtain ⟨s', hs', rfl⟩ := List.mem_map.mp hs
    rw [List.length_map, List.length_map, g.rectangular r' hr' s' hs']

theorem exists_of_mem_modify {f : List α → List α} (hf : ∀ row, (f row).length = row.length)
    {rows : List (List α)} {i : Nat} {row : List α} (h : row ∈ rows.modify i f) :
    ∃ row' ∈ rows, row.length = row'.length := by
  obtain ⟨j, hj⟩ := List.mem_iff_getElem?.mp h
  rw [List.getElem?_modify] at hj
  cases hrow : rows[j]? with
  | none => rw [hrow] at hj; cases hj
  | some row' =>
    rw [hrow] at hj
    refine ⟨row', List.mem_of_getElem? hrow, ?_⟩
    cases hj
    split
    · exact hf row'
    · rfl

/-- Changes the entry at an address, if it lies in the grid. -/
def modify (g : Grid α) (a : Address) (f : α → α) : Grid α where
  toRows := g.toRows.modify a.row fun row => row.modify a.col f
  rectangular r hr s hs := by
    have hlen : ∀ row : List α, (row.modify a.col f).length = row.length :=
      fun row => List.length_modify f row a.col
    obtain ⟨r', hr', her⟩ := exists_of_mem_modify hlen hr
    obtain ⟨s', hs', hes⟩ := exists_of_mem_modify hlen hs
    rw [her, hes, g.rectangular r' hr' s' hs']

/-- The addresses of a shape, row by row. -/
def addressesOf (rows cols : Nat) : List Address :=
  (List.range rows).flatMap fun row => (List.range cols).map fun col => ⟨row, col⟩

/-- **The addresses of a grid**, row by row. -/
def addresses (g : Grid α) : List Address :=
  addressesOf g.rows g.cols

/-! ## Entries -/

/-- An entry that is changed is the only one that differs afterwards. -/
theorem get?_modify (g : Grid α) (a b : Address) (f : α → α) :
    (g.modify a f).get? b = if a = b then (g.get? b).map f else g.get? b := by
  unfold get? modify
  rw [List.getElem?_modify]
  obtain ⟨r, c⟩ := a
  obtain ⟨r', c'⟩ := b
  cases g.toRows[r']? with
  | none => simp
  | some row =>
    by_cases hr : r = r'
    · by_cases hc : c = c'
      · simp [hr, hc]
      · simp [hr, hc]
    · simp [hr]

theorem get?_map (g : Grid α) (f : α → β) (a : Address) :
    (g.map f).get? a = (g.get? a).map f := by
  unfold get? map
  rw [List.getElem?_map]
  cases g.toRows[a.row]? with
  | none => rfl
  | some row => exact List.getElem?_map

/-- A function that keeps every entry keeps the grid. -/
theorem map_eq_self {g : Grid α} {f : α → α} (h : ∀ a x, g.get? a = some x → f x = x) :
    g.map f = g := by
  have hrow : ∀ row ∈ g.toRows, row.map f = row := by
    intro row hrow
    obtain ⟨i, hi⟩ := List.mem_iff_getElem?.mp hrow
    refine (List.map_congr_left fun x hx => ?_).trans (List.map_id row)
    obtain ⟨j, hj⟩ := List.mem_iff_getElem?.mp hx
    refine h ⟨i, j⟩ x ?_
    rw [get?, hi]
    exact hj
  obtain ⟨rows, rectangular⟩ := g
  show Grid.mk (rows.map (List.map f)) _ = _
  congr 1
  exact (List.map_congr_left hrow).trans (List.map_id rows)

theorem length_of_getElem? {g : Grid α} {i : Nat} {row : List α} (h : g.toRows[i]? = some row) :
    row.length = g.cols := by
  unfold cols
  cases hrows : g.toRows with
  | nil => rw [hrows] at h; cases h
  | cons first rest =>
    exact g.rectangular row (List.mem_of_getElem? h) first (by rw [hrows]; exact List.mem_cons_self)

/-- An address has an entry exactly if its row and its column are in the
grid. -/
theorem isSome_get?_iff (g : Grid α) (a : Address) :
    (g.get? a).isSome ↔ a.row < g.rows ∧ a.col < g.cols := by
  unfold get?
  cases hrow : g.toRows[a.row]? with
  | none =>
    have : g.rows ≤ a.row := List.getElem?_eq_none_iff.mp hrow
    simp only [Option.bind_none, Option.isSome_none, Bool.false_eq_true, false_iff, not_and]
    intro h
    exact absurd h (Nat.not_lt.mpr this)
  | some row =>
    have hlt : a.row < g.rows := (List.getElem?_eq_some_iff.mp hrow).1
    have hcol : (row[a.col]?).isSome ↔ a.col < g.cols := by
      rw [← length_of_getElem? hrow]
      simp
    exact ⟨fun h => ⟨hlt, hcol.mp h⟩, fun h => hcol.mpr h.2⟩

/-! ## Shape -/

theorem rows_modify (g : Grid α) (a : Address) (f : α → α) : (g.modify a f).rows = g.rows := by
  unfold rows modify
  rw [List.length_modify]

theorem cols_modify (g : Grid α) (a : Address) (f : α → α) : (g.modify a f).cols = g.cols := by
  show (((g.toRows.modify a.row _).head?).map List.length).getD 0 = (g.toRows.head?.map _).getD 0
  cases g.toRows with
  | nil => cases a.row <;> rfl
  | cons row rows => cases a.row <;> simp

theorem rows_map (g : Grid α) (f : α → β) : (g.map f).rows = g.rows := by
  unfold rows map
  rw [List.length_map]

theorem cols_map (g : Grid α) (f : α → β) : (g.map f).cols = g.cols := by
  show (((g.toRows.map _).head?).map List.length).getD 0 = (g.toRows.head?.map _).getD 0
  cases g.toRows with
  | nil => rfl
  | cons row rows => simp

/-- The addresses of a grid are those at which it has an entry. -/
theorem mem_addresses_iff (g : Grid α) (a : Address) :
    a ∈ g.addresses ↔ (g.get? a).isSome := by
  rw [isSome_get?_iff]
  obtain ⟨row, col⟩ := a
  simp [addresses, addressesOf]

theorem length_addresses (g : Grid α) : g.addresses.length = g.size := by
  unfold addresses addressesOf size
  simp [List.length_flatMap, List.map_const']

end Grid

end SoundSheet
