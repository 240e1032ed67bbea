import Mathlib.Algebra.Order.BigOperators.Group.List
import Mathlib.Order.Bounds.Basic
import SoundSheet.Document.Basic
import SoundSheet.Proofs.Address.Names
import SoundSheet.Script.Language

/-!
# Tables that are read again

A table goes up to the last row and the last column that hold a raw text
(`exists_extent`) and has one line for each of these rows. A line is read as
Markdown has it: bars separate its fields, except for those behind a backslash
that is not itself escaped (`pieces`, `fieldsOf`). Each field of a row has
blanks on both sides, so whatever it ends with, the bar behind it separates
(`fieldsOf_rowLine_padded`).

A bar in a text is written with a backslash in front, but a backslash is written
as it is. Behind a backslash of the text the one of the bar is the escaped
character, and the bar separates. These are the bars behind an odd number of
backslashes (`strayBars`). A row has that many fields too many, and without such
bars it has the fields that it was written with (`table_lines`).
-/

namespace SoundSheet.Sheet

open SoundSheet.Address SoundSheet.Decimal

/-! ## Reading a line -/

/-- **Cuts a line at its bars**, from a place where the next character is
escaped or not: the text up to the first bar that separates, and the texts
behind it. -/
def cutBars (escaped : Bool) : List Char → List Char × List (List Char)
  | [] => ([], [])
  | c :: rest =>
    if escaped = false ∧ c = '|' then
      ([], (cutBars false rest).1 :: (cutBars false rest).2)
    else
      (c :: (cutBars (!escaped && c == '\\') rest).1, (cutBars (!escaped && c == '\\') rest).2)

/-- **The texts between the bars** that separate. -/
def pieces (line : List Char) : List (List Char) :=
  (cutBars false line).1 :: (cutBars false line).2

/-- **The fields of a line**: what is between its outer bars. -/
def fieldsOf (line : List Char) : List (List Char) :=
  (cutBars false line).2.dropLast

/-- Whether the character behind a text is escaped. -/
def escapedAfter : Bool → List Char → Bool
  | escaped, [] => escaped
  | escaped, c :: rest => escapedAfter (!escaped && c == '\\') rest

/-- A text that ends with anything but a backslash escapes nothing. -/
theorem escapedAfter_concat {c : Char} (hc : c ≠ '\\') (escaped : Bool) (s : List Char) :
    escapedAfter escaped (s ++ [c]) = false := by
  induction s generalizing escaped with
  | nil =>
    show (!escaped && c == '\\') = false
    rw [beq_eq_false_iff_ne.mpr hc, Bool.and_false]
  | cons d s ih => exact ih _

theorem cutBars_bar (s : List Char) : cutBars false ('|' :: s) = ([], pieces s) := rfl

theorem cutBars_cons {escaped : Bool} {c : Char} (h : ¬(escaped = false ∧ c = '|'))
    (s : List Char) :
    cutBars escaped (c :: s)
      = (c :: (cutBars (!escaped && c == '\\') s).1, (cutBars (!escaped && c == '\\') s).2) :=
  if_neg h

/-- **A bar that is not escaped separates.** -/
theorem cutBars_append_bar {escaped : Bool} {s : List Char} (h : escapedAfter escaped s = false)
    (t : List Char) :
    cutBars escaped (s ++ '|' :: t)
      = ((cutBars escaped s).1, (cutBars escaped s).2 ++ pieces t) := by
  induction s generalizing escaped with
  | nil =>
    obtain rfl : escaped = false := h
    rfl
  | cons c s ih =>
    have ih := ih h
    rw [List.cons_append]
    by_cases hbar : escaped = false ∧ c = '|'
    · obtain ⟨rfl, rfl⟩ := hbar
      rw [cutBars_bar, cutBars_bar, pieces, show cutBars false (s ++ '|' :: t) = _ from ih]
      rfl
    · rw [cutBars_cons hbar, cutBars_cons hbar, ih]

theorem pieces_append_bar {s : List Char} (h : escapedAfter false s = false) (t : List Char) :
    pieces (s ++ '|' :: t) = pieces s ++ pieces t := by
  rw [pieces, cutBars_append_bar h]
  rfl

/-- **With the bars between them the pieces are the line.** -/
theorem intercalate_cutBars (escaped : Bool) (s : List Char) :
    List.intercalate ['|'] ((cutBars escaped s).1 :: (cutBars escaped s).2) = s := by
  induction s generalizing escaped with
  | nil => rfl
  | cons c s ih =>
    by_cases hbar : escaped = false ∧ c = '|'
    · obtain ⟨rfl, rfl⟩ := hbar
      rw [cutBars_bar, pieces, List.intercalate_cons_cons, ih]
      rfl
    · have ih := ih (!escaped && c == '\\')
      rw [cutBars_cons hbar]
      cases hrest : (cutBars (!escaped && c == '\\') s).2 with
      | nil =>
        rw [hrest, List.intercalate_singleton] at ih
        rw [List.intercalate_singleton, ih]
      | cons next rest =>
        rw [hrest, List.intercalate_cons_cons] at ih
        rw [List.intercalate_cons_cons, List.cons_append, List.cons_append, ih]

/-- A text without a bar that separates is one piece. -/
theorem pieces_eq_singleton {s : List Char} (h : (cutBars false s).2 = []) : pieces s = [s] := by
  have hs := intercalate_cutBars false s
  rw [h, List.intercalate_singleton] at hs
  rw [pieces, h, hs]

/-- **A line is read part by part** if each part is followed by a bar and
escapes nothing behind it. -/
theorem fieldsOf_parts {parts : List (List Char)}
    (h : ∀ part ∈ parts, escapedAfter false part = false) :
    fieldsOf ('|' :: parts.flatMap (· ++ ['|'])) = parts.flatMap pieces := by
  have hpieces : pieces (parts.flatMap (· ++ ['|'])) = parts.flatMap pieces ++ [[]] := by
    induction parts with
    | nil => rfl
    | cons part parts ih =>
      obtain ⟨hpart, hparts⟩ := List.forall_mem_cons.mp h
      rw [List.flatMap_cons, List.append_assoc, List.singleton_append, pieces_append_bar hpart,
        ih hparts, List.flatMap_cons, List.append_assoc]
  show (pieces (parts.flatMap (· ++ ['|']))).dropLast = _
  rw [hpieces, List.dropLast_concat]

/-! ## Writing a field -/

/-- A text in one line: line feeds become blanks and carriage returns are left
out. -/
def oneLine (s : List Char) : List Char :=
  s.flatMap fun c => if c = '\n' then [' '] else if c = '\r' then [] else [c]

/-- A text with a backslash in front of every bar. -/
def escapeBars (s : List Char) : List Char :=
  s.flatMap fun c => if c = '|' then ['\\', '|'] else [c]

/-- **How many bars stand behind an odd number of backslashes**, from a place
behind an odd number of them or not. -/
def strayBars : Bool → List Char → Nat
  | _, [] => 0
  | odd, c :: rest =>
    (if odd = true ∧ c = '|' then 1 else 0) + strayBars (!odd && c == '\\') rest

/-- A text as a field of a row, with blanks around it. -/
def padded (field : List Char) : List Char :=
  ' ' :: (field ++ [' '])

/-- **A field is the text in one line, with its bars escaped.** -/
theorem tableField_eq (text : String) : tableField text = escapeBars (oneLine text.toList) := by
  rw [tableField, escapeBars, oneLine, List.flatMap_assoc]
  refine List.flatMap_congr fun c _ => ?_
  rw [tableChar]
  by_cases hbar : c = '|'
  · rw [hbar]
    rfl
  by_cases hfeed : c = '\n'
  · rw [hfeed]
    rfl
  by_cases hreturn : c = '\r'
  · rw [hreturn]
    rfl
  · rw [if_neg hbar, if_neg hfeed, if_neg hreturn, List.flatMap_singleton, if_neg hbar]

theorem escapeBars_bar (s : List Char) : escapeBars ('|' :: s) = '\\' :: '|' :: escapeBars s := rfl

theorem escapeBars_cons {c : Char} (hc : c ≠ '|') (s : List Char) :
    escapeBars (c :: s) = c :: escapeBars s := by
  rw [escapeBars, List.flatMap_cons, if_neg hc]
  rfl

/-- **The bars of an escaped text that separate** are the stray ones of the
text. -/
theorem length_cutBars_escapeBars (escaped : Bool) (s : List Char) :
    (cutBars escaped (escapeBars s ++ [' '])).2.length = strayBars escaped s := by
  induction s generalizing escaped with
  | nil => cases escaped <;> rfl
  | cons c s ih =>
    by_cases hbar : c = '|'
    · -- the backslash of the bar is escaped by one in front of it, or it escapes the bar
      rw [hbar, escapeBars_bar, List.cons_append, List.cons_append,
        cutBars_cons fun h => absurd h.2 (by decide)]
      cases escaped with
      | true =>
        rw [show (!true && '\\' == '\\') = false from rfl, cutBars_bar, pieces, List.length_cons,
          ih, Nat.add_comm]
        rfl
      | false =>
        rw [show (!false && '\\' == '\\') = true from rfl,
          cutBars_cons fun h => absurd h.1 (by decide)]
        exact (ih false).trans (Nat.zero_add _).symm
    · rw [escapeBars_cons hbar, List.cons_append, cutBars_cons fun h => hbar h.2, ih, strayBars,
        if_neg fun h => hbar h.2, Nat.zero_add]

/-- **A field in its blanks** escapes nothing behind it. -/
theorem escapedAfter_padded (field : List Char) : escapedAfter false (padded field) = false :=
  escapedAfter_concat (by decide) false (' ' :: field)

theorem length_pieces_padded (s : List Char) :
    (pieces (padded (escapeBars s))).length = strayBars false s + 1 := by
  rw [pieces, List.length_cons, padded, cutBars_cons fun h => absurd h.2 (by decide)]
  exact congrArg (· + 1) (length_cutBars_escapeBars false s)

/-- A text is one field if it has no stray bar. -/
theorem pieces_padded {s : List Char} (h : strayBars false s = 0) :
    pieces (padded (escapeBars s)) = [padded (escapeBars s)] := by
  have hlength := length_pieces_padded s
  rw [h, pieces, List.length_cons] at hlength
  exact pieces_eq_singleton (List.length_eq_zero_iff.mp (Nat.succ_inj.mp hlength))

/-- A text without bars stands in a table as it is. -/
theorem escapeBars_of_not_mem {s : List Char} (h : '|' ∉ s) :
    escapeBars s = s ∧ ∀ odd, strayBars odd s = 0 := by
  induction s with
  | nil => exact ⟨rfl, fun _ => rfl⟩
  | cons c s ih =>
    obtain ⟨hc, hs⟩ := not_or.mp (mt List.mem_cons.mpr h)
    obtain ⟨hescape, hstray⟩ := ih hs
    refine ⟨by rw [escapeBars_cons (Ne.symm hc), hescape], fun odd => ?_⟩
    rw [strayBars, hstray, if_neg fun h => hc h.2.symm]

/-- A field without bars is one field. -/
theorem pieces_padded_of_not_mem {s : List Char} (h : '|' ∉ s) :
    pieces (padded s) = [padded s] := by
  obtain ⟨hescape, hstray⟩ := escapeBars_of_not_mem h
  have hpieces := pieces_padded (hstray false)
  rwa [hescape] at hpieces

/-! ## The lines of a table -/

/-- A line with these parts, each with a bar behind it. -/
def rowLine (parts : List (List Char)) : List Char :=
  '|' :: parts.flatMap (· ++ ['|'])

theorem tableRow_eq (fields : List (List Char)) :
    tableRow fields = rowLine (fields.map padded) ++ ['\n'] := by
  rw [tableRow, rowLine, List.flatMap_map]
  refine congrArg (fun parts => '|' :: parts ++ ['\n']) ?_
  refine List.flatMap_congr fun field _ => ?_
  rw [paddedField, padded, List.cons_append, List.cons_append, List.append_assoc]
  rfl

theorem separatorRow_eq (columns : Nat) :
    separatorRow columns = rowLine (List.replicate columns "---".toList) ++ ['\n'] := by
  rw [separatorRow, rowLine, List.flatMap_def, List.map_replicate]
  rfl

/-- No line is broken by its parts. -/
theorem not_mem_rowLine {parts : List (List Char)} (h : ∀ part ∈ parts, '\n' ∉ part) :
    '\n' ∉ rowLine parts := by
  rw [rowLine, List.mem_cons, List.mem_flatMap]
  rintro (hbar | ⟨part, hpart, hmem⟩)
  · exact absurd hbar (by decide)
  · rcases List.mem_append.mp hmem with hmem | hmem
    · exact h part hpart hmem
    · exact absurd hmem (by decide)

theorem not_mem_padded {c : Char} (hc : c ≠ ' ') {field : List Char} (h : c ∉ field) :
    c ∉ padded field := by
  rw [padded, List.mem_cons, List.mem_append, List.mem_singleton]
  rintro (hmem | hmem | hmem)
  · exact hc hmem
  · exact h hmem
  · exact hc hmem

/-- A text in one line has no line feed. -/
theorem not_mem_oneLine (s : List Char) : '\n' ∉ oneLine s := by
  rw [oneLine, List.mem_flatMap]
  rintro ⟨c, -, hmem⟩
  by_cases hfeed : c = '\n'
  · rw [if_pos hfeed] at hmem
    exact absurd hmem (by decide)
  rw [if_neg hfeed] at hmem
  by_cases hreturn : c = '\r'
  · rw [if_pos hreturn] at hmem
    exact List.not_mem_nil hmem
  · rw [if_neg hreturn, List.mem_singleton] at hmem
    exact hfeed hmem.symm

theorem not_mem_escapeBars {s : List Char} (h : '\n' ∉ s) : '\n' ∉ escapeBars s := by
  rw [escapeBars, List.mem_flatMap]
  rintro ⟨c, hc, hmem⟩
  by_cases hbar : c = '|'
  · rw [if_pos hbar] at hmem
    exact absurd hmem (by decide)
  · rw [if_neg hbar, List.mem_singleton] at hmem
    exact h (hmem ▸ hc)

/-- The name of a column is made of letters. -/
theorem not_mem_columnLabel {c : Char} (hc : c.isUpper = false) (col : Nat) :
    c ∉ columnLabel col := fun h => by
  rw [isUpper_of_mem_columnLetters h] at hc
  exact Bool.false_ne_true hc.symm

/-- **The fields of a row** are those that it is written with, each cut by
itself. -/
theorem fieldsOf_rowLine_padded (fields : List (List Char)) :
    fieldsOf (rowLine (fields.map padded)) = fields.flatMap fun field => pieces (padded field) := by
  rw [rowLine, fieldsOf_parts (List.forall_mem_map.mpr fun field _ => escapedAfter_padded field),
    List.flatMap_map]

/-- Fields without bars are read as they are written. -/
theorem fieldsOf_rowLine_of_not_mem {fields : List (List Char)}
    (h : ∀ field ∈ fields, '|' ∉ field) :
    fieldsOf (rowLine (fields.map padded)) = fields.map padded := by
  rw [fieldsOf_rowLine_padded, List.map_eq_flatMap]
  exact List.flatMap_congr fun field hfield => pieces_padded_of_not_mem (h field hfield)

/-! ## The rows of a sheet -/

/-- The text of a cell as it stands in a table. -/
def cellField (s : Sheet) (a : Address) : List Char :=
  escapeBars (oneLine (s.display a).toList)

/-- **The stray bars of a cell**: those of what it shows, in one line. -/
def strayBarsAt (s : Sheet) (a : Address) : Nat :=
  strayBars false (oneLine (s.display a).toList)

section Rows

variable (s : Sheet) (columns row : Nat)

/-- The line of a row of the sheet. -/
def dataLine : List Char :=
  rowLine ((digitsOf (row + 1) ::
    (List.range columns).map fun col => s.cellField ⟨row, col⟩).map padded)

theorem dataRow_eq : s.dataRow columns row = s.dataLine columns row ++ ['\n'] := by
  simp only [dataRow, tableRow_eq, tableField_eq]
  rfl

theorem not_mem_dataLine : '\n' ∉ s.dataLine columns row := by
  refine not_mem_rowLine (List.forall_mem_map.mpr ?_)
  refine List.forall_mem_cons.mpr ⟨not_mem_padded (by decide) (not_mem_digitsOf (by decide) _),
    List.forall_mem_map.mpr fun col _ => ?_⟩
  exact not_mem_padded (by decide) (not_mem_escapeBars (not_mem_oneLine _))

/-- **The fields of a row of the sheet**: its number, and what each cell is cut
into. -/
theorem fieldsOf_dataLine :
    fieldsOf (s.dataLine columns row) = padded (digitsOf (row + 1)) ::
      (List.range columns).flatMap fun col => pieces (padded (s.cellField ⟨row, col⟩)) := by
  rw [dataLine, fieldsOf_rowLine_padded, List.flatMap_cons,
    pieces_padded_of_not_mem (not_mem_digitsOf (by decide) _), List.flatMap_map]
  rfl

/-- **How many they are**: one for each column, one for the number, and one for
each stray bar. -/
theorem length_fieldsOf_dataLine :
    (fieldsOf (s.dataLine columns row)).length
      = columns + 1 + ((List.range columns).map fun col => s.strayBarsAt ⟨row, col⟩).sum := by
  have hpieces (col : Nat) : (pieces (padded (s.cellField ⟨row, col⟩))).length
      = s.strayBarsAt ⟨row, col⟩ + 1 := length_pieces_padded _
  rw [fieldsOf_dataLine, List.length_cons, List.length_flatMap]
  simp only [hpieces, List.sum_map_add, List.map_const', List.sum_replicate_nat, List.length_range]
  omega

/-- **The fields are the cells exactly if no cell has a stray bar.** -/
theorem fieldsOf_dataLine_eq_iff :
    fieldsOf (s.dataLine columns row) = padded (digitsOf (row + 1)) ::
        (List.range columns).map (fun col => padded (s.cellField ⟨row, col⟩))
      ↔ ∀ col < columns, s.strayBarsAt ⟨row, col⟩ = 0 := by
  constructor
  · intro h col hcol
    have hlength := congrArg List.length h
    rw [length_fieldsOf_dataLine, List.length_cons, List.length_map, List.length_range] at hlength
    have hle : s.strayBarsAt ⟨row, col⟩
        ≤ ((List.range columns).map fun col => s.strayBarsAt ⟨row, col⟩).sum :=
      List.le_sum_of_mem (List.mem_map.mpr ⟨col, List.mem_range.mpr hcol, rfl⟩)
    omega
  · intro h
    rw [fieldsOf_dataLine, List.map_eq_flatMap]
    refine congrArg (_ :: ·) (List.flatMap_congr fun col hcol => ?_)
    exact pieces_padded (h col (List.mem_range.mp hcol))

end Rows

/-! ## The part of a sheet that a table shows -/

/-- A cell that holds a raw text. -/
def HoldsText (s : Sheet) (a : Address) : Prop :=
  ∃ raw, s.raw? a = some raw ∧ raw ≠ ""

theorem mem_usedCells_iff {s : Sheet} {a : Address} : a ∈ s.usedCells ↔ s.HoldsText a := by
  rw [usedCells, List.mem_filter, mem_addresses_iff, HoldsText]
  cases s.raw? a <;> simp

/-- **The table goes up to the last row and the last column that hold a
text.** -/
theorem exists_extent {s : Sheet} (h : ∃ a, s.HoldsText a) :
    ∃ last, s.extent = some last
      ∧ IsGreatest {row | ∃ col, s.HoldsText ⟨row, col⟩} last.row
      ∧ IsGreatest {col | ∃ row, s.HoldsText ⟨row, col⟩} last.col := by
  obtain ⟨a, ha⟩ := h
  have hused := mem_usedCells_iff.mpr ha
  have hsome (f : Address → Nat) : ∃ n, (s.usedCells.map f).max? = some n :=
    Option.ne_none_iff_exists'.mp fun hnone =>
      List.ne_nil_of_mem (List.mem_map_of_mem hused) (List.max?_eq_none_iff.mp hnone)
  obtain ⟨row, hrow⟩ := hsome Address.row
  obtain ⟨col, hcol⟩ := hsome Address.col
  refine ⟨⟨row, col⟩, by rw [extent, hrow, hcol], ?_, ?_⟩
  · obtain ⟨hmem, hle⟩ := List.max?_eq_some_iff.mp hrow
    obtain ⟨b, hb, rfl⟩ := List.mem_map.mp hmem
    exact ⟨⟨b.col, mem_usedCells_iff.mp hb⟩, fun i ⟨j, hij⟩ =>
      hle i (List.mem_map.mpr ⟨⟨i, j⟩, mem_usedCells_iff.mpr hij, rfl⟩)⟩
  · obtain ⟨hmem, hle⟩ := List.max?_eq_some_iff.mp hcol
    obtain ⟨b, hb, rfl⟩ := List.mem_map.mp hmem
    exact ⟨⟨b.row, mem_usedCells_iff.mp hb⟩, fun j ⟨i, hij⟩ =>
      hle j (List.mem_map.mpr ⟨⟨i, j⟩, mem_usedCells_iff.mpr hij, rfl⟩)⟩

/-- The line of the names of the columns. -/
def headerLine (columns : Nat) : List Char :=
  rowLine (([' '] :: (List.range columns).map columnLabel).map padded)

/-- The line of dashes. -/
def separatorLine (columns : Nat) : List Char :=
  rowLine (List.replicate columns "---".toList)

/-- **The lines of a table** up to a last cell, with the title. -/
def tableLines (s : Sheet) (last : Address) : List (List Char) :=
  "# Sheet".toList :: [] :: headerLine (last.col + 1) :: separatorLine (last.col + 2)
    :: (List.range (last.row + 1)).map (s.dataLine (last.col + 1))

theorem toList_table {s : Sheet} {last : Address} (h : s.extent = some last) :
    s.table.toList = (s.tableLines last).flatMap (· ++ ['\n']) := by
  have hrows : (List.range (last.row + 1)).flatMap (s.dataRow (last.col + 1))
      = ((List.range (last.row + 1)).map (s.dataLine (last.col + 1))).flatMap (· ++ ['\n']) := by
    rw [List.flatMap_map]
    exact List.flatMap_congr fun row _ => s.dataRow_eq (last.col + 1) row
  have htable : s.table.toList = "# Sheet\n\n".toList ++ s.tableTo last := by
    rw [table, h, String.toList_append]
    exact congrArg _ String.toList_ofList
  rw [htable, tableTo, hrows, headerRow, tableRow_eq, separatorRow_eq, tableLines]
  simp only [List.flatMap_cons, List.append_assoc]
  rfl

/-- No line of a table is broken. -/
theorem forall_tableLines_not_mem (s : Sheet) (last : Address) :
    ∀ line ∈ s.tableLines last, '\n' ∉ line := by
  have hheader : '\n' ∉ headerLine (last.col + 1) := by
    refine not_mem_rowLine (List.forall_mem_map.mpr ?_)
    refine List.forall_mem_cons.mpr ⟨by decide, List.forall_mem_map.mpr fun col _ => ?_⟩
    exact not_mem_padded (by decide) (not_mem_columnLabel (by decide) col)
  have hseparator : '\n' ∉ separatorLine (last.col + 2) :=
    not_mem_rowLine fun part hpart => by
      rw [List.eq_of_mem_replicate hpart]
      decide
  have hrows : ∀ line ∈ (List.range (last.row + 1)).map (s.dataLine (last.col + 1)),
      '\n' ∉ line :=
    List.forall_mem_map.mpr fun row _ => s.not_mem_dataLine (last.col + 1) row
  simp only [tableLines, List.forall_mem_cons]
  exact ⟨by decide, by decide, hheader, hseparator, hrows⟩

theorem fieldsOf_headerLine (columns : Nat) :
    fieldsOf (headerLine columns)
      = padded [' '] :: (List.range columns).map fun col => padded (columnLabel col) := by
  rw [headerLine, fieldsOf_rowLine_of_not_mem, List.map_cons, List.map_map]
  · rfl
  · exact List.forall_mem_cons.mpr
      ⟨by decide, List.forall_mem_map.mpr fun col _ => not_mem_columnLabel (by decide) col⟩

theorem fieldsOf_separatorLine (columns : Nat) :
    fieldsOf (separatorLine columns) = List.replicate columns "---".toList := by
  have hparts : ∀ part ∈ List.replicate columns "---".toList, escapedAfter false part = false :=
    fun part hpart => by
      rw [List.eq_of_mem_replicate hpart]
      rfl
  rw [separatorLine, rowLine, fieldsOf_parts hparts, List.flatMap_def, List.map_replicate]
  exact List.flatten_replicate_singleton

/-- **A table is read as the cells that it shows, up to stray bars.** Take any
document with a cell that holds a raw text. Its table has a title, a blank line,
the names of the columns, a line of dashes, and one line for each row down to
the last one that holds a text. The line of a row has one field for its number,
one for each column up to the last one that holds a text, and one for each stray
bar in what the cells show. The fields are the number and what the cells show,
in one line and with the bars escaped, exactly if no cell of the row has a stray
bar. -/
theorem table_lines (d : Document) (h : ∃ a, d.sheet.HoldsText a) :
    ∃ (last : Address) (header separator : List Char) (rows : List (List Char)),
      IsGreatest {row | ∃ col, d.sheet.HoldsText ⟨row, col⟩} last.row
        ∧ IsGreatest {col | ∃ row, d.sheet.HoldsText ⟨row, col⟩} last.col
        ∧ d.sheet.table.toList
          = ("# Sheet".toList :: [] :: header :: separator :: rows).flatMap (· ++ ['\n'])
        ∧ (∀ line ∈ "# Sheet".toList :: [] :: header :: separator :: rows, '\n' ∉ line)
        ∧ fieldsOf header
          = padded [' '] :: (List.range (last.col + 1)).map (fun col => padded (columnLabel col))
        ∧ fieldsOf separator = List.replicate (last.col + 2) "---".toList
        ∧ rows.length = last.row + 1
        ∧ ∀ row line, rows[row]? = some line →
          (fieldsOf line).length = last.col + 2
              + ((List.range (last.col + 1)).map fun col => d.sheet.strayBarsAt ⟨row, col⟩).sum
            ∧ (fieldsOf line = padded (digitsOf (row + 1)) :: (List.range (last.col + 1)).map
                  (fun col => padded (escapeBars (oneLine (d.display ⟨row, col⟩).toList)))
              ↔ ∀ col ≤ last.col, d.sheet.strayBarsAt ⟨row, col⟩ = 0) := by
  obtain ⟨last, hextent, hrow, hcol⟩ := exists_extent h
  refine ⟨last, headerLine (last.col + 1), separatorLine (last.col + 2),
    (List.range (last.row + 1)).map (d.sheet.dataLine (last.col + 1)), hrow, hcol,
    toList_table hextent, forall_tableLines_not_mem d.sheet last, fieldsOf_headerLine _,
    fieldsOf_separatorLine _, by rw [List.length_map, List.length_range], ?_⟩
  intro row line hline
  obtain ⟨i, hi, rfl⟩ := Option.map_eq_some_iff.mp (List.getElem?_map.symm.trans hline)
  obtain ⟨-, rfl⟩ := List.getElem?_eq_some_iff.mp hi
  rw [List.getElem_range]
  refine ⟨by rw [length_fieldsOf_dataLine], ?_⟩
  have hfields := d.sheet.fieldsOf_dataLine_eq_iff (last.col + 1) row
  simp only [Nat.lt_succ_iff] at hfields
  exact hfields

/-- A document with a bar, a line break, and a backslash at the end of a
text. -/
def barred : Document :=
  ((Document.new Script.hosts).replaceRows [["a|b", "c\r\nd"], ["", "e\\"]]).2

/-- Its table has two rows, with the fields that have been written. -/
theorem table_lines_barred :
    (∃ a, barred.sheet.HoldsText a)
      ∧ ∃ header separator first second,
        barred.sheet.table.toList
            = ["# Sheet".toList, [], header, separator, first, second].flatMap (· ++ ['\n'])
          ∧ fieldsOf first = [" 1 ".toList, " a\\|b ".toList, " c d ".toList]
          ∧ fieldsOf second = [" 2 ".toList, "  ".toList, " e\\ ".toList] := by
  have hholds : ∃ a, barred.sheet.HoldsText a := ⟨⟨0, 0⟩, "a|b", by decide +kernel, by decide⟩
  obtain ⟨last, header, separator, rows, hrow, hcol, htable, -, -, -, hlength, hfields⟩ :=
    table_lines barred hholds
  obtain ⟨last', hextent, hrow', hcol'⟩ := exists_extent hholds
  obtain rfl : ⟨1, 1⟩ = last' :=
    Option.some.inj ((show barred.sheet.extent = some ⟨1, 1⟩ by decide +kernel).symm.trans hextent)
  rw [hrow.unique hrow'] at hlength
  rw [hcol.unique hcol'] at hfields
  obtain ⟨first, second, rfl⟩ := List.length_eq_two.mp hlength
  refine ⟨hholds, header, separator, first, second, htable, ?_, ?_⟩
  · rw [(hfields 0 first rfl).2.mpr (by decide +kernel)]
    decide +kernel
  · rw [(hfields 1 second rfl).2.mpr (by decide +kernel)]
    decide +kernel

/-- **A bar behind a backslash separates**: a row for one column has a field too
many. -/
theorem fieldsOf_backslashBar :
    let d := ((Document.new Script.hosts).replaceRows [["\\|"]]).2
    d.sheet.HoldsText ⟨0, 0⟩ ∧ d.sheet.extent = some ⟨0, 0⟩
      ∧ d.sheet.table = "# Sheet\n\n|   | A |\n|---|---|\n| 1 | \\\\| |\n"
      ∧ fieldsOf "| 1 | \\\\| |".toList = [" 1 ".toList, " \\\\".toList, " ".toList] := by
  intro d
  exact ⟨⟨"\\|", by decide +kernel, by decide⟩, by decide +kernel, by decide +kernel, by decide⟩

end SoundSheet.Sheet
