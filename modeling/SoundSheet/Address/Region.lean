import SoundSheet.Address.Basic

/-!
# Regions of cells

A region is given by two corners, written `A1:B5`. It is read in one of three
orders: down its first column, along its first row, or row by row over the
whole rectangle. The corners are taken as they are written, so a region whose
last corner precedes its first along a walked axis has no cells there.

Before any cell of a region is looked at, all its addresses are put in a list.
There are regions that can be written and have more cells than any list can hold
(`Region.listed?`).
-/

namespace SoundSheet

open SoundSheet.Text

/-- **A region of cells**, by its two corners. -/
structure Region where
  /-- The corner that is written first. -/
  first : Address
  /-- The corner that is written last. -/
  last : Address
  deriving DecidableEq, Repr

/-- **The order in which a region is read**. -/
inductive Traversal where
  /-- Down the first column. -/
  | vertical
  /-- Along the first row. -/
  | horizontal
  /-- Row by row over the rectangle. -/
  | matrix
  deriving DecidableEq, Repr

namespace Traversal

/-- The name of a traversal. -/
def name : Traversal → String
  | vertical => "vertical"
  | horizontal => "horizontal"
  | matrix => "matrix"

/-- All traversals. -/
def all : List Traversal :=
  [vertical, horizontal, matrix]

/-- **The traversal with a name**, in any letter case. -/
def parse? (s : List Char) : Option Traversal :=
  all.find? fun t => t.name.toList == s.map Char.toLower

end Traversal

namespace Region

/-- The numbers from `a` to `b`, both included. -/
def between (a b : Nat) : List Nat :=
  List.range' a (b + 1 - a)

/-- **The cells of a region** in the order of a traversal. -/
def cells (r : Region) : Traversal → List Address
  | .vertical => (between r.first.row r.last.row).map fun row => ⟨row, r.first.col⟩
  | .horizontal => (between r.first.col r.last.col).map fun col => ⟨r.first.row, col⟩
  | .matrix =>
    (between r.first.row r.last.row).flatMap fun row =>
      (between r.first.col r.last.col).map fun col => ⟨row, col⟩

/-- **How many cells a region has** in a traversal. -/
def count (r : Region) : Traversal → Nat
  | .vertical => r.last.row + 1 - r.first.row
  | .horizontal => r.last.col + 1 - r.first.col
  | .matrix => (r.last.row + 1 - r.first.row) * (r.last.col + 1 - r.first.col)

/-- The most addresses that a list can hold: an address takes 16 bytes, and a
list at most `2 ^ 63 - 1`. That a machine may have less memory than this is left
out. -/
def capacity : Nat :=
  (Nat.pow 2 63 - 1) / 16

/-- **The list of the cells of a region**, if a list can hold them. -/
def listed? (r : Region) (traversal : Traversal) : Option (List Address) :=
  if r.count traversal ≤ capacity then some (r.cells traversal) else none

/-- The text before the first colon and the text after it. -/
def splitColon? : List Char → Option (List Char × List Char)
  | [] => none
  | c :: rest =>
    if c = ':' then some ([], rest)
    else (splitColon? rest).map fun (before, after) => (c :: before, after)

/-- **The region that a text names**: two addresses around a colon, with white
space around each. -/
def parse? (s : List Char) : Option Region :=
  match splitColon? s with
  | none => none
  | some (before, after) =>
    match Address.parse? (trim before), Address.parse? (trim after) with
    | some first, some last => some ⟨first, last⟩
    | _, _ => none

/-- The name of a region. -/
def toText (r : Region) : String :=
  r.first.toText ++ ":" ++ r.last.toText

theorem mem_between {a b n : Nat} : n ∈ between a b ↔ a ≤ n ∧ n ≤ b := by
  rw [between, List.mem_range'_1]
  omega

theorem listed?_eq_some {r : Region} {traversal : Traversal} {cells : List Address}
    (h : r.listed? traversal = some cells) : cells = r.cells traversal := by
  rw [listed?] at h
  split at h
  · exact (Option.some.inj h).symm
  · exact nomatch h

theorem listed?_of_le {r : Region} {traversal : Traversal} (h : r.count traversal ≤ capacity) :
    r.listed? traversal = some (r.cells traversal) :=
  if_pos h

theorem listed?_of_lt {r : Region} {traversal : Traversal} (h : capacity < r.count traversal) :
    r.listed? traversal = none :=
  if_neg (Nat.not_le.mpr h)

end Region

end SoundSheet
