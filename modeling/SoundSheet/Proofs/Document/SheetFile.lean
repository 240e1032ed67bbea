import SoundSheet.Document.SheetFile
import SoundSheet.Proofs.Json.Reading

/-!
# Sheet files are read back

What is written for a sheet file has the form of one, and its rows are those
that were written, whatever texts they hold (`decode?_write`). The tempo is what
is read from its digits. So a sheet file is read back if it has a row and a
tempo that is one and that is read back itself (`read_write`).
-/

namespace SoundSheet.SheetFile

open SoundSheet.Json

/-- What is written for rows. -/
def writtenRows (rows : List (List String)) : List Char :=
  writeArray 1 (rows.map fun row => writeArray 2 (row.map fun raw => writeText raw.toList))

/-- What is written for the two fields of a sheet file. -/
def writtenFields (file : SheetFile) : List (List Char) :=
  [writeField "grid" (writtenRows file.rows),
    writeField "globalTempo" (Decimal.stored.write file.tempo)]

theorem toList_write (file : SheetFile) :
    file.write.toList = writeObject 0 file.writtenFields ++ ['\n'] := by
  rw [write, String.toList_ofList, writtenFields, writtenRows]

/-- **Rows are read back**, whatever texts they hold. -/
theorem readsBack_rows (rows : List (List String)) :
    ReadsBack readRows (writtenRows rows) rows := by
  have hrow (row : List String) : ReadsBack (readArray readText)
      (writeArray 2 (row.map fun raw => writeText raw.toList)) row := by
    refine readsBack_array ?_ ?_ 2
    · rw [List.forall₂_map_left_iff, List.forall₂_same]
      exact fun raw _ => readsBack_text raw
    · intro w hw
      obtain ⟨raw, -, rfl⟩ := List.mem_map.mp hw
      exact ⟨'"', _, rfl, rfl, by decide⟩
  refine readsBack_array ?_ ?_ 1
  · rw [List.forall₂_map_left_iff, List.forall₂_same]
    exact fun row _ => hrow row
  · intro w hw
    obtain ⟨row, -, rfl⟩ := List.mem_map.mp hw
    obtain ⟨s, hs⟩ := exists_writeSeries_eq_cons '[' ']' 2 (row.map fun raw => writeText raw.toList)
    exact ⟨'[', s, hs, rfl, by decide⟩

section Write

variable {file : SheetFile} {bpm : Float}
  (h : readNumber (Decimal.stored.write file.tempo) = some (bpm, []))

include h

/-- **The fields of a sheet file are read back**, with the tempo that is read
from its digits. -/
theorem readsBack_fields : ReadsBack (readFields readText readField)
    (writeObject 0 file.writtenFields) [.rows file.rows, .tempo bpm] := by
  have hrows : ReadsBack (readField "grid") (writtenRows file.rows) (.rows file.rows) := by
    intro blanks rest hblanks hrest
    rw [readField, if_pos rfl, readsBack_rows file.rows blanks rest hblanks hrest]
    rfl
  have htempo : ReadsBack (readField "globalTempo") (Decimal.stored.write file.tempo)
      (.tempo bpm) := by
    intro blanks rest hblanks hrest
    rw [readField, if_neg (by decide), if_pos rfl,
      readsBack_number h blanks rest hblanks hrest]
    rfl
  refine readsBack_series rfl rfl (by decide) (.cons (readsBack_field hrows)
    (.cons (readsBack_field htempo) .nil)) ?_ 0
  intro w hw
  rcases List.mem_pair.mp hw with rfl | rfl
  · exact ⟨'"', _, rfl, rfl, by decide⟩
  · exact ⟨'"', _, rfl, rfl, by decide⟩

/-- **What is written has the form of a sheet file**: the rows are those that
were written, and the tempo is what its digits are read as. -/
theorem decode?_write : decode? file.write.toList = some ⟨file.rows, bpm⟩ := by
  obtain ⟨s, hs⟩ := exists_writeSeries_eq_cons '\x7b' '\x7d' 0 file.writtenFields
  have hfields := readsBack_fields h [] ['\n'] (fun _ hc => nomatch hc)
    (endsValue_cons (.inr rfl) [])
  rw [writeObject, hs, List.nil_append, List.cons_append] at hfields
  have hread : readObject ('\x7b' :: (s ++ ['\n'])) = some (⟨file.rows, bpm⟩, ['\n']) := by
    rw [readObject, hfields]
    rfl
  have hobject : (expect '[' ('\x7b' :: (s ++ ['\n']))).isSome = false := by
    rw [expect_cons rfl, if_neg (by decide)]
    rfl
  rw [decode?, toList_write, writeObject, hs, List.cons_append, hobject,
    if_neg Bool.false_ne_true, hread]
  rfl

/-- **A sheet file is read back** if it is one that a document can hold. -/
theorem read_write (hrows : file.rows ≠ []) (htempo : isTempo bpm = true) :
    SheetFile.read file.write = .ok ⟨file.rows, bpm⟩ := by
  rw [SheetFile.read, decode?_write h]
  dsimp only
  rw [check, if_neg hrows, if_pos htempo]

end Write

end SoundSheet.SheetFile
