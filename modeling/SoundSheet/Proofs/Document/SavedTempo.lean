import SoundSheet.Proofs.Document.Operations
import SoundSheet.Proofs.Document.SheetFile
import SoundSheet.Proofs.Json.StoredDoubles

/-!
# The tempo of a saved sheet

A sheet file that is written is always read again, with the same rows
(`exists_read_write`). Its tempo is written in full, as the shortest decimal
that means it, but it is read in two parts, the digits and a power of ten, which
are rounded each and once more together. The rounding is without effect where
both parts fit in doubles, as they do for a tempo with up to fifteen digits that
is neither tiny nor huge, and then the sheet file is the same. Otherwise the
tempo may come back as a neighbouring double (`read_write_last_place`); if it is
a normal number, it changes by less than one part in `10 ^ 14`.
-/

namespace SoundSheet

open SoundSheet.Json SoundSheet.Decimal

/-- A tempo is a positive double, -/
theorem exists_isPositive_of_isTempo {bpm : Float} (h : isTempo bpm = true) :
    ∃ b, IsPositive bpm b :=
  let ⟨hfinite, hpos⟩ := isFinite_and_pos_of_isTempo h
  exists_isPositive hfinite hpos

/-- and every positive double is one. -/
theorem isTempo_of_isPositive {bpm : Float} {b : Binary} (h : IsPositive bpm b) :
    isTempo bpm = true := by
  rw [isTempo, h.isFinite, decide_eq_false h.not_le_zero]
  rfl

namespace SheetFile

/-- **A sheet file is read as it was written, apart from its tempo**, which is
what is read where its double is stored. That is the same double if the digits
and the power of ten of its decimal fit in doubles, and it is near to it if the
double is a normal one. -/
theorem exists_read_write (file : SheetFile) (hrows : file.rows ≠ [])
    (htempo : isTempo file.tempo = true) :
    ∃ b c bpm, Reading.ofFloat file.tempo = .finite b ∧ Reading.ofFloat bpm = .finite c ∧
      reread b = some bpm ∧ SheetFile.read file.write = .ok ⟨file.rows, bpm⟩ ∧
      ((storedDigits b).significand < 2 ^ 53 → (storedDigits b).exponent.natAbs ≤ 22 →
        bpm = file.tempo) ∧
      (2 ^ 52 ≤ b.mantissa → |c.value - b.value| ≤ b.value / 10 ^ 14) := by
  obtain ⟨b, hb⟩ := exists_isPositive_of_isTempo htempo
  obtain ⟨bpm, c, hc, hread, hnear⟩ := exists_reread hb
  have hnumber : readNumber (stored.write file.tempo) = some (bpm, []) := by
    rw [readNumber_write hb, hread]
    rfl
  refine ⟨b, c, bpm, hb.ofFloat, hc.ofFloat, hread,
    read_write hnumber hrows (isTempo_of_isPositive hc), fun hsmall hpower => ?_, fun hnormal => ?_⟩
  · rw [reread_eq hb hsmall hpower] at hread
    exact (Option.some.inj hread).symm
  · exact (hnear hnormal).abs_sub_le (Binary.value_pos hc.pos).le (Binary.value_pos hb.pos).le

/-- A tempo with few digits is read back bit for bit. -/
theorem read_write_128_5 : let file : SheetFile := ⟨[["=BEAT(120, x)"], []], 128.5⟩
    file.rows ≠ [] ∧ isTempo file.tempo = true ∧ SheetFile.read file.write = .ok file := by
  have hrows : [["=BEAT(120, x)"], []] ≠ [] := List.cons_ne_nil _ _
  have htempo : isTempo 128.5 = true := by decide +kernel
  obtain ⟨b, c, bpm, hb, -, -, hread, hexact, -⟩ := exists_read_write ⟨_, 128.5⟩ hrows htempo
  have hreading : Reading.ofFloat 128.5 = .finite ⟨false, 257 * 2 ^ 44, -45⟩ := by decide +kernel
  obtain rfl : b = ⟨false, 257 * 2 ^ 44, -45⟩ := Reading.finite.inj (hb.symm.trans hreading)
  have hbpm : bpm = 128.5 := hexact (by decide +kernel) (by decide +kernel)
  rw [hbpm] at hread
  exact ⟨hrows, htempo, hread⟩

/-- **A tempo with many digits need not be read back**: it is the double
below. -/
theorem read_write_last_place :
    let file : SheetFile := ⟨[["x"]], Float.ofBits 0x405E011F71FB0843⟩
    file.rows ≠ [] ∧ isTempo file.tempo = true ∧
      SheetFile.read file.write = .ok ⟨[["x"]], Float.ofBits 0x405E011F71FB0842⟩ ∧
      SheetFile.read file.write ≠ .ok file := by
  intro file
  have hrows : file.rows ≠ [] := List.cons_ne_nil _ _
  have hnumber : readNumber (stored.write file.tempo)
      = some (Float.ofBits 0x405E011F71FB0842, []) := by
    decide +kernel
  have hread := read_write hnumber hrows (by decide +kernel)
  refine ⟨hrows, by decide +kernel, hread, ?_⟩
  rw [hread]
  decide +kernel

end SheetFile

end SoundSheet
