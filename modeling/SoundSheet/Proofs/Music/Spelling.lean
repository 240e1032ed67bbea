import Mathlib.Logic.Function.Basic
import SoundSheet.FormulaError
import SoundSheet.Music.Note
import SoundSheet.Proofs.Address.Names

/-!
# Names of note numbers

The name of a note number is a pitch class and an octave, which come of a
division by twelve. Both can be told from the name: the pitch class is a letter,
with a sharp where no letter has that pitch (`sharpSpelling_iff`), and there is
no sharp in an octave, so the name shows where the one ends and the other begins
(`SharpSpelling.append_inj`). Hence different numbers have different names
(`spell_injective`), below zero as well as above.

Reading is narrower than spelling. The octave of a note that is read is a single
digit (`octaveOf?_ofInt`), so the names that are read back are those from `C0`
to `B9`, of the numbers 12 to 131. The name of any other number has a minus sign
or a second digit in its octave; it is refused, and never taken for the name of
another number.
-/

namespace SoundSheet

open SoundSheet.Decimal

/-! ## Octaves -/

namespace Decimal

/-- An integer is written with its usual digits and sign. -/
theorem ofList_ofInt (k : Int) : String.ofList (ofInt k) = toString k := by
  cases k with
  | ofNat n => exact Nat.repr_eq_ofList_toDigits.symm
  | negSucc n =>
    show String.ofList ('-' :: digitsOf (n + 1)) = "-" ++ (n + 1).repr
    rw [Nat.repr_eq_ofList_toDigits, String.ofList_cons]
    rfl

/-- **Different integers are written differently.** -/
theorem ofInt_injective : Function.Injective ofInt := by
  have hdigits {m n : Nat} (h : digitsOf m = digitsOf n) : m = n := by
    rw [← Address.decimalNumber_digitsOf m, h, Address.decimalNumber_digitsOf]
  have hsign (m n : Nat) : '-' :: digitsOf m ≠ digitsOf n := fun h =>
    Address.not_mem_digitsOf (by decide) n (h ▸ List.mem_cons_self)
  intro j k h
  cases j with
  | ofNat m =>
    cases k with
    | ofNat n => exact congrArg Int.ofNat (hdigits h)
    | negSucc n => exact absurd h.symm (hsign (n + 1) m)
  | negSucc m =>
    cases k with
    | ofNat n => exact absurd h (hsign (m + 1) n)
    | negSucc n => exact congrArg Int.negSucc (Nat.succ.inj (hdigits (List.cons.inj h).2))

/-- An integer is written in digits and a minus sign. -/
theorem not_mem_ofInt {c : Char} (hdigit : c.isDigit = false) (hminus : c ≠ '-') (k : Int) :
    c ∉ ofInt k := by
  have hdigits := Address.not_mem_digitsOf hdigit
  cases k with
  | ofNat n => exact hdigits n
  | negSucc n => exact List.not_mem_cons_of_ne_of_not_mem hminus (hdigits (n + 1))

end Decimal

namespace Music

/-- A text of two characters or more is no octave. -/
theorem octaveOf?_eq_none {s : List Char} (h : 1 < s.length) : octaveOf? s = none := by
  match s with
  | _ :: _ :: _ => rfl

/-- A digit is the octave that it denotes. -/
theorem octaveOf?_digitsOf {n : Nat} (h : n < 10) : octaveOf? (digitsOf n) = some n := by
  have hdigits : digitsOf n = [n.digitChar] := Nat.toDigits_of_lt_base h
  have hdigit : n.digitChar.isDigit := by
    refine Address.isDigit_of_mem_digitsOf (n := n) ?_
    rw [hdigits]
    exact List.mem_singleton_self n.digitChar
  rw [hdigits]
  show (if n.digitChar.isDigit then some (Address.digitValue n.digitChar) else none) = some n
  rw [if_pos hdigit, Address.digitValue_digitChar h]

/-- **The octaves that are read are those from 0 to 9**: the others have a sign
or a second digit. -/
theorem octaveOf?_ofInt (k : Int) :
    octaveOf? (ofInt k) = if 0 ≤ k ∧ k ≤ 9 then some k.toNat else none := by
  cases k with
  | ofNat n =>
    by_cases h : n ≤ 9
    · rw [if_pos ⟨Int.natCast_nonneg n, Int.ofNat_le.mpr h⟩]
      exact octaveOf?_digitsOf (Nat.lt_succ_of_le h)
    · rw [if_neg fun hk => h (Int.ofNat_le.mp hk.2)]
      refine octaveOf?_eq_none (Nat.lt_of_not_le fun hlen => h ?_)
      exact Nat.le_of_lt_succ ((Nat.length_toDigits_le_iff (by decide) (by decide)).mp hlen)
  | negSucc n =>
    rw [if_neg fun hk => absurd hk.1 (Int.negSucc_lt_zero n).not_ge]
    exact octaveOf?_eq_none
      (Nat.succ_lt_succ (List.length_pos_iff.mpr (Address.digitsOf_ne_nil (n + 1))))

/-! ## Pitch classes -/

/-- **The sharp spelling of a pitch**, in semitones above `C`: the letter that
has this pitch, or the letter a semitone below it with a sharp if there is no
such letter. -/
inductive SharpSpelling (pitch : Nat) : List Char → Prop where
  /-- A letter. -/
  | natural {letter : Char} (h : naturalOf? letter = some pitch) : SharpSpelling pitch [letter]
  /-- A letter with a sharp. -/
  | sharp {letter : Char} {below : Nat} (h : naturalOf? letter = some below)
    (hpitch : below + 1 = pitch) (hnone : ∀ c, naturalOf? c ≠ some pitch) :
    SharpSpelling pitch [letter, '#']

section SharpSpelling

variable {p q : Nat} {c d : Char} {s t s' t' : List Char}

/-- The letters and their pitches. -/
def letters : List (Char × Nat) :=
  [('C', 0), ('D', 2), ('E', 4), ('F', 5), ('G', 7), ('A', 9), ('B', 11)]

theorem naturalOf?_eq_some_iff : naturalOf? c = some p ↔ (c, p) ∈ letters := by
  constructor
  · intro h
    unfold naturalOf? at h
    split at h <;> cases h <;> decide
  · have hletters : ∀ x ∈ letters, naturalOf? x.1 = some x.2 := by decide
    exact fun h => hletters (c, p) h

/-- No two letters have the same pitch. -/
theorem eq_of_naturalOf? (hc : naturalOf? c = some p) (hd : naturalOf? d = some p) : c = d := by
  have hletters : ∀ x ∈ letters, ∀ y ∈ letters, x.2 = y.2 → x.1 = y.1 := by decide
  exact hletters _ (naturalOf?_eq_some_iff.mp hc) _ (naturalOf?_eq_some_iff.mp hd) rfl

/-- Every pitch class is spelled with a letter, or with a sharp where it has
none. -/
theorem sharpSpelling_pitchClass (hp : p < 12) : SharpSpelling p (pitchClass p).toList := by
  have hnatural : ∀ x ∈ letters, (pitchClass x.2).toList = [x.1] := by decide
  have hsharp : ∀ p < 12, p ∉ letters.map Prod.snd →
      ∃ x ∈ letters, x.2 + 1 = p ∧ (pitchClass p).toList = [x.1, '#'] := by decide
  by_cases hmem : p ∈ letters.map Prod.snd
  · obtain ⟨x, hx, rfl⟩ := List.mem_map.mp hmem
    rw [hnatural x hx]
    exact .natural (naturalOf?_eq_some_iff.mpr hx)
  · obtain ⟨x, hx, hpitch, hs⟩ := hsharp p hp hmem
    rw [hs]
    refine .sharp (naturalOf?_eq_some_iff.mpr hx) hpitch fun c hc => hmem ?_
    exact List.mem_map_of_mem (naturalOf?_eq_some_iff.mp hc)

/-- A pitch has one sharp spelling at most. -/
theorem SharpSpelling.unique (hs : SharpSpelling p s) (ht : SharpSpelling p t) : s = t := by
  cases hs with
  | natural hc =>
    cases ht with
    | natural hd => rw [eq_of_naturalOf? hc hd]
    | sharp _ _ hnone => exact absurd hc (hnone _)
  | sharp hc hpitch hnone =>
    cases ht with
    | natural hd => exact absurd hd (hnone _)
    | sharp hd hpitch' _ =>
      obtain rfl := Nat.succ.inj (hpitch.trans hpitch'.symm)
      rw [eq_of_naturalOf? hc hd]

/-- **The sharp spelling of a pitch class** is the one that a number is spelled
with, and there is no other. -/
theorem sharpSpelling_iff (hp : p < 12) : SharpSpelling p s ↔ s = (pitchClass p).toList :=
  ⟨fun h => h.unique (sharpSpelling_pitchClass hp), fun h => h ▸ sharpSpelling_pitchClass hp⟩

/-- **A name shows where its octave begins**, if there is no sharp in the
octave. -/
theorem SharpSpelling.append_inj (hs : SharpSpelling p s) (ht : SharpSpelling q t)
    (hs' : '#' ∉ s') (ht' : '#' ∉ t') (h : s ++ s' = t ++ t') : p = q ∧ s' = t' := by
  -- If one pitch has a sharp and the other has none, the other's octave would begin with it.
  cases hs with
  | natural hc =>
    cases ht with
    | natural hd =>
      obtain ⟨rfl, rfl⟩ := List.cons.inj h
      exact ⟨Option.some.inj (hc.symm.trans hd), rfl⟩
    | sharp hd hpitch _ =>
      obtain ⟨-, rfl⟩ := List.cons.inj h
      exact absurd List.mem_cons_self hs'
  | sharp hc hpitch _ =>
    cases ht with
    | natural hd =>
      obtain ⟨-, rfl⟩ := List.cons.inj h
      exact absurd List.mem_cons_self ht'
    | sharp hd hpitch' _ =>
      obtain ⟨rfl, hrest⟩ := List.cons.inj h
      have hbelow := Option.some.inj (hc.symm.trans hd)
      exact ⟨hpitch.symm.trans (hbelow ▸ hpitch'), List.append_cancel_left hrest⟩

end SharpSpelling

/-! ## Names -/

/-- The pitch class of a number is one of twelve. -/
theorem toNat_emod_lt (n : Int) : (n % 12).toNat < 12 := by
  omega

theorem toList_spell (n : Int) :
    (spell n).toList = (pitchClass (n % 12).toNat).toList ++ ofInt (n / 12 - 1) := by
  rw [spell, String.toList_append, String.toList_ofList]

/-- **Twelve semitones are an octave**: the pitch class stays, and the octave
goes along. -/
theorem spell_add_octaves (n k : Int) :
    spell (n + 12 * k) = pitchClass (n % 12).toNat ++ toString (n / 12 - 1 + k) := by
  have hoctave : (n + 12 * k) / 12 - 1 = n / 12 - 1 + k := by omega
  rw [spell, Int.add_mul_emod_self_left, hoctave, ofList_ofInt]

/-- **Different numbers have different names.** -/
theorem spell_injective : Function.Injective spell := by
  intro m n h
  have hsharp (k : Int) : '#' ∉ ofInt k := not_mem_ofInt (by decide) (by decide) k
  have hlist := congrArg String.toList h
  rw [toList_spell, toList_spell] at hlist
  obtain ⟨hpitch, hoctave⟩ := (sharpSpelling_pitchClass (toNat_emod_lt m)).append_inj
    (sharpSpelling_pitchClass (toNat_emod_lt n)) (hsharp _) (hsharp _) hlist
  have hquotient := ofInt_injective hoctave
  omega

/-! ## Reading -/

/-- A text without sharps and flats starts with none. -/
theorem takeAccidental_of_not_mem {s : List Char} (hsharp : '#' ∉ s) (hflat : 'b' ∉ s) :
    takeAccidental s = (none, s) := by
  unfold takeAccidental
  split
  · exact absurd List.mem_cons_self hsharp
  · exact absurd List.mem_cons_self hflat
  · rfl

/-- A letter, an accidental or none and an octave are a note. -/
theorem parse?_cons {letter : Char} {natural : Nat} {accidental : Option Accidental}
    {rest octave : List Char} (hletter : naturalOf? letter = some natural)
    (hrest : takeAccidental rest = (accidental, octave)) :
    Note.parse? (letter :: rest)
      = (octaveOf? octave).map fun o => ⟨letter, natural, accidental, o⟩ := by
  rw [Note.parse?, hrest, hletter]
  dsimp only
  cases octaveOf? octave with
  | none => rfl
  | some o => rfl

/-- **A pitch and what follows it** are read as the number of that pitch in the
octave that the rest denotes. -/
theorem SharpSpelling.number_parse? {pitch : Nat} {s octave : List Char}
    (h : SharpSpelling pitch s) (hsharp : '#' ∉ octave) (hflat : 'b' ∉ octave) :
    (Note.parse? (s ++ octave)).map Note.number
      = (octaveOf? octave).map fun o : Nat => (o + 1 : Int) * 12 + pitch := by
  cases h with
  | natural hletter =>
    rw [List.singleton_append, parse?_cons hletter (takeAccidental_of_not_mem hsharp hflat),
      Option.map_map]
    exact congrArg (Option.map · _) (funext fun o => Int.add_zero _)
  | sharp hletter hpitch _ =>
    subst hpitch
    rw [List.cons_append, parse?_cons hletter rfl, Option.map_map]
    exact congrArg (Option.map · _) (funext fun o => Int.add_assoc _ _ _)

/-- The number that the name of a number is read as. -/
theorem number_parse?_spell (n : Int) :
    (Note.parse? (spell n).toList).map Note.number
      = if 12 ≤ n ∧ n ≤ 131 then some n else none := by
  have hpitch := sharpSpelling_pitchClass (toNat_emod_lt n)
  rw [toList_spell, hpitch.number_parse? (not_mem_ofInt (by decide) (by decide) _)
    (not_mem_ofInt (by decide) (by decide) _), octaveOf?_ofInt]
  by_cases h : 12 ≤ n ∧ n ≤ 131
  · have hnumber : ((n / 12 - 1).toNat + 1 : Int) * 12 + (n % 12).toNat = n := by omega
    rw [if_pos h, if_pos (by omega), Option.map_some, hnumber]
  · rw [if_neg h, if_neg (by omega), Option.map_none]

/-- **The number of the note that a text denotes**. A text that denotes none is
an invalid note, as it is for a chord on it. -/
def noteNumber (text : String) : Except FormulaError Int :=
  match (Note.parse? text.toList).map Note.number with
  | some n => .ok n
  | none => .error (.invalidNote text)

/-- **Spelling and reading agree.** The name of a number is the sharp spelling
of its remainder by twelve, of which there is one, and then its quotient less
one; twelve semitones more change nothing but the octave, by one. No other
number has this name. It is read as the number itself if that lies between 12
and 131, and is an invalid note if not. -/
theorem spell_agrees_noteNumber (n : Int) :
    (∃ pitch, (∀ s, SharpSpelling (n % 12).toNat s ↔ s = pitch)
        ∧ spell n = String.ofList pitch ++ toString (n / 12 - 1)
        ∧ spell (n + 12) = String.ofList pitch ++ toString (n / 12 - 1 + 1))
      ∧ (∀ m, spell m = spell n ↔ m = n)
      ∧ noteNumber (spell n)
        = if 12 ≤ n ∧ n ≤ 131 then .ok n else .error (.invalidNote (spell n)) := by
  refine ⟨⟨(pitchClass (n % 12).toNat).toList, fun s => sharpSpelling_iff (toNat_emod_lt n), ?_,
    ?_⟩, fun m => spell_injective.eq_iff, ?_⟩
  · rw [String.ofList_toList, spell, ofList_ofInt]
  · rw [String.ofList_toList]
    exact spell_add_octaves n 1
  · rw [noteNumber, number_parse?_spell]
    by_cases h : 12 ≤ n ∧ n ≤ 131
    · rw [if_pos h, if_pos h]
    · rw [if_neg h, if_neg h]

example : spell 11 = "B-1" ∧ spell 12 = "C0" ∧ spell 131 = "B9" ∧ spell 132 = "C10" :=
  ⟨rfl, rfl, rfl, rfl⟩

end Music

end SoundSheet
