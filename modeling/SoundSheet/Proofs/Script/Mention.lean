import SoundSheet.Proofs.Address.Names
import SoundSheet.Script.Mention

/-!
# The cells that code names, without the scan

The cells that a script reads are found by a scan of its code from left to
right. Here it is said what the scan finds, without it. A literal lookup is the
name `getValue`, a parenthesis, a quoted name of the shape of an address and a
parenthesis, with white space allowed around the quotes (`IsLookup`). Code names
a cell if such a lookup stands anywhere in it, not right behind a word
character, and what is between the quotes is a name of the cell (`Names`).

The scan finds these cells and no others, each of them once (`mem_mentions_iff`,
`nodup_mentions`). In particular a lookup inside a comment or a string counts,
and one whose address is computed does not.
-/

namespace SoundSheet.Script

open SoundSheet.Text

/-! ## Lookups -/

/-- **A literal lookup** of a name. -/
inductive IsLookup (name : List Char) : List Char → Prop
  /-- White space may stand on both sides of the quoted name. -/
  | intro {z z' : List Char} (hz : ∀ c ∈ z, isBlank c = true) (hz' : ∀ c ∈ z', isBlank c = true) :
      IsLookup name ("getValue(".toList ++ (z ++ '"' :: (name ++ '"' :: (z' ++ [')']))))

/-- **Code names a cell** if a literal lookup of a name of the cell stands in
it, and no word character right before. -/
def Names (code : List Char) (cell : Address) : Prop :=
  ∃ before lookup after name, code = before ++ (lookup ++ after)
    ∧ (∀ c ∈ before.getLast?, isWord c = false) ∧ IsLookup name lookup
    ∧ Address.parse? name = some cell

/-! ## One place -/

/-- A beginning is what stands in front of the rest. -/
theorem after?_eq_some_iff {beginning s rest : List Char} :
    after? beginning s = some rest ↔ s = beginning ++ rest := by
  induction beginning generalizing s with
  | nil => rw [after?, Option.some.injEq, List.nil_append]
  | cons c beginning ih =>
    cases s with
    | nil => simp [after?]
    | cons d s =>
      rw [after?, List.cons_append, List.cons.injEq]
      by_cases hcd : c = d
      · rw [if_pos hcd, ih, eq_comm (a := d), and_iff_right hcd]
      · rw [if_neg hcd]
        exact iff_of_false nofun fun h => hcd h.1.symm

/-- **A quoted address is read up to the quote behind it.** -/
theorem quotedAddress?_eq_some_iff {s name rest : List Char} :
    quotedAddress? s = some (name, rest)
      ↔ s = name ++ '"' :: rest ∧ Address.hasShape name = true := by
  rw [Address.hasShape_iff]
  constructor
  · intro h
    rw [quotedAddress?] at h
    split at h
    · next rest' hquote =>
      split at h
      · next hne =>
        obtain ⟨rfl, rfl⟩ := Prod.mk.inj (Option.some.inj h)
        have hupper : ∀ c ∈ s.takeWhile Char.isUpper, c.isUpper := fun c hc =>
          List.mem_takeWhile_imp hc
        have hdigit : ∀ c ∈ (s.dropWhile Char.isUpper).takeWhile Char.isDigit, c.isDigit :=
          fun c hc => List.mem_takeWhile_imp hc
        rw [Address.lettersOf_append hupper hdigit, Address.numberOf_append hupper hdigit,
          List.append_assoc, ← hquote, List.takeWhile_append_dropWhile,
          List.takeWhile_append_dropWhile]
        exact ⟨rfl, hne.1, hne.2, hdigit⟩
      · exact nomatch h
    · exact nomatch h
  · rintro ⟨rfl, hletters, hdigits, hdigit⟩
    have hupper : ∀ c ∈ Address.lettersOf name, c.isUpper := fun c hc =>
      Address.isUpper_of_mem_lettersOf hc
    obtain ⟨d, digits, hnumber⟩ := List.exists_cons_of_ne_nil hdigits
    have hfirst : ¬d.isUpper := Address.not_isUpper_of_isDigit
      (hdigit d (hnumber ▸ List.mem_cons_self))
    have hname : name ++ '"' :: rest
        = Address.lettersOf name ++ (d :: digits ++ '"' :: rest) := by
      rw [← hnumber, ← List.append_assoc, Address.lettersOf_append_numberOf]
    -- the letters end at the first digit, and the digits at the quote
    have hstop : (d :: digits ++ '"' :: rest).takeWhile Char.isUpper = [] :=
      List.takeWhile_cons_of_neg hfirst
    have hstop' : (d :: digits ++ '"' :: rest).dropWhile Char.isUpper
        = d :: digits ++ '"' :: rest :=
      List.dropWhile_cons_of_neg hfirst
    have hquote : ¬Char.isDigit '"' := by decide
    rw [hnumber] at hdigit hdigits
    rw [quotedAddress?, hname, List.takeWhile_append_of_pos hupper,
      List.dropWhile_append_of_pos hupper, hstop, hstop', List.append_nil,
      List.takeWhile_append_of_pos hdigit, List.dropWhile_append_of_pos hdigit,
      List.takeWhile_cons_of_neg hquote, List.dropWhile_cons_of_neg hquote, List.append_nil]
    refine (if_pos ⟨hletters, hdigits⟩).trans ?_
    rw [← hnumber, Address.lettersOf_append_numberOf]

/-- **The address that a text asks for is that of the lookup that it starts
with.** -/
theorem mentionAt?_eq_some_iff {s name : List Char} :
    mentionAt? s = some name
      ↔ Address.hasShape name = true
        ∧ ∃ lookup after, s = lookup ++ after ∧ IsLookup name lookup := by
  constructor
  · intro h
    rw [mentionAt?] at h
    split at h
    · next rest hopen =>
      obtain ⟨inside, hafter, hinside⟩ := Option.map_eq_some_iff.mp hopen
      rw [after?_eq_some_iff] at hafter
      split at h
      · next address rest' hquoted =>
        split at h
        · next after hclose =>
          obtain rfl := Option.some.inj h
          obtain ⟨hrest, hshape⟩ := quotedAddress?_eq_some_iff.mp hquoted
          obtain ⟨z, hz, hsplit⟩ := exists_trimStart inside
          obtain ⟨z', hz', hsplit'⟩ := exists_trimStart rest'
          refine ⟨hshape, _, after, ?_, .intro hz hz'⟩
          rw [hafter, hsplit, hinside, hrest, hsplit', hclose]
          simp only [List.append_assoc, List.cons_append, List.nil_append]
        · exact nomatch h
      · exact nomatch h
    · exact nomatch h
  · rintro ⟨hshape, lookup, after, rfl, hlookup⟩
    obtain @⟨z, z', hz, hz'⟩ := hlookup
    have hafter : after? "getValue(".toList
        ("getValue(".toList ++ (z ++ '"' :: (name ++ '"' :: (z' ++ [')']))) ++ after)
          = some (z ++ '"' :: (name ++ '"' :: (z' ++ ')' :: after))) := by
      rw [after?_eq_some_iff]
      simp only [List.append_assoc, List.cons_append, List.nil_append]
    have hquoted : quotedAddress? (name ++ '"' :: (z' ++ ')' :: after))
        = some (name, z' ++ ')' :: after) :=
      quotedAddress?_eq_some_iff.mpr ⟨rfl, hshape⟩
    have hclose : trimStart (z' ++ ')' :: after) = ')' :: after := by
      rw [trimStart_blank_append hz', trimStart_cons_of_not_blank _ (by decide)]
    rw [mentionAt?, hafter, Option.map_some, trimStart_blank_append hz,
      trimStart_cons_of_not_blank _ (by decide)]
    simp only [hquoted, hclose]

/-! ## All places -/

/-- **The scan finds the lookups** that do not stand right behind a word
character, at the start of the text or later. -/
theorem mem_mentionsFrom_iff {name : List Char} {inWord : Bool} {s : List Char} :
    name ∈ mentionsFrom inWord s ↔ Address.hasShape name = true
      ∧ ∃ before lookup after, s = before ++ (lookup ++ after)
        ∧ (before = [] → inWord = false) ∧ (∀ c ∈ before.getLast?, isWord c = false)
        ∧ IsLookup name lookup := by
  have hne : ∀ {lookup}, IsLookup name lookup → lookup ≠ [] := by
    rintro _ ⟨_, _⟩ h
    exact nomatch h
  induction s generalizing inWord with
  | nil =>
    refine iff_of_false List.not_mem_nil ?_
    rintro ⟨-, before, lookup, after, hs, -, -, hlookup⟩
    exact hne hlookup (List.append_eq_nil_iff.mp (List.append_eq_nil_iff.mp hs.symm).2).1
  | cons c s ih =>
    -- what is found later is found behind the first character
    have hlater : name ∈ mentionsFrom (isWord c) s ↔ Address.hasShape name = true
        ∧ ∃ before lookup after, c :: s = (c :: before) ++ (lookup ++ after)
          ∧ (∀ d ∈ (c :: before).getLast?, isWord d = false) ∧ IsLookup name lookup := by
      refine ih.trans <| and_congr_right fun _ => exists_congr fun before =>
        exists_congr fun lookup => exists_congr fun after => ?_
      rw [List.cons_append, List.cons.injEq, and_iff_right rfl]
      refine and_congr_right fun _ => ?_
      cases before with
      | nil => simp
      | cons d before => simp
    have hcons : name ∈ mentionsFrom inWord (c :: s)
        ↔ (inWord = false ∧ mentionAt? (c :: s) = some name)
          ∨ name ∈ mentionsFrom (isWord c) s := by
      cases inWord with
      | true => simp [mentionsFrom]
      | false =>
        cases hat : mentionAt? (c :: s) with
        | none => simp [mentionsFrom, hat]
        | some address => simp [mentionsFrom, hat, eq_comm]
    rw [hcons, mentionAt?_eq_some_iff, hlater]
    constructor
    · rintro (⟨hword, hshape, lookup, after, hs, hlookup⟩
        | ⟨hshape, before, lookup, after, hs, hlast, hlookup⟩)
      · exact ⟨hshape, [], lookup, after, hs, fun _ => hword, nofun, hlookup⟩
      · exact ⟨hshape, c :: before, lookup, after, hs, nofun, hlast, hlookup⟩
    · rintro ⟨hshape, before, lookup, after, hs, hword, hlast, hlookup⟩
      cases before with
      | nil => exact .inl ⟨hword rfl, hshape, lookup, after, hs, hlookup⟩
      | cons d before =>
        obtain rfl := (List.cons.inj hs).1
        exact .inr ⟨hshape, before, lookup, after, hs, hlast, hlookup⟩

/-! ## Each cell once -/

theorem mem_firstOccurrences_iff {a : Address} {cells : List Address} :
    a ∈ firstOccurrences cells ↔ a ∈ cells := by
  induction cells with
  | nil => rfl
  | cons b cells ih =>
    rw [firstOccurrences, List.mem_cons, List.mem_cons, List.mem_filter, ih, decide_eq_true_iff]
    by_cases hab : a = b
    · exact iff_of_true (.inl hab) (.inl hab)
    · rw [and_iff_left hab]

theorem nodup_firstOccurrences (cells : List Address) : (firstOccurrences cells).Nodup := by
  induction cells with
  | nil => exact List.nodup_nil
  | cons a cells ih =>
    refine List.nodup_cons.mpr ⟨fun h => ?_, ih.filter _⟩
    exact of_decide_eq_true (List.mem_filter.mp h).2 rfl

/-- No cell is listed twice. -/
theorem nodup_mentions (code : List Char) : (mentions code).Nodup :=
  nodup_firstOccurrences _

/-- **The cells that are found are those that the code names.** -/
theorem mem_mentions_iff {code : List Char} {cell : Address} :
    cell ∈ mentions code ↔ Names code cell := by
  rw [mentions, mem_firstOccurrences_iff, List.mem_filterMap]
  constructor
  · rintro ⟨name, hname, hparse⟩
    obtain ⟨-, before, lookup, after, hcode, -, hlast, hlookup⟩ := mem_mentionsFrom_iff.mp hname
    exact ⟨before, lookup, after, name, hcode, hlast, hlookup, hparse⟩
  · rintro ⟨before, lookup, after, name, hcode, hlast, hlookup, hparse⟩
    exact ⟨name, mem_mentionsFrom_iff.mpr ⟨Address.hasShape_of_parse? hparse, before, lookup,
      after, hcode, fun _ => rfl, hlast, hlookup⟩, hparse⟩

end SoundSheet.Script
