import Mathlib.Data.List.Forall2
import SoundSheet.Json.Reader
import SoundSheet.Json.Writer

/-!
# Stored texts are read back

A written value stands behind blanks, and behind it stands a comma, a line break
or nothing. In such a place a reader takes the value that was written and leaves
the rest (`ReadsBack`). For texts that is so as they escape all that could end
them (`readsBack_text`). A number has no mark at its end, but none of what can
follow continues it, so a number that is read back when it stands alone is read
back anywhere (`readsBack_number`). What is written as a series of values is
read back if all its items are (`readsBack_series`), and so is a field with its
value (`readsBack_field`).
-/

namespace SoundSheet.Json

open SoundSheet.Decimal

/-- **What can stand behind a value**: a comma, a line break, or nothing. -/
def EndsValue (rest : List Char) : Prop :=
  ∀ c ∈ rest.head?, c = ',' ∨ c = '\n'

theorem endsValue_cons {c : Char} (h : c = ',' ∨ c = '\n') (rest : List Char) :
    EndsValue (c :: rest) := by
  rintro d ⟨⟩
  exact h

/-- **A reader reads a value back** from what is written for it, wherever that
stands. -/
def ReadsBack {α : Type} (r : Reader α) (written : List Char) (x : α) : Prop :=
  ∀ blanks rest, (∀ c ∈ blanks, isBlank c = true) → EndsValue rest →
    r (blanks ++ (written ++ rest)) = some (x, rest)

/-! ## Blanks and marks -/

section Blanks

variable {blanks : List Char} (h : ∀ c ∈ blanks, isBlank c = true)

include h

theorem skipBlanks_append (s : List Char) : skipBlanks (blanks ++ s) = skipBlanks s :=
  List.dropWhile_append_of_pos h

theorem expect_append (mark : Char) (s : List Char) :
    expect mark (blanks ++ s) = expect mark s := by
  rw [expect, expect, skipBlanks_append h]

end Blanks

theorem skipBlanks_cons {c : Char} (h : isBlank c = false) (s : List Char) :
    skipBlanks (c :: s) = c :: s := by
  rw [skipBlanks, List.dropWhile_cons, h]
  rfl

theorem expect_cons {c : Char} (h : isBlank c = false) (mark : Char) (s : List Char) :
    expect mark (c :: s) = if c = mark then some s else none := by
  rw [expect, skipBlanks_cons h]

theorem isBlank_of_mem_newline {depth : Nat} : ∀ c ∈ newline depth, isBlank c = true := by
  intro c hc
  rcases List.mem_cons.mp hc with rfl | hc
  · rfl
  · rw [List.eq_of_mem_replicate hc]
    rfl

/-! ## Texts -/

/-- A text ends where its quotes do, whatever follows. -/
theorem readText_behind {blanks : List Char} (h : ∀ c ∈ blanks, isBlank c = true) (t : String)
    (s : List Char) : readText (blanks ++ (writeText t.toList ++ s)) = some (t, s) := by
  have hskip (s : List Char) : readText (blanks ++ s) = readText s := by
    rw [readText, readText, readQuoted, readQuoted, expect_append h]
  rw [hskip, readText_writeText, String.ofList_toList]

/-- **A text is read back.** -/
theorem readsBack_text (t : String) : ReadsBack readText (writeText t.toList) t :=
  fun _ rest hblanks _ => readText_behind hblanks t rest

/-! ## Numbers -/

section Numbers

variable {s r rest digits : List Char} (hrest : EndsValue rest)

include hrest

/-- A minus sign is where it was. -/
theorem takeMinus_append (s : List Char) :
    takeMinus (s ++ rest) = ((takeMinus s).1, (takeMinus s).2 ++ rest) := by
  cases s with
  | nil =>
    cases rest with
    | nil => rfl
    | cons c rest => rcases hrest c rfl with rfl | rfl <;> rfl
  | cons c s =>
    by_cases hc : c = '-'
    · rw [hc]
      rfl
    · have hminus (s : List Char) : takeMinus (c :: s) = (false, c :: s) := by
        rw [takeMinus]
        rintro s' ⟨⟩
        exact hc rfl
      rw [List.cons_append, hminus, hminus]
      rfl

/-- So is a sign. -/
theorem takeSign_append (s : List Char) :
    takeSign (s ++ rest) = ((takeSign s).1, (takeSign s).2 ++ rest) := by
  cases s with
  | nil =>
    cases rest with
    | nil => rfl
    | cons c rest => rcases hrest c rfl with rfl | rfl <;> rfl
  | cons c s =>
    by_cases hminus : c = '-'
    · rw [hminus]
      rfl
    by_cases hplus : c = '+'
    · rw [hplus]
      rfl
    have hsign (s : List Char) : takeSign (c :: s) = (false, c :: s) := by
      rw [takeSign]
      · rintro s' ⟨⟩
        exact hminus rfl
      · rintro s' ⟨⟩
        exact hplus rfl
    rw [List.cons_append, hsign, hsign]
    rfl

/-- **No digit ends a value**, so digits go on as far as before. -/
theorem takeDigits_append (s : List Char) :
    takeDigits Char.isDigit (s ++ rest)
      = ((takeDigits Char.isDigit s).1, (takeDigits Char.isDigit s).2 ++ rest) := by
  have hstop : rest.takeWhile Char.isDigit = [] ∧ rest.dropWhile Char.isDigit = rest := by
    cases rest with
    | nil => exact ⟨rfl, rfl⟩
    | cons c rest =>
      have hc : c.isDigit = false := by
        rcases hrest c rfl with rfl | rfl <;> rfl
      rw [List.takeWhile_cons, List.dropWhile_cons, hc]
      exact ⟨rfl, rfl⟩
  rw [takeDigits, takeDigits]
  induction s with
  | nil => exact Prod.ext hstop.1 hstop.2
  | cons c s ih =>
    rw [List.cons_append, List.takeWhile_cons, List.dropWhile_cons, List.takeWhile_cons,
      List.dropWhile_cons]
    cases c.isDigit with
    | true =>
      obtain ⟨htake, hdrop⟩ := Prod.mk.inj ih
      exact Prod.ext (congrArg (c :: ·) htake) hdrop
    | false => rfl

theorem takeFraction_append (h : takeFraction s = some (digits, r)) :
    takeFraction (s ++ rest) = some (digits, r ++ rest) := by
  cases s with
  | nil =>
    obtain ⟨rfl, rfl⟩ := Prod.mk.inj (Option.some.inj h)
    cases rest with
    | nil => rfl
    | cons c rest => rcases hrest c rfl with rfl | rfl <;> rfl
  | cons c s =>
    by_cases hpoint : c = '.'
    · rw [hpoint, takeFraction] at h
      rw [hpoint, List.cons_append, takeFraction, takeDigits_append hrest]
      generalize takeDigits Char.isDigit s = run at h ⊢
      obtain ⟨fraction, after⟩ := run
      cases fraction with
      | nil => exact nomatch h
      | cons d fraction =>
        obtain ⟨rfl, rfl⟩ := Prod.mk.inj (Option.some.inj h)
        rfl
    · have hnone (s : List Char) : takeFraction (c :: s) = some ([], c :: s) := by
        rw [takeFraction]
        rintro s' ⟨⟩
        exact hpoint rfl
      rw [hnone] at h
      obtain ⟨rfl, rfl⟩ := Prod.mk.inj (Option.some.inj h)
      rw [List.cons_append, hnone]

theorem takePower_append (s : List Char) :
    takePower Char.isDigit (s ++ rest) = ((takePower Char.isDigit s).1,
      (takePower Char.isDigit s).2.1, (takePower Char.isDigit s).2.2 ++ rest) := by
  cases s with
  | nil =>
    cases rest with
    | nil => rfl
    | cons c rest => rcases hrest c rfl with rfl | rfl <;> rfl
  | cons c s =>
    rw [List.cons_append, takePower, takePower]
    by_cases hmark : c = 'e' ∨ c = 'E'
    · rw [if_pos hmark, if_pos hmark, takeSign_append hrest]
      dsimp only
      rw [takeDigits_append hrest]
      obtain ⟨power, after⟩ := takeDigits Char.isDigit (takeSign s).2
      cases power <;> rfl
    · rw [if_neg hmark, if_neg hmark]
      rfl

/-- **A number is the same in front of what ends a value.** -/
theorem readNumeral_append {n : Numeral} (h : readNumeral s = some (n, r)) :
    readNumeral (s ++ rest) = some (n, r ++ rest) := by
  rw [readNumeral] at h ⊢
  rw [takeMinus_append hrest]
  dsimp only at h ⊢
  rw [takeDigits_append hrest]
  cases hwhole : isWholePart (takeDigits Char.isDigit (takeMinus s).2).1 with
  | false =>
    rw [hwhole] at h
    exact nomatch h
  | true =>
    rw [hwhole] at h
    cases hfraction : takeFraction (takeDigits Char.isDigit (takeMinus s).2).2 with
    | none =>
      rw [hfraction] at h
      exact nomatch h
    | some found =>
      rw [hfraction] at h
      obtain ⟨rfl, rfl⟩ := Prod.mk.inj (Option.some.inj h)
      rw [takeFraction_append hrest hfraction]
      show some (Numeral.mk _ _ _ (takePower Char.isDigit (found.2 ++ rest)).1
        (takePower Char.isDigit (found.2 ++ rest)).2.1,
          (takePower Char.isDigit (found.2 ++ rest)).2.2) = _
      rw [takePower_append hrest]

end Numbers

/-- **A number is read back anywhere** if it is when it stands alone. -/
theorem readsBack_number {w : List Char} {x : Float} (h : readNumber w = some (x, [])) :
    ReadsBack readNumber w x := by
  intro blanks rest hblanks hrest
  rw [readNumber] at h ⊢
  obtain ⟨⟨n, r⟩, hn, hx⟩ := Option.bind_eq_some_iff.mp h
  obtain ⟨y, hy, hyx⟩ := Option.bind_eq_some_iff.mp hx
  obtain ⟨rfl, rfl⟩ := Prod.mk.inj (Option.some.inj hyx)
  have hsame : skipBlanks (w ++ rest) = skipBlanks w ++ rest := by
    rw [skipBlanks, skipBlanks, List.dropWhile_append, if_neg]
    intro hnone
    rw [skipBlanks, List.isEmpty_iff.mp hnone] at hn
    exact nomatch hn
  rw [skipBlanks_append hblanks, hsame, readNumeral_append hrest hn]
  show ((numberValue? n).bind fun x => some (x, rest)) = _
  rw [hy]
  rfl

/-! ## Series -/

/-- Every item has a character. -/
theorem length_le_writeItems (depth : Nat) (ws : List (List Char)) :
    ws.length ≤ (writeItems depth ws).length := by
  induction ws with
  | nil => exact Nat.zero_le _
  | cons w ws ih =>
    cases ws with
    | nil => simp [writeItems, newline]
    | cons v ws =>
      rw [writeItems]
      · simp only [newline, List.length_cons, List.length_append] at ih ⊢
        omega
      · simp

section Series

variable {α : Type} {item : Reader α} {opening close : Char} {ws : List (List Char)} {x : α}
  {xs : List α} {s t u r : List Char} {n : Nat}

/-- One item, and the mark that closes the series. -/
theorem readItems_last (hitem : item s = some (x, t)) (hcomma : expect ',' t = none)
    (hclose : expect close t = some u) : readItems item close (n + 1) s = some ([x], u) := by
  rw [readItems, hitem]
  dsimp only [Bind.bind, Option.bind]
  rw [hcomma, hclose]
  rfl

/-- One item, a comma, and more items. -/
theorem readItems_more (hitem : item s = some (x, t)) (hcomma : expect ',' t = some u)
    (hmore : readItems item close n u = some (xs, r)) :
    readItems item close (n + 1) s = some (x :: xs, r) := by
  rw [readItems, hitem]
  dsimp only [Bind.bind, Option.bind]
  rw [hcomma]
  dsimp only
  rw [hmore]
  rfl

/-- **Items are read back** up to the mark that closes them. -/
theorem readItems_writeItems (hclose : isBlank close = false) (hcomma : close ≠ ',')
    (h : List.Forall₂ (ReadsBack item) ws xs) (hne : ws ≠ []) (inner depth : Nat)
    (rest : List Char) : ∀ n, ws.length ≤ n →
      readItems item close n (writeItems inner ws ++ (newline depth ++ close :: rest))
        = some (xs, rest) := by
  induction h with
  | nil => exact absurd rfl hne
  | @cons w x ws xs hw hws ih =>
    intro n hn
    obtain ⟨n, rfl⟩ := Nat.exists_eq_add_one_of_ne_zero (Nat.ne_zero_of_lt hn)
    cases hws with
    | nil =>
      have hmark (mark : Char) : expect mark (newline depth ++ close :: rest)
          = if close = mark then some rest else none := by
        rw [expect_append isBlank_of_mem_newline, expect_cons hclose]
      have hend : EndsValue (newline depth ++ close :: rest) := endsValue_cons (.inr rfl) _
      rw [writeItems, List.append_assoc]
      exact readItems_last (hw _ _ isBlank_of_mem_newline hend)
        ((hmark ',').trans (if_neg hcomma)) ((hmark close).trans (if_pos rfl))
    | @cons v y ws xs hv hws =>
      have hend (s : List Char) : EndsValue (',' :: s) := endsValue_cons (.inl rfl) s
      have hmore := ih (List.cons_ne_nil v ws) n (Nat.le_of_succ_le_succ hn)
      rw [writeItems, List.append_assoc, List.append_assoc, List.cons_append]
      · exact readItems_more (hw _ _ isBlank_of_mem_newline (hend _))
          ((expect_cons rfl _ _).trans (if_pos rfl)) hmore
      · exact List.cons_ne_nil v ws

theorem readSeries_nil (hopening : expect opening s = some t) (hclose : expect close t = some u) :
    readSeries opening close item s = some ([], u) := by
  rw [readSeries, hopening]
  dsimp only [Bind.bind, Option.bind]
  rw [hclose]
  rfl

theorem readSeries_items (hopening : expect opening s = some t) (hclose : expect close t = none)
    (hitems : readItems item close t.length t = some (xs, u)) :
    readSeries opening close item s = some (xs, u) := by
  rw [readSeries, hopening]
  dsimp only [Bind.bind, Option.bind]
  rw [hclose]
  exact hitems

/-- Written items start with the first. -/
theorem exists_writeItems_cons (depth : Nat) (w : List Char) (ws : List (List Char)) :
    ∃ more, writeItems depth (w :: ws) = newline depth ++ (w ++ more) := by
  cases ws with
  | nil => exact ⟨[], by rw [writeItems, List.append_nil]⟩
  | cons v ws => exact ⟨',' :: writeItems depth (v :: ws), by simp [writeItems]⟩

/-- A written series starts with its opening mark. -/
theorem exists_writeSeries_eq_cons (opening close : Char) (depth : Nat) (ws : List (List Char)) :
    ∃ s, writeSeries opening close depth ws = opening :: s := by
  cases ws with
  | nil => exact ⟨_, rfl⟩
  | cons w ws => exact ⟨_, rfl⟩

/-- **A series is read back** if all its items are, none of which starts like
its end. -/
theorem readsBack_series (hopening : isBlank opening = false) (hclose : isBlank close = false)
    (hcomma : close ≠ ',') (h : List.Forall₂ (ReadsBack item) ws xs)
    (hstart : ∀ w ∈ ws, ∃ c s, w = c :: s ∧ isBlank c = false ∧ c ≠ close) (depth : Nat) :
    ReadsBack (readSeries opening close item) (writeSeries opening close depth ws) xs := by
  intro blanks rest hblanks _
  have hopen (s : List Char) : expect opening (blanks ++ opening :: s) = some s := by
    rw [expect_append hblanks, expect_cons hopening, if_pos rfl]
  by_cases hne : ws = []
  · subst hne
    cases h
    exact readSeries_nil (hopen _) ((expect_cons hclose _ _).trans (if_pos rfl))
  · obtain ⟨w, ws, rfl⟩ := List.exists_cons_of_ne_nil hne
    obtain ⟨c, s, hw, hblank, hc⟩ := hstart w List.mem_cons_self
    obtain ⟨more, hmore⟩ := exists_writeItems_cons (depth + 1) w ws
    have hwritten : writeSeries opening close depth (w :: ws) ++ rest
        = opening :: (writeItems (depth + 1) (w :: ws) ++ (newline depth ++ close :: rest)) := by
      simp [writeSeries]
    have hnotyet : expect close (writeItems (depth + 1) (w :: ws)
        ++ (newline depth ++ close :: rest)) = none := by
      rw [hmore, List.append_assoc, expect_append isBlank_of_mem_newline, hw, List.cons_append,
        List.cons_append, expect_cons hblank, if_neg hc]
    have hlength : (w :: ws).length
        ≤ (writeItems (depth + 1) (w :: ws) ++ (newline depth ++ close :: rest)).length := by
      rw [List.length_append]
      exact Nat.le_add_right_of_le (length_le_writeItems _ _)
    rw [hwritten]
    exact readSeries_items (hopen _) hnotyet
      (readItems_writeItems hclose hcomma h hne (depth + 1) depth rest _ hlength)

end Series

/-- **An array is read back** if all its items are. -/
theorem readsBack_array {α : Type} {item : Reader α} {ws : List (List Char)} {xs : List α}
    (h : List.Forall₂ (ReadsBack item) ws xs)
    (hstart : ∀ w ∈ ws, ∃ c s, w = c :: s ∧ isBlank c = false ∧ c ≠ ']') (depth : Nat) :
    ReadsBack (readArray item) (writeArray depth ws) xs :=
  readsBack_series rfl rfl (by decide) h hstart depth

/-- **A field is read back** if the value for its key is. -/
theorem readsBack_field {α : Type} {value : String → Reader α} {key : String} {w : List Char}
    {x : α} (h : ReadsBack (value key) w x) :
    ReadsBack (fun s => do
      let (k, s) ← readText s
      let s ← expect ':' s
      value k s) (writeField key w) x := by
  intro blanks rest hblanks hrest
  have hvalue : value key ([' '] ++ (w ++ rest)) = some (x, rest) :=
    h [' '] rest (List.forall_mem_singleton.mpr rfl) hrest
  have hwritten : writeField key w ++ rest
      = writeText key.toList ++ ':' :: ([' '] ++ (w ++ rest)) := by
    simp [writeField]
  rw [hwritten]
  dsimp only
  rw [readText_behind hblanks]
  show ((expect ':' (':' :: ([' '] ++ (w ++ rest)))).bind fun s => value key s) = _
  rw [expect_cons rfl, if_pos rfl]
  exact hvalue


end SoundSheet.Json
