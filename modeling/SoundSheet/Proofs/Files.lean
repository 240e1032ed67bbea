import SoundSheet.Files

/-!
# What was written into a file is read from it

A text that has been written to a path is read from the same path
(`readText_writeText`). The path leads to the same place before and after. For
the way to a place is told by the directories on it, and a file that is put at a
place changes nothing at the others; the place itself was no directory before,
and the way to it is not lost.
-/

namespace SoundSheet.Files

variable {files files' : Files} {p q : Place} {content : ByteArray}

/-- A tree with nothing but the working directory. -/
def bare : Files :=
  ⟨["home"], []⟩

/-! ## What is at a place -/

/-- What is put at a place is there, unless that is the working directory or
above it. -/
theorem entry?_put_self (h : files.entry? p ≠ some .directory) :
    entry? (files.put p content) p = some (.file content) := by
  have habove : ¬p.isPrefixOf files.here = true := by
    intro habove
    unfold entry? at h
    rw [if_pos habove] at h
    exact h rfl
  unfold entry?
  rw [put, if_neg habove, List.lookup_cons, beq_self_eq_true]

/-- The other places stay as they are. -/
theorem entry?_put_of_ne (h : q ≠ p) : entry? (files.put p content) q = files.entry? q := by
  have hlookup (entries : List (Place × Entry)) :
      (entries.filter (·.1 ≠ p)).lookup q = entries.lookup q := by
    induction entries with
    | nil => rfl
    | cons e entries ih =>
      by_cases hp : e.1 = p
      · have hq : (q == e.1) = false := by
          rw [hp]
          exact beq_false_of_ne h
        rw [List.filter_cons_of_neg (by simpa using hp), List.lookup_cons, hq, ih]
      · rw [List.filter_cons_of_pos (by simpa using hp), List.lookup_cons, List.lookup_cons, ih]
  have hq : (q == p) = false := beq_false_of_ne h
  unfold entry?
  rw [put, List.lookup_cons, hq, hlookup]

/-! ## Ways to a place -/

/-- A directory stays one when a file is put where no directory is. -/
theorem requireDirectory_put (h : files.entry? p ≠ some .directory)
    (hdirectory : files.requireDirectory q = .ok ()) :
    (files.put p content).requireDirectory q = .ok () := by
  have hne : q ≠ p := by
    rintro rfl
    rw [requireDirectory] at hdirectory
    split at hdirectory
    · next hentry => exact h hentry
    · exact nomatch hdirectory
    · exact nomatch hdirectory
  rw [requireDirectory] at hdirectory ⊢
  rwa [entry?_put_of_ne hne]

/-- **The way to a place stays** when a file is put where no directory is. -/
theorem follow_put (h : files.entry? p ≠ some .directory) (names : List String) :
    ∀ {start : Place}, files.follow start names = .ok q →
      (files.put p content).follow start names = .ok q := by
  induction names with
  | nil => exact fun hfollow => hfollow
  | cons name names ih =>
    intro start hfollow
    rw [follow] at hfollow ⊢
    cases hdirectory : files.requireDirectory start with
    | error e =>
      rw [hdirectory] at hfollow
      exact nomatch hfollow
    | ok _ =>
      rw [hdirectory] at hfollow
      rw [requireDirectory_put h hdirectory]
      simp only [bind, Except.bind] at hfollow ⊢
      by_cases hstay : name = "" ∨ name = "."
      · rw [if_pos hstay] at hfollow ⊢
        exact ih hfollow
      rw [if_neg hstay] at hfollow ⊢
      by_cases hup : name = ".."
      · rw [if_pos hup] at hfollow ⊢
        exact ih hfollow
      · rw [if_neg hup] at hfollow ⊢
        exact ih hfollow

theorem locate_put (h : files.entry? p ≠ some .directory) {path : String}
    (hlocate : files.locate path = .ok q) : (files.put p content).locate path = .ok q := by
  rw [locate] at hlocate ⊢
  split at hlocate
  · exact nomatch hlocate
  · exact follow_put h _ hlocate
  · exact follow_put h _ hlocate

/-! ## Writing and reading -/

/-- **What writing does**: it puts the text at the place that the path leads to,
where no directory is. -/
theorem exists_put_of_writeText {path text : String} (h : files.writeText path text = .ok files') :
    ∃ p, files.locate path = .ok p ∧ files.entry? p ≠ some .directory
      ∧ files' = files.put p text.toUTF8 := by
  rw [writeText] at h
  cases hlocate : files.locate (String.ofList (withoutSlashes path.toList)) with
  | error e =>
    rw [hlocate] at h
    exact nomatch h
  | ok p =>
    rw [hlocate] at h
    by_cases hway : withoutSlashes path.toList = path.toList
    · rw [hway, String.ofList_toList] at hlocate
      simp only [bind, Except.bind, if_neg (not_not_intro hway)] at h
      refine ⟨p, hlocate, ?_⟩
      split at h
      · exact nomatch h
      · next hentry => exact ⟨hentry, (Except.ok.inj h).symm⟩
    · simp only [bind, Except.bind, if_pos hway] at h
      exact nomatch h

/-- **What was written into a file is read from it.** -/
theorem readText_writeText {path text : String} (h : files.writeText path text = .ok files') :
    files'.readText path = .ok text := by
  obtain ⟨p, hlocate, hentry, rfl⟩ := exists_put_of_writeText h
  have hresolve : (files.put p text.toUTF8).resolve path = .ok p := by
    rw [resolve, locate_put hentry hlocate]
    dsimp only [Bind.bind, Except.bind]
    rw [entry?_put_self hentry]
    rfl
  have hread : (files.put p text.toUTF8).readPlace p = .ok text.toUTF8 := by
    rw [readPlace, entry?_put_self hentry]
  rw [readText, hresolve]
  show ((files.put p text.toUTF8).readPlace p).bind _ = _
  rw [hread]
  exact decode_toUTF8 text

end SoundSheet.Files
