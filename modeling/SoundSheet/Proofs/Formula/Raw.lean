import SoundSheet.Formula.Evaluation

/-!
# Raw texts

A raw text that starts with an equals sign is a formula, and its run is that of
the text behind the sign. Any other raw text stands for itself: its run asks for
nothing.
-/

namespace SoundSheet.Formula

/-- The formula in a raw text, if there is one. -/
def body? (raw : String) : Option (List Char) :=
  match raw.toList with
  | '=' :: body => some body
  | _ => none

/-- The value of a raw text that is no formula. -/
def literal (raw : String) : CellValue :=
  if raw = "" then .empty else .text raw

theorem body?_eq_none_of_head? {raw : String} (h : raw.toList.head? ≠ some '=') :
    body? raw = none := by
  unfold body?
  split
  · next hraw => exact absurd (by rw [hraw]; rfl) h
  · rfl

/-- Behind an equals sign everything is a formula. -/
theorem body?_ofList (body : List Char) : body? (String.ofList ('=' :: body)) = some body := by
  rw [body?, String.toList_ofList]
  rfl

theorem body?_append (f : String) : body? ("=" ++ f) = some f.toList := by
  rw [body?, String.toList_append]
  rfl

theorem bus?_literal (raw : String) : (literal raw).bus? = none := by
  unfold literal
  split <;> rfl

variable (setting : Setting) (caller : Address) {raw : String}

/-- **A formula is run.** -/
theorem runRaw_of_body? {body : List Char} (h : body? raw = some body) :
    runRaw setting caller raw = run setting caller body := by
  unfold body? at h
  split at h
  · next hraw =>
    obtain rfl := Option.some.inj h
    unfold runRaw
    rw [hraw]
    rfl
  · exact nomatch h

/-- **A raw text that is no formula stands for itself.** -/
theorem runRaw_of_body?_eq_none (h : body? raw = none) :
    runRaw setting caller raw = .done (literal raw) := by
  unfold runRaw
  split
  · next hnil =>
    obtain rfl : raw = "" := String.toList_eq_nil_iff.mp hnil
    rfl
  · next hraw =>
    unfold body? at h
    rw [hraw] at h
    exact nomatch h
  · next hne _ =>
    have hraw : raw ≠ "" := fun heq => hne (by rw [heq]; rfl)
    rw [literal, if_neg hraw]

end SoundSheet.Formula
