import SoundSheet.Proofs.Sheet.Run
import SoundSheet.Sheet.Pass

/-!
# What passes do

Lookups fill a sheet up, so a visit of all cells does. Between lookups no cell
is marked. Therefore a lookup of a cell in the grid is never refused, and after
a pass every cell is evaluated (`hasValue_pass`).

Between the passes of `evaluateAll` the writes of scripts are stored, which
changes raw texts. After the last one they are not, or they change nothing. So
whatever scripts do, the sheet that `evaluateAll` ends with is that of a single
pass with no writes left (`exists_pass_of_settle`).
-/

namespace SoundSheet

namespace Sheet

/-- **A sheet at rest**: no cell is marked. -/
def AtRest (s : Sheet) : Prop :=
  ∀ a, s.slot? a ≠ some .evaluating

/-- The cell has a value. -/
def HasValue (s : Sheet) (a : Address) : Prop :=
  ∃ v, s.slot? a = some (.evaluated v)

end Sheet

namespace Fills

variable {s t : Sheet}

theorem atRest (h : Fills s t) (hs : s.AtRest) : t.AtRest :=
  fun a ha => hs a ((h.slot?_evaluating_iff a).mp ha)

theorem hasValue (h : Fills s t) {a : Address} (ha : s.HasValue a) : t.HasValue a := by
  obtain ⟨v, hv⟩ := ha
  exact ⟨v, h.slot?_evaluated hv⟩

end Fills

namespace Sheet

/-! ## Lookups and visits -/

/-- A lookup runs by the rules. -/
theorem runs_lookup (a : Address) (s : Sheet) :
    Runs (.read a Plan.ofExcept) s (s.lookup a).1 (s.lookup a).2 := by
  rw [lookup_eq_perform]
  exact runs_perform _ s

theorem fills_lookup (a : Address) (s : Sheet) : Fills s (s.lookup a).2 :=
  (runs_lookup a s).fills

/-- **A lookup of a cell in the grid gives it a value.** -/
theorem hasValue_lookup {s : Sheet} (hs : s.AtRest) {a : Address} (ha : (s.raw? a).isSome) :
    (s.lookup a).2.HasValue a := by
  have hrun := runs_lookup a s
  cases hrun with
  | outside hcell _ =>
    rw [← isSome_slot?, hcell] at ha
    exact nomatch ha
  | marked hcell _ => exact absurd hcell (hs a)
  | @known _ _ _ _ _ _ v hcell hnext => exact hnext.fills.hasValue ⟨v, hcell⟩
  | fresh hcell _ hformula hnext =>
    have hmark := (hformula.fills.slot?_evaluating_iff a).mpr (slot?_setSlot_self _ hcell)
    exact hnext.fills.hasValue ⟨_, slot?_setSlot_self _ hmark⟩

theorem fills_visit (cells : List Address) : ∀ s : Sheet, Fills s (s.visit cells) := by
  induction cells with
  | nil => exact Fills.refl
  | cons a cells ih => exact fun s => (fills_lookup a s).trans (ih _)

/-- **After a visit the cells that were visited have values.** -/
theorem hasValue_visit {cells : List Address} {a : Address} (hmem : a ∈ cells) :
    ∀ {s : Sheet}, s.AtRest → (s.raw? a).isSome → (s.visit cells).HasValue a := by
  induction cells with
  | nil => exact nomatch hmem
  | cons b cells ih =>
    intro s hs ha
    have hfills := fills_lookup b s
    rcases List.mem_cons.mp hmem with rfl | hmem
    · exact (fills_visit cells _).hasValue (hasValue_lookup hs ha)
    · exact ih hmem (hfills.atRest hs) (by rwa [hfills.raw])

/-! ## Passes -/

theorem atRest_forgetValues (s : Sheet) : s.forgetValues.AtRest := by
  intro a h
  rw [slot?_forgetValues] at h
  cases hraw : s.raw? a with
  | none => rw [hraw] at h; exact nomatch h
  | some raw => rw [hraw] at h; exact nomatch h

/-- A pass fills the sheet without values up. -/
theorem fills_pass (s : Sheet) : Fills s.forgetValues s.pass :=
  fills_visit _ _

/-- **After a pass every cell has a value.** -/
theorem hasValue_pass {s : Sheet} {a : Address} (ha : (s.raw? a).isSome) : s.pass.HasValue a :=
  hasValue_visit ((s.mem_addresses_iff a).mpr ha) s.atRest_forgetValues
    (by rwa [raw?_forgetValues])

@[simp] theorem raw?_pass (s : Sheet) (a : Address) : s.pass.raw? a = s.raw? a := by
  rw [s.fills_pass.raw, raw?_forgetValues]

/-! ## Settling -/

/-- **A raw text is stored, or the sheet stays as it is.** -/
theorem store_eq_or (s : Sheet) (w : Script.Write) :
    s.store w = (false, s) ∨ s.store w = (true, s.overwrite w.cell w.text) := by
  rw [store]
  cases s.raw? w.cell with
  | none => exact .inl rfl
  | some raw =>
    by_cases hsame : raw = w.text
    · exact .inl (if_pos hsame)
    · exact .inr (if_neg hsame)

theorem storeAll_cons (w : Script.Write) (writes : List Script.Write) (s : Sheet) :
    storeAll (w :: writes) s
      = ((s.store w).1 || (storeAll writes (s.store w).2).1, (storeAll writes (s.store w).2).2) :=
  rfl

/-- Writes that change nothing leave the sheet as it is. -/
theorem storeAll_eq_of_unchanged {writes : List Script.Write} :
    ∀ {s t : Sheet}, storeAll writes s = (false, t) → t = s := by
  induction writes with
  | nil => exact fun h => (Prod.mk.inj h).2.symm
  | cons w writes ih =>
    intro s t h
    rw [storeAll_cons] at h
    rcases s.store_eq_or w with hstore | hstore
    · rw [hstore] at h
      exact ih h
    · rw [hstore] at h
      exact nomatch (Prod.mk.inj h).1

/-- Storing raw texts leaves tempo, time and host alone. -/
theorem setting_storeAll (writes : List Script.Write) :
    ∀ s : Sheet, (storeAll writes s).2.setting = s.setting := by
  induction writes with
  | nil => exact fun _ => rfl
  | cons w writes ih =>
    intro s
    rw [storeAll_cons]
    refine (ih _).trans ?_
    rcases s.store_eq_or w with hstore | hstore
    · rw [hstore]
    · rw [hstore]
      rfl

/-- **However often passes are repeated, what they end with is one pass**, and
no write is left. -/
theorem exists_pass_of_settle (n : Nat) :
    ∀ s : Sheet, ∃ u : Sheet,
      u.setting = s.setting ∧ settle n s = { u.pass with writes := [] } := by
  induction n with
  | zero => exact fun s => ⟨s, rfl, rfl⟩
  | succ n ih =>
    intro s
    rw [settle]
    cases hstore : s.pass.storeWrites with
    | mk changed t =>
      cases changed with
      | false => exact ⟨s, rfl, storeAll_eq_of_unchanged hstore⟩
      | true =>
        -- the last pass is one over the sheet where the writes are stored
        obtain ⟨u, hsetting, hu⟩ := ih t
        refine ⟨u, hsetting.trans ?_, hu⟩
        have ht : (storeAll s.pass.writes { s.pass with writes := [] }).2 = t :=
          congrArg Prod.snd hstore
        rw [← ht, setting_storeAll]
        exact s.fills_pass.setting

end Sheet

end SoundSheet
