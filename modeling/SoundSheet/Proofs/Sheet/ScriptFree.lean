import SoundSheet.Proofs.Formula.ScriptFree
import SoundSheet.Proofs.Sheet.Settling

/-!
# Sheets without scripts

On a sheet where no formula calls a script, nothing is written and no host is
asked. So the evaluation of all cells is a single pass (`evaluateAll_eq_pass`),
and what it makes of the sheet does not hang on the host (`pass_withHost`). Two
sheets with the same raw texts, tempo and time then end with the same values up
to a renaming of buses, each with a host of its own (`sameValues_evaluateAll`).
-/

namespace SoundSheet

open SoundSheet.Script SoundSheet.Formula SoundSheet.Sheet

/-! ## Runs -/

section Runs

variable {α : Type} {p : Plan α} {s t : Sheet} {r : Except FormulaError α}

/-- **A strict plan queues nothing** on a sheet without scripts. -/
theorem Runs.writes_eq (h : Runs p s r t) (hp : p.Strict)
    (hfree : ∀ a raw, s.raw? a = some raw → ScriptFree raw) : t.writes = s.writes := by
  induction h with
  | done _ _ => rfl
  | fail _ _ => rfl
  | outside _ _ ih =>
    cases hp with
    | read hrefused _ => exact ih (hrefused _ ▸ .fail _) hfree
  | marked _ _ ih =>
    cases hp with
    | read hrefused _ => exact ih (hrefused _ ▸ .fail _) hfree
  | known _ _ ih =>
    cases hp with
    | read _ hnext => exact ih (hnext _) hfree
  | @fresh _ cell _ s _ _ _ raw _ _ hraw hformula _ ihformula ihnext =>
    cases hp with
    | read _ hnext =>
      have hstrict : (runRaw s.setting cell raw).Strict :=
        (direct_runRaw rfl rfl cell (hfree _ _ hraw)).strict
      have hfirst := ihformula hstrict fun a raw ha => hfree a raw (by rwa [raw?_setSlot] at ha)
      have hrest := ihnext (hnext _) fun a raw ha => hfree a raw (by
        rwa [raw?_setSlot, hformula.fills.raw, raw?_setSlot] at ha)
      exact hrest.trans hfirst
  | openBus _ ih =>
    cases hp with
    | openBus hnext => exact ih (hnext _) hfree
  | emit _ _ => exact nomatch hp

/-- **A run goes alike with every host** on a sheet without scripts. -/
theorem Runs.withHost (h : Runs p s r t)
    (hfree : ∀ a raw, s.raw? a = some raw → ScriptFree raw) (host : Host) :
    Runs p { s with host := host } r { t with host := host } := by
  induction h with
  | done a s => exact .done a _
  | fail e s => exact .fail e _
  | outside hcell _ ih => exact .outside hcell (ih hfree)
  | marked hcell _ ih => exact .marked hcell (ih hfree)
  | known hcell _ ih => exact .known hcell (ih hfree)
  | @fresh _ cell _ s s₁ t _ raw r₁ hcell hraw hformula _ ihformula ihnext =>
    have htempo : (Setting.mk s.tempo s.time host).tempo = s.setting.tempo := rfl
    have hplan : runRaw ⟨s.tempo, s.time, host⟩ cell raw = runRaw s.setting cell raw :=
      (direct_runRaw htempo rfl cell (hfree _ _ hraw)).eq
    have hfirst : Runs (runRaw ⟨s.tempo, s.time, host⟩ cell raw)
        { s.setSlot cell .evaluating with host := host } r₁ { s₁ with host := host } := by
      rw [hplan]
      exact ihformula fun a raw ha => hfree a raw (by rwa [raw?_setSlot] at ha)
    have hrest := ihnext fun a raw ha => hfree a raw (by
      rwa [raw?_setSlot, hformula.fills.raw, raw?_setSlot] at ha)
    exact .fresh hcell hraw hfirst hrest
  | openBus _ ih => exact .openBus (ih hfree)
  | emit _ ih => exact .emit (ih hfree)

end Runs

/-! ## Evaluating all cells -/

namespace Sheet

section Passes

variable {s : Sheet} (hfree : ∀ a raw, s.raw? a = some raw → ScriptFree raw)

include hfree

theorem writes_visit (cells : List Address) : (s.visit cells).writes = s.writes := by
  induction cells generalizing s with
  | nil => rfl
  | cons a cells ih =>
    have hlookup := (runs_lookup a s).writes_eq
      (.read (fun _ => rfl) fun v => .done v) hfree
    exact (ih fun b raw hb => hfree b raw (by rwa [(fills_lookup a s).raw] at hb)).trans hlookup

/-- **A pass goes alike with every host.** -/
theorem pass_withHost (host : Host) :
    pass { s with host := host } = { s.pass with host := host } := by
  have hrun := s.runs_pass.withHost
    (fun a raw ha => hfree a raw (by rwa [raw?_forgetValues] at ha)) host
  have hrun' := runs_pass { s with host := host }
  exact congrArg Prod.snd (hrun'.perform_eq.symm.trans hrun.perform_eq)

/-- **The evaluation of all cells is a single pass** if nothing is queued
before. -/
theorem evaluateAll_eq_pass (hqueue : s.writes = []) : s.evaluateAll = s.pass := by
  have hwrites : s.pass.writes = [] :=
    (writes_visit (fun a raw ha => hfree a raw (by rwa [raw?_forgetValues] at ha)) _).trans hqueue
  have hstore : s.pass.storeWrites = (false, { s.pass with writes := [] }) := by
    rw [storeWrites, hwrites, storeAll]
  have hend : { s.pass with writes := [] } = s.pass := by
    rw [← hwrites]
  rw [evaluateAll, maxPasses, settle, hstore, hend]

/-- **Evaluating all cells changes no raw text** on a sheet without scripts. -/
theorem rawRows_evaluateAll_of_scriptFree (hqueue : s.writes = []) :
    s.evaluateAll.rawRows = s.rawRows := by
  rw [evaluateAll_eq_pass hfree hqueue]
  exact (SameTexts.self_pass s).rawRows_eq

end Passes

/-- The raw texts of the cells are told by the rows. -/
theorem raw?_of_rawRows_eq {s t : Sheet} (h : t.rawRows = s.rawRows) (a : Address) :
    t.raw? a = s.raw? a := by
  have hgrid : t.grid.map Cell.raw = s.grid.map Cell.raw := by
    rw [Grid.mk.injEq]
    exact h
  rw [← get?_map_raw, ← get?_map_raw, hgrid]

/-- **Sheets without scripts show the same**, with whatever hosts: two that have
the same raw grid, tempo and time end with the same values up to a renaming of
buses. -/
theorem sameValues_evaluateAll {s t : Sheet}
    (hfree : ∀ a raw, s.raw? a = some raw → ScriptFree raw) (hraw : t.rawRows = s.rawRows)
    (htempo : t.tempo = s.tempo) (htime : t.time = s.time) (hs : s.writes = [])
    (ht : t.writes = []) : s.evaluateAll.SameValues t.evaluateAll := by
  -- both are given a host that treats buses as names
  let s' : Sheet := { s with host := plainHost }
  let t' : Sheet := { t with host := plainHost }
  have hsetting : t'.setting = s'.setting := by
    rw [setting, setting, htempo, htime]
  have htexts : s'.SameTexts t' := .of_rawRows_eq hraw hsetting
  have hfree' : ∀ a raw, t.raw? a = some raw → ScriptFree raw := fun a raw ha =>
    hfree a raw ((raw?_of_rawRows_eq hraw a).symm.trans ha)
  obtain ⟨R, hR, hvalues⟩ := sameValues_pass htexts fun R _ => respects_plainHost R
  refine ⟨R, hR, fun a => ?_⟩
  rw [evaluateAll_eq_pass hfree hs, evaluateAll_eq_pass hfree' ht]
  have ha := hvalues a
  rw [pass_withHost hfree, pass_withHost hfree'] at ha
  exact ha

end Sheet

end SoundSheet
