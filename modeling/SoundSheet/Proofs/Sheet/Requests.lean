import SoundSheet.Proofs.Sheet.Afresh

/-!
# The order of lookups

Cells are evaluated when they are first asked for, by a lookup, by the reading
of a region or by a formula that is in no cell. A pass is the sequence of
lookups that asks for every cell, row by row. None of these ever comes to see a
mark, since all of them start from a sheet at rest.

So the values that a sheet stores do not depend on what it has been asked for,
nor in which order: they are plain values, wherever there are any. In particular
what stands in cells that are not read, be it a cycle, makes no difference.

All this is for hosts that do not tell buses apart. For any other host a script
may find out that a value was remembered (`Sheet.value?_answerAll_boundVoice`).
-/

namespace SoundSheet

open SoundSheet.Script SoundSheet.Formula SoundSheet.Sheet

/-- **What a sheet can be asked for** in the course of a pass. -/
inductive Request where
  /-- The value of a cell. -/
  | cell (a : Address)
  /-- The numeric readings of a region. -/
  | region (region : Region) (traversal : Traversal)
  /-- The value of a formula that is in no cell. -/
  | formula (text : List Char)

namespace Sheet

/-- The sheet after a request. -/
def answer (s : Sheet) : Request → Sheet
  | .cell a => (s.lookup a).2
  | .region region traversal => (s.extract region traversal).2
  | .formula text => (s.evaluateFormula text).2

/-- **The sheet after some requests in order**. -/
def answerAll (s : Sheet) (requests : List Request) : Sheet :=
  requests.foldl answer s

/-- No cell is evaluated yet. -/
def AllUnevaluated (s : Sheet) : Prop :=
  ∀ a slot, s.slot? a = some slot → slot = .unevaluated

/-- A sheet without values is at rest. -/
theorem AllUnevaluated.atRest {s : Sheet} (h : s.AllUnevaluated) : s.AtRest :=
  fun a ha => nomatch h a _ ha

/-- There are no values behind rows of raw texts that have just been put in. -/
theorem allUnevaluated_setRows (s : Sheet) (rows : List (List String)) :
    (s.setRows rows).AllUnevaluated := by
  intro a slot h
  obtain ⟨cell, hcell, rfl⟩ := Option.map_eq_some_iff.mp h
  obtain ⟨text, -, rfl⟩ := Option.map_eq_some_iff.mp ((Grid.get?_map _ _ _).symm.trans hcell)
  rfl

/-- There are no values to forget. -/
theorem AllUnevaluated.forgetValues_eq {s : Sheet} (h : s.AllUnevaluated) :
    s.forgetValues = s := by
  have hgrid : (s.grid.map fun cell => Cell.ofRaw cell.raw) = s.grid := by
    refine Grid.map_eq_self fun a cell hcell => ?_
    have hslot : cell.slot = .unevaluated := h a cell.slot (by rw [slot?, hcell]; rfl)
    rw [Cell.ofRaw, ← hslot]
  rw [forgetValues, hgrid]

/-- **A pass is a sequence of requests**: one for each cell, row by row. -/
theorem AllUnevaluated.pass_eq {s : Sheet} (h : s.AllUnevaluated) :
    s.pass = s.answerAll (s.grid.addresses.map .cell) := by
  rw [pass, h.forgetValues_eq, visit, answerAll, List.foldl_map]
  rfl

/-- Every request runs a plan, and leaves the sheet of the run but for its
writes. -/
theorem exists_runs_answer (s : Sheet) (q : Request) :
    ∃ (α : Type) (p : Plan α) (r : Except FormulaError α) (t : Sheet) (writes : List Write),
      Runs p s r t ∧ s.answer q = { t with writes := writes } := by
  cases q with
  | cell a => exact ⟨_, _, _, _, _, runs_lookup a s, rfl⟩
  | region region traversal =>
    exact ⟨_, _, _, _, _, runs_perform (readRegion region traversal) s, rfl⟩
  | formula text =>
    exact ⟨_, _, _, _, [], runs_perform (run s.setting ⟨0, 0⟩ (formulaBody text)) s, rfl⟩

theorem atRest_answer {s : Sheet} (hs : s.AtRest) (q : Request) : (s.answer q).AtRest := by
  obtain ⟨α, p, r, t, writes, hrun, heq⟩ := s.exists_runs_answer q
  rw [heq]
  exact hrun.fills.atRest hs

section Faithful

variable {setting : Setting} {texts : Address → Option String}

/-- **A request stores plain values only.** -/
theorem faithful_answer (hhost : setting.host.IgnoresBuses) {s : Sheet} (hs : s.AtRest)
    (hfaithful : Faithful setting texts s) (q : Request) :
    Faithful setting texts (s.answer q) := by
  obtain ⟨α, p, r, t, writes, hrun, heq⟩ := s.exists_runs_answer q
  rw [heq]
  have ht := hrun.faithful (hhost.ignoreBuses texts) (fun a ha => absurd ha (hs a)) hfaithful
  exact ⟨ht.setting_eq, ht.raw_eq, ht.value⟩

/-- **So do all requests together.** -/
theorem faithful_answerAll (hhost : setting.host.IgnoresBuses) (requests : List Request) :
    ∀ {s : Sheet}, s.AtRest → Faithful setting texts s →
      Faithful setting texts (s.answerAll requests) := by
  induction requests with
  | nil => exact fun _ h => h
  | cons q requests ih =>
    intro s hs hfaithful
    exact ih (atRest_answer hs q) (faithful_answer hhost hs hfaithful q)

/-- A sheet without values stores nothing wrong. -/
theorem AllUnevaluated.faithful {s : Sheet} (h : s.AllUnevaluated) :
    Faithful s.setting s.raw? s :=
  ⟨rfl, fun _ => rfl, fun a _ _ _ ha _ => nomatch h a _ ha⟩

end Faithful

/-- Whatever a sheet without values was asked for, the value that it stores is
the plain one. -/
theorem matches_of_value?_answerAll {s : Sheet} (hhost : s.host.IgnoresBuses)
    (hs : s.AllUnevaluated) {a : Address} {w : CellValue} {reads : List Address}
    (hw : PlainValue s.setting s.raw? a w reads) {requests : List Request} {v : CellValue}
    (hv : (s.answerAll requests).value? a = some v) : v.Matches AnyBus w := by
  have hfaithful := faithful_answerAll hhost requests hs.atRest hs.faithful
  obtain ⟨slot, hslot, hvalue⟩ := Option.bind_eq_some_iff.mp hv
  cases slot with
  | evaluated v' =>
    cases hvalue
    exact hfaithful.value a v w reads hslot hw
  | unevaluated => exact nomatch hvalue
  | evaluating => exact nomatch hvalue

/-- **Remembering values in any order agrees with the plain meaning of
formulas**, on sheets whose hosts do not tell buses apart. Let a cell `a` have
the plain value `w`, and let its evaluation read the cells `reads`. On a sheet
without values, after any requests, the value stored for `a` is `w`, if one is
stored. A pass is such a sequence of requests and does store one. And on any
other sheet with the same setting and the same raw texts of `a` and `reads`,
after any requests, the stored value is the same. Buses are left out of
account. -/
theorem value?_answerAll {s : Sheet} (hhost : s.host.IgnoresBuses) (hs : s.AllUnevaluated)
    {a : Address} {w : CellValue} {reads : List Address}
    (hw : PlainValue s.setting s.raw? a w reads) :
    (∀ requests v, (s.answerAll requests).value? a = some v → v.Matches AnyBus w)
      ∧ s.pass = s.answerAll (s.grid.addresses.map .cell)
      ∧ (∃ v, s.pass.value? a = some v ∧ v.Matches AnyBus w)
      ∧ ∀ s' : Sheet, s'.AllUnevaluated → s'.setting = s.setting →
          (∀ b ∈ a :: reads, s'.raw? b = s.raw? b) → ∀ requests requests' v v',
            (s.answerAll requests).value? a = some v →
              (s'.answerAll requests').value? a = some v' → v.Matches AnyBus v' := by
  refine ⟨fun requests v hv => matches_of_value?_answerAll hhost hs hw hv,
    hs.pass_eq, ?_, ?_⟩
  · obtain ⟨raw, -, hraw, -⟩ := id hw
    obtain ⟨v, hv⟩ := hasValue_pass (s := s) (a := a) (by rw [hraw]; rfl)
    have hvalue : s.pass.value? a = some v := by rw [value?, hv]; rfl
    refine ⟨v, hvalue, ?_⟩
    rw [hs.pass_eq] at hvalue
    exact matches_of_value?_answerAll hhost hs hw hvalue
  · intro s' hs' hsetting htexts requests requests' v v' hv hv'
    have hw' : PlainValue s'.setting s'.raw? a w reads := hsetting ▸ hw.congr htexts
    have hhost' : s'.host.IgnoresBuses := by
      rw [show s'.host = s.host from congrArg Setting.host hsetting]
      exact hhost
    exact (matches_of_value?_answerAll hhost hs hw hv).trans_anyBus
      (matches_of_value?_answerAll hhost' hs' hw' hv').symm_anyBus

/-- A sheet whose first cell reads the second one twice, next to a cell that
reads itself. -/
def besideCycle : Sheet :=
  (Sheet.new 1 3 plainHost).setRows [["=CONCAT(\"-\", B1, B1)", "2", "=C1"]]

/-- In whatever order its cells are asked for, the first one gets its plain
value. -/
theorem value?_answerAll_besideCycle :
    besideCycle.host.IgnoresBuses ∧ besideCycle.AllUnevaluated
      ∧ PlainValue besideCycle.setting besideCycle.raw? ⟨0, 0⟩ (.text "2-2") [⟨0, 1⟩, ⟨0, 1⟩]
      ∧ ∀ requests v, (besideCycle.answerAll requests).value? ⟨0, 0⟩ = some v →
          v.Matches AnyBus (.text "2-2") := by
  have hs : besideCycle.AllUnevaluated := allUnevaluated_setRows _ _
  have hw : PlainValue besideCycle.setting besideCycle.raw? ⟨0, 0⟩ (.text "2-2")
      [⟨0, 1⟩, ⟨0, 1⟩] := by
    refine ⟨"=CONCAT(\"-\", B1, B1)", .ok (.text "2-2"), rfl, ?_, rfl⟩
    -- the cell is read once for each of the two arguments
    refine @Evaluates.inside _ _ _ ⟨0, 1⟩ _ _ "2" _ [] [⟨0, 1⟩] rfl (.done _) ?_
    exact @Evaluates.inside _ _ _ ⟨0, 1⟩ _ _ "2" _ [] [] rfl (.done _) (.done _)
  have hhost : besideCycle.host.IgnoresBuses := respects_plainHost AnyBus
  exact ⟨hhost, hs, hw, (value?_answerAll hhost hs hw).1⟩

/-- A host whose scripts tell whether the first two cells of the first row have
the same bus. -/
def comparingBuses : Host where
  run _ scope :=
    let bus? (cell : Address) : Option BusId := (scope.value? cell).bind CellValue.bus?
    .ok ⟨.text (if bus? ⟨0, 0⟩ = bus? ⟨0, 1⟩ then "same" else "different"), [], []⟩

/-- A beat, a voice that is bound to it, and a script that is shown both. -/
def boundVoice : Sheet :=
  (Sheet.new 1 3 comparingBuses).setRows
    [["=BEAT(x, y)", "=AUDIO(x, A1)", "=JS(getValue(\"A1\") getValue(\"B1\"))"]]

/-- The sheet shows the script one bus. Afresh, the beat is evaluated for the
script and once more for the voice, and the script is shown two. So the stored
value is not the plain value. -/
theorem value?_answerAll_boundVoice :
    boundVoice.AllUnevaluated
      ∧ lookAfresh boundVoice.setting boundVoice.raw? 3 ⟨0, 2⟩ 0 = some (.ok (.text "different"), 2)
      ∧ (∃ reads, PlainValue boundVoice.setting boundVoice.raw? ⟨0, 2⟩ (.text "different") reads)
      ∧ (boundVoice.answerAll [.cell ⟨0, 2⟩]).value? ⟨0, 2⟩ = some (.text "same")
      ∧ ¬(CellValue.text "same").Matches AnyBus (.text "different") := by
  have hafresh : lookAfresh boundVoice.setting boundVoice.raw? 3 ⟨0, 2⟩ 0
      = some (.ok (.text "different"), 2) := by decide +kernel
  refine ⟨allUnevaluated_setRows _ _, hafresh, exists_plainValue_of_lookAfresh hafresh,
    by decide +kernel, fun h => ?_⟩
  exact absurd (h.eq_of_bus?_eq_none rfl) (by decide)

end Sheet

end SoundSheet
