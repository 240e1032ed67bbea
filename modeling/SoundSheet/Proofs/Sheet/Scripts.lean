import SoundSheet.Proofs.Formula.Scripts
import SoundSheet.Proofs.Script.Mention
import SoundSheet.Proofs.Sheet.Lookups

/-!
# What a script cell hands to the host

When a cell is evaluated whose formula is a script, the cells that the code
names are looked up one after the other (`gather`), and then the host is given
the code with their values. It has been given other codes by then, if some of
these cells were not evaluated and are scripts themselves, but all of them on
behalf of other cells: the cell itself is marked in the meantime, so it is not
entered again (`Runs.withHost_of_marked`). So on behalf of the cell the host is
asked just once (`handsOver_scriptCall`).
-/

namespace SoundSheet

open SoundSheet.Text SoundSheet.Script SoundSheet.Formula SoundSheet.Sheet

/-! ## Runs -/

/-- **The host is not asked on behalf of a cell that is marked**, so it may
answer as it likes there. -/
theorem Runs.withHost_of_marked {α : Type} {p : Plan α} {s t : Sheet} {r : Except FormulaError α}
    {a : Address} {host : Host} (h : Runs p s r t) (hmark : s.slot? a = some .evaluating)
    (hhost : ∀ code scope, scope.caller ≠ a → host.run code scope = s.host.run code scope) :
    Runs p { s with host := host } r { t with host := host } := by
  induction h with
  | done a s => exact .done a _
  | fail e s => exact .fail e _
  | outside hcell _ ih => exact .outside hcell (ih hmark hhost)
  | marked hcell _ ih => exact .marked hcell (ih hmark hhost)
  | known hcell _ ih => exact .known hcell (ih hmark hhost)
  | @fresh _ cell _ s s₁ t _ raw r₁ hcell hraw hformula _ ihformula ihnext =>
    -- the cell that is entered is another one
    have hne : cell ≠ a := by
      rintro rfl
      exact nomatch hmark.symm.trans hcell
    have hmark' : (s.setSlot cell .evaluating).slot? a = some .evaluating := by
      rwa [slot?_setSlot_of_ne _ hne]
    have hplan : runRaw { s.setting with host := host } cell raw = runRaw s.setting cell raw :=
      runRaw_congr_host (fun code scope hcaller => hhost code scope (hcaller ▸ hne)) raw
    have hfirst : Runs (runRaw { s.setting with host := host } cell raw)
        { s.setSlot cell .evaluating with host := host } r₁ { s₁ with host := host } := by
      rw [hplan]
      exact ihformula hmark' hhost
    refine .fresh hcell hraw hfirst (ihnext ?_ ?_)
    · rw [slot?_setSlot_of_ne _ hne]
      exact (hformula.fills.slot?_evaluating_iff a).mpr hmark'
    · have hsame : s₁.host = s.host := hformula.fills.host
      rwa [← hsame] at hhost
  | openBus _ ih => exact .openBus (ih hmark hhost)
  | emit _ ih => exact .emit (ih hmark hhost)

namespace Sheet

/-! ## Lookups one after the other -/

/-- **The cells with their values**, looked up one after the other. A cell that
could not be read has an error. -/
def gather : List Address → Sheet → List (Address × CellValue) × Sheet
  | [], s => ([], s)
  | a :: cells, s =>
    let (answer, s) := s.lookup a
    let (values, s) := gather cells s
    ((a, valueOf answer) :: values, s)

/-- To ask for the value of a cell is to look it up. -/
theorem runs_peek (a : Address) (s : Sheet) :
    Runs (Plan.peek a) s (.ok (valueOf (s.lookup a).1)) (s.lookup a).2 := by
  have hrun := runs_perform (Plan.peek a) s
  have heq : s.perform (Plan.peek a) = (.ok (valueOf (s.lookup a).1), (s.lookup a).2) := by
    show Plan.runOn _ (.read a _) s = _
    rw [Plan.runOn, ← lookup]
    cases hanswer : s.lookup a with
    | mk answer t => cases answer <;> rfl
  rwa [heq] at hrun

theorem runs_gather (cells : List Address) : ∀ s : Sheet,
    Runs (Plan.each (fun cell => (Plan.peek cell).bind fun v => .done (cell, v)) cells) s
      (.ok (gather cells s).1) (gather cells s).2 := by
  induction cells with
  | nil => exact fun s => .done [] s
  | cons a cells ih =>
    intro s
    have hfirst := (s.runs_peek a).bind (f := fun v => .done (a, v)) rfl (.done _ _)
    exact hfirst.bind rfl ((ih _).bind rfl (.done _ _))

theorem fst_gather (cells : List Address) :
    ∀ s : Sheet, (gather cells s).1.map Prod.fst = cells := by
  induction cells with
  | nil => exact fun s => rfl
  | cons a cells ih => exact fun s => congrArg (a :: ·) (ih _)

/-- **What a cell is shown as**: its value, or the error why there is none. -/
structure Shows (s t : Sheet) (cell : Address) (v : CellValue) : Prop where
  /-- A cell outside the grid has no value. -/
  outside : s.slot? cell = none → v = .error (FormulaError.outOfBounds cell).toCellError
  /-- A cell that is being computed has none either. -/
  marked : s.slot? cell = some .evaluating →
    v = .error (FormulaError.circularReference cell).toCellError
  /-- Any other cell has been evaluated, and that is its value. -/
  evaluated : (s.raw? cell).isSome → s.slot? cell ≠ some .evaluating →
    t.slot? cell = some (.evaluated v)

theorem shows_lookup (a : Address) (s : Sheet) :
    s.Shows (s.lookup a).2 a (valueOf (s.lookup a).1) := by
  cases hcell : s.slot? a with
  | none =>
    have hlookup : s.lookup a = (.error (.outOfBounds a), s) := lookWithin_outside hcell _
    rw [hlookup]
    refine ⟨fun _ => rfl, fun h => (nomatch hcell.symm.trans h), fun h => ?_⟩
    rw [← isSome_slot?, hcell] at h
    exact nomatch h
  | some slot =>
    by_cases hmark : slot = .evaluating
    · have hlookup : s.lookup a = (.error (.circularReference a), s) :=
        lookWithin_marked (hmark ▸ hcell) _
      rw [hlookup]
      exact ⟨fun h => (nomatch hcell.symm.trans h), fun _ => rfl,
        fun _ h => absurd (hmark ▸ hcell) h⟩
    · -- any other cell has a value after its lookup
      obtain ⟨v, hv⟩ : ∃ v, (s.lookup a).1 = .ok v := by
        cases slot with
        | evaluating => exact absurd rfl hmark
        | evaluated v => exact ⟨v, congrArg Prod.fst (lookup_of_slot? hcell)⟩
        | unevaluated =>
          have hrun := runs_lookup a s
          generalize (s.lookup a).1 = answer at hrun ⊢
          generalize (s.lookup a).2 = t at hrun
          cases hrun with
          | outside hnone _ => exact nomatch hcell.symm.trans hnone
          | marked hmarked _ => exact nomatch hcell.symm.trans hmarked
          | known hknown _ => exact nomatch hcell.symm.trans hknown
          | fresh _ _ _ hnext =>
            cases hnext
            exact ⟨_, rfl⟩
      refine ⟨fun h => (nomatch hcell.symm.trans h),
        fun h => absurd (Option.some.inj (hcell.symm.trans h)) hmark, fun _ _ => ?_⟩
      rw [hv]
      exact slot?_lookup hv

/-- What is filled in before and after makes no difference. -/
theorem Shows.mono {s t t' u : Sheet} {cell : Address} {v : CellValue} (hbefore : Fills s t)
    (h : t.Shows t' cell v) (hafter : Fills t' u) : s.Shows u cell v := by
  refine ⟨fun hout => h.outside ?_, fun hmark => h.marked ?_, fun hin hmark => ?_⟩
  · rwa [slot?_eq_none_iff, hbefore.raw, ← slot?_eq_none_iff]
  · exact (hbefore.slot?_evaluating_iff cell).mpr hmark
  · refine hafter.slot?_evaluated (h.evaluated (by rwa [hbefore.raw]) fun hmark' => ?_)
    exact hmark ((hbefore.slot?_evaluating_iff cell).mp hmark')

/-- **Every cell that is gathered is shown with its value.** -/
theorem shows_gather (cells : List Address) : ∀ (s : Sheet) (cell : Address) (v : CellValue),
    (cell, v) ∈ (gather cells s).1 → s.Shows (gather cells s).2 cell v := by
  induction cells with
  | nil => exact fun s cell v h => nomatch h
  | cons a cells ih =>
    intro s cell v h
    rcases List.mem_cons.mp h with heq | hmem
    · obtain ⟨rfl, rfl⟩ := Prod.mk.inj heq
      exact (s.shows_lookup cell).mono (.refl s) (runs_gather cells _).fills
    · exact (ih _ cell v hmem).mono (s.fills_lookup a) (.refl _)

/-- The values do not hang on what the host answers on behalf of a marked
cell. -/
theorem gather_withHost {s : Sheet} {a : Address} (hmark : s.slot? a = some .evaluating)
    {host : Host}
    (hhost : ∀ code scope, scope.caller ≠ a → host.run code scope = s.host.run code scope)
    (cells : List Address) :
    gather cells { s with host := host }
      = ((gather cells s).1, { (gather cells s).2 with host := host }) := by
  have hrun := (runs_gather cells s).withHost_of_marked hmark hhost
  have hends := (runs_gather cells { s with host := host }).perform_eq.symm.trans hrun.perform_eq
  obtain ⟨hvalues, hsheet⟩ := Prod.mk.inj hends
  exact Prod.ext (Except.ok.inj hvalues) hsheet

/-! ## Running code in a cell -/

/-- **What becomes of the cell of a script**, and of the sheet, when the host
has answered. What the script leaves behind is queued, and the cell gets the
value, or the error that the host has reported. -/
def conclude (a : Address) (answer : Except String Outcome) (s : Sheet) : CellValue × Sheet :=
  match answer with
  | .error message =>
    let v := CellValue.error (FormulaError.external message).toCellError
    (v, s.setSlot a (.evaluated v))
  | .ok outcome =>
    let left : Sheet := { s with
      writes := s.writes ++ outcome.writes
      events := s.events ++ outcome.events }
    (outcome.value, left.setSlot a (.evaluated outcome.value))

/-- **The evaluation of a cell in the grid** is the run of its formula. -/
theorem exists_runs_evaluateCell {s : Sheet} {a : Address} {raw : String}
    (hraw : s.raw? a = some raw) :
    ∃ r t, Runs (runRaw s.setting a raw) (s.setSlot a .evaluating) r t
      ∧ s.evaluateCell a = (.ok (valueOf r), t.setSlot a (.evaluated (valueOf r))) := by
  obtain ⟨cell, hget, rfl⟩ := Option.map_eq_some_iff.mp hraw
  obtain ⟨r, t, hformula, hcompute⟩ := exists_runs_computeWith a cell.raw s
  refine ⟨r, t, hformula, ?_⟩
  rw [evaluateCell, hget]
  dsimp only
  rw [hcompute]

/-- **To evaluate a cell that runs code** is to gather the values of the cells
that the code names and to ask the host. -/
theorem evaluateCell_of_askHost {s : Sheet} {a : Address} {raw : String} {code : List Char}
    (hraw : s.raw? a = some raw) (hplan : runRaw s.setting a raw = askHost s.setting a code)
    {values : List (Address × CellValue)} {t : Sheet}
    (hgather : gather (mentions code) (s.setSlot a .evaluating) = (values, t)) :
    s.evaluateCell a
      = ((.ok (conclude a (s.host.run code ⟨a, values, s.tempo, s.time⟩) t).1),
          (conclude a (s.host.run code ⟨a, values, s.tempo, s.time⟩) t).2) := by
  obtain ⟨r₁, s₁, hformula, hevaluate⟩ := exists_runs_evaluateCell hraw
  have hgathered := runs_gather (mentions code) (s.setSlot a .evaluating)
  rw [hgather] at hgathered
  rw [hplan] at hformula
  rw [hevaluate]
  cases hanswer : s.host.run code ⟨a, values, s.tempo, s.time⟩ with
  | error message =>
    have hrun : Runs (askHost s.setting a code) (s.setSlot a .evaluating)
        (.error (.external message)) t := by
      refine hgathered.bind rfl ?_
      show Runs (match s.host.run code ⟨a, values, s.tempo, s.time⟩ with
        | .error message => _
        | .ok outcome => _) _ _ _
      rw [hanswer]
      exact .fail _ t
    obtain ⟨rfl, rfl⟩ := Prod.mk.inj (hformula.perform_eq.symm.trans hrun.perform_eq)
    rfl
  | ok outcome =>
    have hrun : Runs (askHost s.setting a code) (s.setSlot a .evaluating) (.ok outcome.value)
        { t with writes := t.writes ++ outcome.writes, events := t.events ++ outcome.events } := by
      refine hgathered.bind rfl ?_
      show Runs (match s.host.run code ⟨a, values, s.tempo, s.time⟩ with
        | .error message => _
        | .ok outcome => _) _ _ _
      rw [hanswer]
      exact .emit (.done _ _)
    obtain ⟨rfl, rfl⟩ := Prod.mk.inj (hformula.perform_eq.symm.trans hrun.perform_eq)
    rfl

/-- A lookup of a cell that is not evaluated evaluates it. -/
theorem lookup_eq_evaluateCell {s : Sheet} {a : Address} (h : s.slot? a = some .unevaluated) :
    s.lookup a = s.evaluateCell a := by
  obtain ⟨raw, hraw⟩ : ∃ raw, s.raw? a = some raw := by
    rw [← Option.isSome_iff_exists, ← isSome_slot?, h]
    rfl
  obtain ⟨r₁, s₁, hformula, hevaluate⟩ := exists_runs_evaluateCell hraw
  have hrun : Runs (Plan.lookup a) s (.ok (valueOf r₁)) _ := .fresh h hraw hformula (.done _ _)
  rw [hevaluate, lookup_eq_perform, hrun.perform_eq]

/-- **A cell hands code to the host**, with the values of some cells, and leaves
another sheet. -/
structure HandsOver (s : Sheet) (a : Address) (code : List Char)
    (values : List (Address × CellValue)) (t : Sheet) : Prop where
  /-- The cells that the code names are looked up, one after the other, and no
  others. -/
  gathered : gather (mentions code) (s.setSlot a .evaluating) = (values, t)
  /-- The values are those of the cells that the code names. -/
  named : ∀ cell, cell ∈ values.map Prod.fst ↔ Names code cell
  /-- There is one value for each of them. -/
  nodup : (values.map Prod.fst).Nodup
  /-- It is the value that the cell has been given, or the error why it has
  none. -/
  shown : ∀ cell v, (cell, v) ∈ values → (s.setSlot a .evaluating).Shows t cell v
  /-- The answer of the host to the code with these values is what the cell
  comes to. -/
  asked : s.evaluateCell a
    = ((.ok (conclude a (s.host.run code ⟨a, values, s.tempo, s.time⟩) t).1),
        (conclude a (s.host.run code ⟨a, values, s.tempo, s.time⟩) t).2)
  /-- It is the only answer that counts of those which the host could give on
  behalf of the cell: if another host answers alike on behalf of all other
  cells, then the values are the same, and it is asked for the same code. -/
  once : ∀ host : Host,
    (∀ code scope, scope.caller ≠ a → host.run code scope = s.host.run code scope) →
      ({ s with host := host } : Sheet).evaluateCell a
        = ((.ok (conclude a (host.run code ⟨a, values, s.tempo, s.time⟩)
              { t with host := host }).1),
            (conclude a (host.run code ⟨a, values, s.tempo, s.time⟩)
              { t with host := host }).2)

/-- **A script reaches the host as it is written**, with the values of the cells
that it names. The cell may be evaluated for itself or because another one asks
for it. -/
theorem handsOver_scriptCall {s : Sheet} {a : Address} {c text : List Char} (hcode : IsCode c)
    (htext : IsScriptCall c text) (hraw : s.raw? a = some (String.ofList ('=' :: text))) :
    (∃ values t, s.HandsOver a (trim c) values t)
      ∧ (s.slot? a = some .unevaluated → s.lookup a = s.evaluateCell a) := by
  have hplan (setting : Setting) :
      runRaw setting a (String.ofList ('=' :: text)) = askHost setting a (trim c) := by
    rw [runRaw_of_body? setting a (body?_ofList text)]
    exact runWithin_scriptCall setting a 9 (isCode_iff.mp hcode).2.1 htext
  have hmark : (s.setSlot a .evaluating).slot? a = some .evaluating := by
    rw [slot?_setSlot, if_pos rfl]
    have hin : (s.slot? a).isSome := by rw [isSome_slot?, hraw]; rfl
    obtain ⟨slot, hslot⟩ := Option.isSome_iff_exists.mp hin
    rw [hslot]
    rfl
  refine ⟨⟨_, _, rfl, ?_, ?_, shows_gather _ _, evaluateCell_of_askHost hraw (hplan _) rfl,
    fun host hhost => ?_⟩, lookup_eq_evaluateCell⟩
  · intro cell
    rw [fst_gather, mem_mentions_iff]
  · rw [fst_gather]
    exact nodup_mentions _
  · exact evaluateCell_of_askHost (s := { s with host := host }) hraw (hplan _)
      (gather_withHost hmark hhost _)

/-- A host that answers with the code, and with a star for each value. -/
def echoHost : Host :=
  ⟨fun code scope =>
    .ok ⟨.text (String.ofList (code ++ List.replicate scope.values.length '*')), [], []⟩⟩

/-- A script that is spread out, with a comma and a parenthesis in quotes, next
to a cell that it names and one that it names in another way. -/
def spreadOut : Sheet :=
  (Sheet.new 0 0 echoHost).setRows [["= js ( getValue( \"B1\" ),\n  [\"C1)\"]\t)", "x", "y"]]

/-- The host is given the whole code, and the value of the first one. -/
theorem handsOver_spreadOut : ∃ t,
    spreadOut.HandsOver ⟨0, 0⟩ "getValue( \"B1\" ),\n  [\"C1)\"]".toList [(⟨0, 1⟩, .text "x")] t
      ∧ (spreadOut.lookup ⟨0, 0⟩).1 = .ok (.text "getValue( \"B1\" ),\n  [\"C1)\"]*") := by
  have htext : IsScriptCall " getValue( \"B1\" ),\n  [\"C1)\"]\t".toList
      " js ( getValue( \"B1\" ),\n  [\"C1)\"]\t)".toList :=
    ⟨"js".toList, by decide,
      @IsCallOf.intro _ _ [' '] [' '] [] isBlank_of_mem_space isBlank_of_mem_space nofun⟩
  have hraw : spreadOut.raw? ⟨0, 0⟩
      = some (String.ofList ('=' :: " js ( getValue( \"B1\" ),\n  [\"C1)\"]\t)".toList)) := by
    decide +kernel
  obtain ⟨⟨values, t, h⟩, hlookup⟩ := handsOver_scriptCall (by decide) htext hraw
  have hvalues : values = [(⟨0, 1⟩, .text "x")] :=
    (congrArg Prod.fst h.gathered).symm.trans (by decide +kernel)
  subst hvalues
  refine ⟨t, h, ?_⟩
  rw [hlookup (by decide +kernel), h.asked]
  rfl

end Sheet

end SoundSheet
