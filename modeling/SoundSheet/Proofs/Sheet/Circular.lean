import SoundSheet.Proofs.Sheet.Orderly
import SoundSheet.Proofs.Sheet.Refusals

/-!
# Circular references

On a grid without scripts a pass refuses a lookup if and only if some cell of
the grid is not well-founded, that is, if its plain evaluation does not end.

If no lookup is refused, then all values that are stored on the way are plain
values, with the very buses that the pass opens, and in the end every cell has
one (`Runs.exists_evaluates`). If, on the other hand, all cells are
well-founded, then the run asks for what plain evaluation asks for, and never
comes back to a cell that is being computed, since a cell that has a plain value
is not among its own reads (`Runs.unrefused`).

The main statement adds to this what is known of each single refusal
(`circularReferences_pass`).
-/

namespace SoundSheet

open SoundSheet.Script SoundSheet.Formula SoundSheet.Sheet

/-- A formula without scripts does not tell buses apart. -/
theorem matches_run_of_not_callsScript (setting : Setting) (caller : Address) {body : List Char}
    (hbody : ¬CallsScript body) : (run setting caller body).Matches AnyBus
      (CellValue.Matches AnyBus) (run setting caller body) := by
  -- with another host, which does not, the run is the same
  obtain ⟨plain, hhost, htempo, htime⟩ : ∃ plain : Setting, plain.host.IgnoresBuses
      ∧ setting.tempo = plain.tempo ∧ setting.time = plain.time :=
    ⟨⟨setting.tempo, setting.time, plainHost⟩, respects_plainHost AnyBus, rfl, rfl⟩
  have hplan : run setting caller body = run plain caller body :=
    (direct_runWithin htempo htime caller maxNesting hbody).eq
  rw [hplan]
  exact matches_run hhost caller body

/-- Neither do the cells of a grid without scripts. -/
theorem ignoreBuses_of_scriptFree {setting : Setting} {texts : Address → Option String}
    (hfree : ∀ a raw, texts a = some raw → ScriptFree raw) : IgnoreBuses setting texts := by
  intro a raw hraw
  cases hbody : body? raw with
  | some body =>
    rw [runRaw_of_body? setting a hbody]
    exact matches_run_of_not_callsScript setting a (hfree a raw hraw body hbody)
  | none =>
    rw [runRaw_of_body?_eq_none setting a hbody]
    exact .done (.plain (bus?_literal raw))

namespace Descent

variable {α β : Type} (K : Place α β) {s : Sheet}

theorem Place.asks_put (p : Plan β) : (K.put p s).asks = p.asks := by
  cases K <;> rfl

theorem Place.sheet_put (p : Plan β) : (K.put p s).sheet = s := by
  cases K <;> rfl

theorem Place.refuses_put_iff {p : Plan β} {x : Address} :
    (K.put p s).Refuses x ↔ p.asks = some x ∧ s.slot? x = some .evaluating := by
  rw [refuses_iff, asks_put, sheet_put]

/-- A lookup of a cell that is not marked is not refused. -/
theorem Place.not_refuses_put {p : Plan β}
    (h : ∀ x, p.asks = some x → s.slot? x ≠ some .evaluating) (x : Address) :
    ¬(K.put p s).Refuses x :=
  fun hrefuses => h x (K.refuses_put_iff.mp hrefuses).1 (K.refuses_put_iff.mp hrefuses).2

end Descent

/-! ## No refusal -/

namespace Sheet

/-- **The values that cells have are plain values.** -/
def HasPlain (setting : Setting) (texts : Address → Option String) (s : Sheet) : Prop :=
  ∀ a v, s.slot? a = some (.evaluated v) → ∃ reads, PlainValue setting texts a v reads

variable {setting : Setting} {texts : Address → Option String} {s : Sheet}

theorem AllUnevaluated.hasPlain (h : s.AllUnevaluated) : HasPlain setting texts s := by
  intro a v hv
  cases h a _ hv

theorem HasPlain.mark (h : HasPlain setting texts s) (a : Address) :
    HasPlain setting texts (s.setSlot a .evaluating) :=
  fun b v hb => h b v (slot?_evaluated_of_mark hb)

theorem HasPlain.store (h : HasPlain setting texts s) {a : Address} {v : CellValue}
    {reads : List Address} (hv : PlainValue setting texts a v reads) :
    HasPlain setting texts (s.setSlot a (.evaluated v)) := by
  intro b w hb
  rcases slot?_evaluated_of_store hb with ⟨rfl, rfl⟩ | ⟨-, hb⟩
  · exact ⟨reads, hv⟩
  · exact h b w hb

end Sheet

/-- **A run without a refusal is plain evaluation**, and stores plain values. -/
theorem Runs.exists_evaluates {setting : Setting} {texts : Address → Option String} {β : Type}
    {p : Plan β} {s t : Sheet} {r : Except FormulaError β} (h : Runs p s r t) :
    ∀ {α : Type} (K : Descent.Place α β),
      (∀ d x, Descent.Steps (K.put p s) d → ¬d.Refuses x) → s.setting = setting →
        (∀ a, s.raw? a = texts a) → HasPlain setting texts s →
          HasPlain setting texts t ∧ ∃ reads, Evaluates setting texts p r reads := by
  induction h with
  | done a s => exact fun K _ _ _ hs => ⟨hs, [], .done a⟩
  | fail e s => exact fun K _ _ _ hs => ⟨hs, [], .fail e⟩
  | outside hcell _ ih =>
    intro α K hclean hsetting htexts hs
    obtain ⟨ht, reads, hreads⟩ := ih K (fun d x hd => hclean d x
      (.head (K.step_moved (Plan.advance_outside hcell)) hd)) hsetting htexts hs
    rw [slot?_eq_none_iff, htexts] at hcell
    exact ⟨ht, _, .outside hcell hreads⟩
  | marked hcell _ _ =>
    intro α K hclean hsetting htexts hs
    exact absurd (K.refuses_put_iff.mpr ⟨rfl, hcell⟩) (hclean _ _ .refl)
  | known hcell _ ih =>
    intro α K hclean hsetting htexts hs
    obtain ⟨ht, reads, hreads⟩ := ih K (fun d x hd => hclean d x
      (.head (K.step_moved (Plan.advance_known hcell)) hd)) hsetting htexts hs
    obtain ⟨reads₁, raw, r₁, hraw, hr₁, rfl⟩ := hs _ _ hcell
    exact ⟨ht, _, .inside hraw hr₁ hreads⟩
  | @fresh _ cell next s s₁ _ _ raw r₁ hcell hraw hformula _ ihformula ihnext =>
    intro α K hclean hsetting htexts hs
    have hmark := (hformula.fills.slot?_evaluating_iff cell).mpr (slot?_setSlot_self _ hcell)
    have hfills := hformula.fills.setSlot hcell (valueOf r₁)
    have hwaits : (Plan.read cell next).advance s = _ := Plan.advance_waits hcell hraw
    obtain ⟨hs₁, reads₁, hreads₁⟩ := ihformula (K.above (.read cell next) cell)
      (fun d x hd => hclean d x (.head (K.step_waits hwaits) hd))
      hsetting (fun a => (raw?_setSlot ..).trans (htexts a)) (hs.mark cell)
    have hcelltext : texts cell = some raw := (htexts cell).symm.trans hraw
    have hformula' : Evaluates setting texts (runRaw setting cell raw) r₁ reads₁ :=
      hsetting ▸ hreads₁
    have hstored := hs₁.store ⟨raw, r₁, hcelltext, hformula', rfl⟩
    have habove := hformula.steps (K.above (.read cell next) cell)
    obtain ⟨ht, reads, hreads⟩ := ihnext K
      (fun d x hd => hclean d x ((K.steps_fresh hcell hraw hmark habove).trans hd))
      (hfills.setting.trans hsetting) (fun a => (hfills.raw a).trans (htexts a)) hstored
    exact ⟨ht, _, .inside hcelltext hformula' hreads⟩
  | @openBus _ _ s _ _ _ ih =>
    intro α K hclean hsetting htexts hs
    obtain ⟨ht, reads, hreads⟩ :=
      ih K (fun d x hd => hclean d x (.head (K.step_moved rfl) hd)) hsetting htexts hs
    exact ⟨ht, reads, .openBus s.board.fresh hreads⟩
  | emit _ ih =>
    intro α K hclean hsetting htexts hs
    obtain ⟨ht, reads, hreads⟩ :=
      ih K (fun d x hd => hclean d x (.head (K.step_moved rfl) hd)) hsetting htexts hs
    exact ⟨ht, reads, .emit hreads⟩

/-! ## No cycle -/

namespace Descent

variable {α : Type}

/-- **Any number of steps, none of which makes a lookup that is refused**. -/
abbrev Unrefused : Descent α → Descent α → Prop :=
  Relation.ReflTransGen fun d d' => d.step = some d' ∧ ∀ x, ¬d.Refuses x

/-- So no lookup is refused at all, if none is at the end. -/
theorem Unrefused.not_refuses {d e : Descent α} (h : Unrefused d e) (hend : e.step = none)
    (hasks : e.asks = none) : ∀ {d' : Descent α} (x : Address), Steps d d' → ¬d'.Refuses x := by
  induction h using Relation.ReflTransGen.head_induction_on with
  | refl =>
    intro d' x hsteps hrefuses
    rcases hsteps.cases_head with rfl | ⟨d₁, hstep, -⟩
    · exact nomatch hasks.symm.trans (refuses_iff.mp hrefuses).1
    · exact nomatch hend.symm.trans hstep
  | head hstep _ ih =>
    intro d' x hsteps
    rcases hsteps.cases_head with rfl | ⟨d₁, hstep₁, hsteps₁⟩
    · exact hstep.2 x
    · obtain rfl := Option.some.inj (hstep.1.symm.trans hstep₁)
      exact ih x hsteps₁

end Descent

/-- **A plan that has a plain meaning and meets no mark is refused nothing.** -/
theorem Runs.unrefused {setting : Setting} {texts : Address → Option String}
    (hbuses : IgnoreBuses setting texts) {β : Type} {p : Plan β} {s t : Sheet}
    {r : Except FormulaError β} (h : Runs p s r t) :
    ∀ {γ : Type} {A : β → γ → Prop} {q : Plan γ} {r' : Except FormulaError γ}
      {reads : List Address}, p.Matches AnyBus A q → Evaluates setting texts q r' reads →
        (∀ a ∈ reads, s.slot? a ≠ some .evaluating) → Faithful setting texts s →
          ∀ {α : Type} (K : Descent.Place α β),
            Descent.Unrefused (K.put p s) (K.put (.ofExcept r) t) := by
  induction h with
  | done a s =>
    intros
    exact .refl
  | fail e s =>
    intros
    exact .refl
  | outside hcell _ ih =>
    intro γ A q r' reads hmatch hplain hmarks hs α K
    refine .head ⟨K.step_moved (Plan.advance_outside hcell),
      K.not_refuses_put fun x hx hmark => ?_⟩ ?_
    · cases hx
      exact nomatch hcell.symm.trans hmark
    · cases hmatch with
      | read cell hnext =>
        cases hplain with
        | outside _ hnext' =>
          exact ih (hnext _ _ (.error _)) hnext'
            (fun a ha => hmarks a (List.mem_cons_of_mem _ ha)) hs K
        | inside hcell' _ _ =>
          rw [slot?_eq_none_iff, hs.raw_eq, hcell'] at hcell
          exact nomatch hcell
  | marked hcell _ _ =>
    intro γ A q r' reads hmatch hplain hmarks hs α K
    cases hmatch with
    | read cell hnext =>
      cases hplain with
      | outside => exact absurd hcell (hmarks _ List.mem_cons_self)
      | inside => exact absurd hcell (hmarks _ List.mem_cons_self)
  | known hcell _ ih =>
    intro γ A q r' reads hmatch hplain hmarks hs α K
    refine .head ⟨K.step_moved (Plan.advance_known hcell),
      K.not_refuses_put fun x hx hmark => ?_⟩ ?_
    · cases hx
      exact nomatch hcell.symm.trans hmark
    · cases hmatch with
      | read cell hnext =>
        cases hplain with
        | outside hcell' _ =>
          rw [← hs.raw_eq, ← slot?_eq_none_iff, hcell] at hcell'
          exact nomatch hcell'
        | inside hcell' hformula' hnext' =>
          have hv := hs.value _ _ _ _ hcell ⟨_, _, hcell', hformula', rfl⟩
          refine ih (hnext _ _ (.ok hv)) hnext' (fun a ha => hmarks a ?_) hs K
          exact List.mem_cons_of_mem _ (List.mem_append_right _ ha)
  | @fresh _ cell next s s₁ _ _ raw r₁ hcell hraw hformula _ ihformula ihnext =>
    intro γ A q r' reads hmatch hplain hmarks hs α K
    cases hmatch with
    | read cell hnext =>
      cases hplain with
      | outside hcell' _ =>
        rw [← hs.raw_eq, ← slot?_eq_none_iff, hcell] at hcell'
        exact nomatch hcell'
      | @inside _ _ _ _ raw' r₁' reads₁ reads₂ hcell' hformula' hnext' =>
        obtain rfl : raw = raw' := Option.some.inj (hraw.symm.trans ((hs.raw_eq _).trans hcell'))
        have hmark := (hformula.fills.slot?_evaluating_iff cell).mpr
          (slot?_setSlot_self _ hcell)
        have hstored := slot?_setSlot_self (.evaluated (valueOf r₁)) hmark
        have hmarks₁ : ∀ a ∈ reads₁, s.slot? a ≠ some .evaluating := fun a ha =>
          hmarks a (List.mem_cons_of_mem _ (List.mem_append_left _ ha))
        have hplain₁ : PlainValue setting texts cell (valueOf r₁') reads₁ :=
          ⟨raw, r₁', hcell', hformula', rfl⟩
        have habove := ihformula (hs.matches_runRaw hbuses hcell') hformula'
          (hplain₁.unmarked hbuses hmarks₁) (hs.mark cell) (K.above (.read cell next) cell)
        -- the lookup of the cell stores a plain value
        have hlookup : Runs (Plan.lookup cell) s (.ok (valueOf r₁)) _ :=
          .fresh hcell hraw hformula (.done _ _)
        obtain ⟨hv, hs₂⟩ := hlookup.agrees hbuses (.lookup cell)
          (.inside hcell' hformula' (.done _)) (fun a ha => by
            rcases List.mem_cons.mp ha with rfl | ha
            · exact hmarks a List.mem_cons_self
            · rw [List.append_nil] at ha
              exact hmarks₁ a ha) hs
        have hrest := ihnext (hnext _ _ hv) hnext' (fun a ha => by
          rw [Ne, (hformula.fills.setSlot hcell _).slot?_evaluating_iff]
          exact hmarks a (List.mem_cons_of_mem _ (List.mem_append_right _ ha))) hs₂ K
        refine .head ⟨K.step_waits (Plan.advance_waits hcell hraw), K.not_refuses_put ?_⟩
          (habove.trans (.head ⟨K.step_ended cell r₁, Descent.Place.not_refuses_put _ ?_⟩
            (.head ⟨K.step_moved (Plan.advance_known hstored), K.not_refuses_put ?_⟩ hrest)))
        · intro x hx hx'
          cases hx
          exact nomatch hcell.symm.trans hx'
        · intro x hx
          cases r₁ <;> exact nomatch hx
        · intro x hx hx'
          cases hx
          exact nomatch hstored.symm.trans hx'
  | openBus _ ih =>
    intro γ A q r' reads hmatch hplain hmarks hs α K
    refine .head ⟨K.step_moved rfl, K.not_refuses_put fun x hx => nomatch hx⟩ ?_
    cases hmatch with
    | openBus hnext =>
      cases hplain with
      | openBus bus hnext' =>
        exact ih (hnext _ _ trivial) hnext' hmarks ⟨hs.setting_eq, hs.raw_eq, hs.value⟩ K
  | emit _ ih =>
    intro γ A q r' reads hmatch hplain hmarks hs α K
    refine .head ⟨K.step_moved rfl, K.not_refuses_put fun x hx => nomatch hx⟩ ?_
    cases hmatch with
    | emit _ _ hnext =>
      cases hplain with
      | emit hnext' => exact ih hnext hnext' hmarks ⟨hs.setting_eq, hs.raw_eq, hs.value⟩ K

/-! ## Passes -/

theorem matches_visit_self (cells : List Address) :
    (Plan.visit cells).Matches AnyBus Eq (Plan.visit cells) := by
  induction cells with
  | nil => exact .done rfl
  | cons a cells ih => exact .read a fun _ _ _ => ih

/-- If all cells are well-founded, the plain evaluation of all of them ends. -/
theorem exists_evaluates_visit {setting : Setting} {texts : Address → Option String}
    (hwf : ∀ a, (texts a).isSome → WellFounded setting texts a) (cells : List Address) :
    ∃ reads, Evaluates setting texts (Plan.visit cells) (.ok ()) reads := by
  induction cells with
  | nil => exact ⟨[], .done ()⟩
  | cons a cells ih =>
    obtain ⟨reads, hreads⟩ := ih
    cases htext : texts a with
    | none => exact ⟨_, .outside htext hreads⟩
    | some raw =>
      obtain ⟨v, reads₁, raw', r₁, hraw, hr₁, -⟩ := hwf a (by rw [htext]; rfl)
      exact ⟨_, .inside hraw hr₁ hreads⟩

namespace Sheet

variable (s : Sheet)

/-- **A pass in which no lookup is refused** shows that all cells are
well-founded. -/
theorem wellFounded_of_not_refuses
    (hclean : ∀ d x, Descent.Steps (Descent.ofPass s) d → ¬d.Refuses x) {a : Address}
    (ha : (s.raw? a).isSome) : WellFounded s.setting s.raw? a := by
  obtain ⟨hplain, -⟩ := s.runs_pass.exists_evaluates .bottom hclean rfl s.raw?_forgetValues
    s.allUnevaluated_forgetValues.hasPlain
  obtain ⟨v, hv⟩ := hasValue_pass ha
  obtain ⟨reads, hreads⟩ := hplain a v hv
  exact ⟨v, reads, hreads⟩

/-- **If all cells are well-founded**, a pass refuses no lookup. -/
theorem not_refuses_of_wellFounded (hfree : ∀ a raw, s.raw? a = some raw → ScriptFree raw)
    (hwf : ∀ a, (s.raw? a).isSome → WellFounded s.setting s.raw? a) (d : Descent Unit)
    (x : Address) (hd : Descent.Steps (Descent.ofPass s) d) : ¬d.Refuses x := by
  obtain ⟨reads, hreads⟩ := exists_evaluates_visit hwf s.grid.addresses
  have hfaithful : Faithful s.setting s.raw? s.forgetValues :=
    ⟨rfl, s.raw?_forgetValues, fun a v w reads hv _ => nomatch s.allUnevaluated_forgetValues a _ hv⟩
  have hpath := s.runs_pass.unrefused (ignoreBuses_of_scriptFree hfree)
    (matches_visit_self s.grid.addresses) hreads (fun a _ => s.atRest_forgetValues a) hfaithful
    .bottom
  exact hpath.not_refuses rfl rfl x hd

/-- **Circular references are reported exactly.** On a grid without scripts, a
pass is a descent that ends. At each moment of it the lookup that is made next
is refused for a circular reference at `x` if and only if it is a lookup of `x`
and `x` is being computed; and then from `x` the reads lead to the cell that
makes the lookup, which reads `x`, and this cell is stored as an error of kind
reference with the name of `x`. And there is such a lookup if and only if some
cell of the grid is not well-founded. -/
theorem circularReferences_pass (hfree : ∀ a raw, s.raw? a = some raw → ScriptFree raw) :
    (Descent.ofPass s).Terminates (.ok ()) s.pass
      ∧ (∀ d, Descent.Steps (Descent.ofPass s) d → ∀ y x, d.asks = some y →
          ((d.sheet.lookup y).1 = .error (.circularReference x) ↔ y = x ∧ x ∈ d.active))
      ∧ (∀ d, Descent.Steps (Descent.ofPass s) d → ∀ x, d.Refuses x →
          ∃ reader e, d.active.head? = some reader
            ∧ Relation.ReflTransGen d.Reads x reader ∧ d.Reads reader x
            ∧ s.pass.value? reader = some (.error e) ∧ e.kind = .reference
            ∧ e.message = "Circular reference detected at " ++ x.toText)
      ∧ ((∃ d x, Descent.Steps (Descent.ofPass s) d ∧ d.Refuses x)
          ↔ ∃ a, (s.raw? a).isSome ∧ ¬WellFounded s.setting s.raw? a) := by
  have hend := Descent.terminates_ofPass s
  have hcoherent : ∀ d, Descent.Steps (Descent.ofPass s) d → d.Coherent s.forgetValues.raw? := by
    intro d hd
    refine Descent.Coherent.steps (fun a raw hraw => hfree a raw ?_) (.start _ ?_) hd
    · rwa [raw?_forgetValues] at hraw
    · exact s.atRest_forgetValues
  refine ⟨hend, fun d hd y x _ => (hcoherent d hd).lookup_eq_circularReference_iff y x,
    fun d hd x hrefuses => ?_, fun h => ?_, fun h => ?_⟩
  · obtain ⟨reader, hreader, hchain, hback⟩ := (hcoherent d hd).exists_cycle_of_refuses hrefuses
    have hstored := (hcoherent d hd).stored_of_refuses hrefuses hreader hd hend
    refine ⟨reader, (FormulaError.circularReference x).toCellError, hreader, hchain, hback, ?_,
      rfl, rfl⟩
    exact value?_eq_some_iff.mpr hstored
  · obtain ⟨d, x, hd, hrefuses⟩ := h
    by_contra hnone
    refine s.not_refuses_of_wellFounded hfree (fun a ha => ?_) d x hd hrefuses
    by_contra hwf
    exact hnone ⟨a, ha, hwf⟩
  · obtain ⟨a, ha, hwf⟩ := h
    by_contra hnone
    exact hwf (s.wellFounded_of_not_refuses (fun d x hd hrefuses => hnone ⟨d, x, hd, hrefuses⟩) ha)

/-- Two cells that read each other, next to a number. -/
def twoCycle : Sheet :=
  (Sheet.new 0 0 plainHost).setRows [["=B1", "=A1", "2"]]

/-- The first cell is asked for first, so the second one is refused it. -/
theorem circularReferences_twoCycle :
    (∀ a raw, twoCycle.raw? a = some raw → ScriptFree raw)
      ∧ (∃ a, (twoCycle.raw? a).isSome ∧ ¬WellFounded twoCycle.setting twoCycle.raw? a)
      ∧ ∃ e, twoCycle.pass.value? ⟨0, 1⟩ = some (.error e) ∧ e.kind = .reference
          ∧ e.message = "Circular reference detected at A1" := by
  have hfree : ∀ a raw, twoCycle.raw? a = some raw → ScriptFree raw := by
    intro a raw hraw body hbody
    rw [raw?, ← Grid.get?_map] at hraw
    obtain ⟨row, hrow, hmem⟩ := Option.bind_eq_some_iff.mp hraw
    have hrow : row = ["=B1", "=A1", "2"] := List.mem_singleton.mp (List.mem_of_getElem? hrow)
    have hmem := List.mem_of_getElem? (hrow ▸ hmem)
    simp only [List.mem_cons, List.not_mem_nil, or_false] at hmem
    obtain rfl | rfl | rfl := hmem
    · obtain rfl := Option.some.inj hbody
      refine not_callsScript (by decide) fun s hs source hcall => ?_
      obtain rfl : s = ['B', '1'] := List.mem_singleton.mp hs
      cases hcall
    · obtain rfl := Option.some.inj hbody
      refine not_callsScript (by decide) fun s hs source hcall => ?_
      obtain rfl : s = ['A', '1'] := List.mem_singleton.mp hs
      cases hcall
    · cases hbody
  obtain ⟨-, -, hcycle, hiff⟩ := circularReferences_pass twoCycle hfree
  -- after two steps the second cell asks for the first one
  obtain ⟨d, hd, hactive, hrefuses⟩ : ∃ d, Descent.Steps (Descent.ofPass twoCycle) d
      ∧ d.active.head? = some ⟨0, 1⟩ ∧ d.Refuses ⟨0, 0⟩ :=
    ⟨_, .head rfl (.head rfl .refl), rfl, Descent.refuses_iff.mpr ⟨rfl, rfl⟩⟩
  obtain ⟨reader, e, hreader, -, -, hstored, hkind, hmessage⟩ := hcycle d hd ⟨0, 0⟩ hrefuses
  obtain rfl := Option.some.inj (hactive.symm.trans hreader)
  exact ⟨hfree, hiff.mp ⟨d, _, hd, hrefuses⟩, e, hstored, hkind, hmessage.trans (by decide +kernel)⟩

end Sheet

end SoundSheet
