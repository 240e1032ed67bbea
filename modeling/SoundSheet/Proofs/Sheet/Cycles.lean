import SoundSheet.Proofs.Formula.Relaying
import SoundSheet.Proofs.Sheet.Chronicle
import SoundSheet.Script.Language

/-!
# Cycles of reads

During a pass over a grid without scripts some cells may read each other in a
circle. On such a cycle at least one read is refused, and the cell that has made
it ends as an error. For if none were, each cell of the cycle would have its
value while the one that reads it is still being computed (`Descent.Outlives`),
and therefore the first one while it is being computed itself.

How far the error spreads depends on the reads. A formula fails with the error
of a cell unless it coerces or inspects that cell, and it fails for another
reason if it inspects it. So if no formula of the cycle coerces the next cell,
all of the cells end as errors, and all as errors of kind reference if none
inspects it either (`circularErrors_pass`). A cell that coerces the next one may
end with a value.
-/

namespace SoundSheet

open SoundSheet.Script SoundSheet.Formula SoundSheet.Sheet

/-! ## Chains -/

/-- **Along a chain** of members that are related by `P` or by the transitive
`Q`, there are two neighbours that are related by `P`, or the first is related
to the last one by `Q`. -/
theorem exists_infix_or_of_isChain {α : Type} {P Q : α → α → Prop}
    (htrans : ∀ {x y z}, Q x y → Q y z → Q x z) (between : List α) {first last : α}
    (h : (first :: (between ++ [last])).IsChain fun x y => P x y ∨ Q x y) :
    (∃ x y, [x, y] <:+: first :: (between ++ [last]) ∧ P x y) ∨ Q first last := by
  induction between generalizing first with
  | nil =>
    obtain ⟨hpair, -⟩ := List.isChain_cons_cons.mp h
    exact hpair.imp_left fun hP => ⟨first, last, List.infix_rfl, hP⟩
  | cons second between ih =>
    obtain ⟨hpair, hrest⟩ := List.isChain_cons_cons.mp h
    rcases hpair with hP | hQ
    · exact .inl ⟨first, second, ⟨[], between ++ [last], rfl⟩, hP⟩
    · rcases ih hrest with ⟨x, y, hbeside, hP⟩ | hQ'
      · exact .inl ⟨x, y, hbeside.trans (List.suffix_cons _ _).isInfix, hP⟩
      · exact .inr (htrans hQ hQ')

/-- **What spreads against the direction of a cycle** reaches all of it from
anywhere. -/
theorem forall_of_isChain_cycle {α : Type} {p : α → Prop} {first : α} {rest : List α}
    (h : (first :: (rest ++ [first])).IsChain fun x y => p y → p x) {x : α}
    (hmem : x ∈ first :: (rest ++ [first])) (hx : p x) : ∀ y ∈ first :: rest, p y := by
  -- from `x` it spreads to the first cell, which is the last one as well
  have hfirst : p first := by
    obtain ⟨before, after, heq⟩ := List.append_of_mem hmem
    rw [heq, show before ++ x :: after = (before ++ [x]) ++ after by simp] at h
    have hbefore := h.left_of_append.backwards_concat_induction p _ (fun _ _ hpair => hpair) hx
    cases before with
    | nil =>
      obtain rfl : first = x := (List.cons.inj heq).1
      exact hx
    | cons y before =>
      obtain rfl : first = y := (List.cons.inj heq).1
      exact hbefore first List.mem_cons_self
  rw [← List.cons_append] at h
  exact h.backwards_concat_induction p _ (fun _ _ hpair => hpair) hfirst

/-! ## Grids without calls of scripts -/

/-- An argument that is a call is written as one. -/
theorem Formula.Argument.isCall_of_ofText_eq_call {s source : List Char}
    (h : Argument.ofText s = .call source) : isCall s := by
  unfold Argument.ofText at h
  split at h
  · exact nomatch h
  · split at h
    · exact nomatch h
    · split at h
      · exact nomatch h
      · split at h
        · assumption
        · exact nomatch h

/-- A raw text is in one of the rows. -/
theorem Sheet.exists_mem_rawRows {s : Sheet} {a : Address} {raw : String}
    (h : s.raw? a = some raw) : ∃ row ∈ s.rawRows, raw ∈ row := by
  rw [raw?, ← Grid.get?_map] at h
  obtain ⟨row, hrow, hmem⟩ := Option.bind_eq_some_iff.mp h
  exact ⟨row, List.mem_of_getElem? hrow, List.mem_of_getElem? hmem⟩

/-- **A grid is without scripts** if none of its formulas is a call of one, and
no argument is written as a call. -/
theorem Sheet.scriptFree_of_rawRows {s : Sheet} (h : ∀ row ∈ s.rawRows, ∀ raw ∈ row,
      ∀ body ∈ body? raw, (tokenize body).head?.bind Builtin.find? ≠ some .script
        ∧ ∀ t ∈ operandTexts body, isCall t = false) (a : Address) (raw : String)
    (hraw : s.raw? a = some raw) : ScriptFree raw := by
  intro body hbody
  obtain ⟨row, hrow, hmem⟩ := exists_mem_rawRows hraw
  obtain ⟨hname, hargs⟩ := h row hrow raw hmem body hbody
  refine not_callsScript hname fun t ht source hcall => ?_
  exact Bool.false_ne_true ((hargs t ht).symm.trans (Argument.isCall_of_ofText_eq_call hcall))

/-! ## Plans that pass errors on -/

/-- **The plan fails on an error** of a cell: it asks for the cell next, and
fails if the value is an error. -/
def Plan.FailsOn {α : Type} (p : Plan α) (cell : Address) : Prop :=
  ∃ next, p = .read cell next ∧ ∀ e, ∃ e', next (.ok (.error e)) = .fail e'

/-- **The plan passes the error of a cell on**: it asks for the cell next, and
fails with the error if the value is one. -/
def Plan.PassesOn {α : Type} (p : Plan α) (cell : Address) : Prop :=
  ∃ next, p = .read cell next ∧ ∀ e, next (.ok (.error e)) = .fail (.referenced e)

namespace Plan.Relays

variable {α : Type} {C D : Address → Prop} {p p' : Plan α}

theorem failsOn (h : p.Relays C D) {cell : Address} (hasks : p.asks = some cell)
    (hC : ¬C cell) : p.FailsOn cell ∧ (¬D cell → p.PassesOn cell) := by
  cases h with
  | done _ | fail _ | openBus _ => exact nomatch hasks
  | read herror _ =>
    obtain rfl := Option.some.inj hasks
    replace herror := herror.resolve_left hC
    refine ⟨⟨_, rfl, fun e => ?_⟩, fun hD => ⟨_, rfl, fun e => ?_⟩⟩
    · obtain ⟨e', he, -⟩ := herror e
      exact ⟨e', he⟩
    · obtain ⟨e', he, hreferenced⟩ := herror e
      exact hreferenced.resolve_left hD ▸ he

/-- A plan that passes errors on goes on doing so. -/
theorem moved {s s' : Sheet} (h : p.Relays C D) (hmoved : p.advance s = .moved p' s') :
    p'.Relays C D := by
  rcases p.advance_eq_moved hmoved with ⟨cell, next, answer, rfl, rfl⟩ | ⟨next, bus, rfl, rfl⟩
    | ⟨writes, events, rfl⟩
  · cases h with
    | read _ hnext => exact hnext answer
  · cases h with
    | openBus hnext => exact hnext bus
  · cases h

end Plan.Relays

/-- A plan that goes on after a request has not had to wait for the cell. -/
theorem Plan.slot?_ne_unevaluated_of_moved {α : Type} {p p' : Plan α} {s s' : Sheet}
    {cell : Address} (hasks : p.asks = some cell) (hmoved : p.advance s = .moved p' s') :
    s.slot? cell ≠ some .unevaluated := by
  intro hslot
  cases p with
  | done _ | fail _ | openBus _ | emit _ _ _ => exact nomatch hasks
  | read cell' next =>
    obtain rfl : cell' = cell := Option.some.inj hasks
    obtain ⟨raw, hraw, -⟩ := get?_of_slot? hslot
    rw [advance_waits hslot hraw] at hmoved
    exact nomatch hmoved

namespace Descent

variable {α : Type} {d d' d₀ : Descent α} {texts : Address → Option String}

/-! ## What becomes of a read -/

/-- **A cell that reads another one is answered**: some time later it stands on
top of the stack with the same request, and the other cell is no longer
unevaluated. -/
theorem exists_answered {e : Descent α} (h : Steps d e) (hend : e.stack = [])
    {act : Activation} {b : Address} (hmem : act ∈ d.stack) (hasks : act.plan.asks = some b) :
    ∃ d' rest, Steps d d' ∧ d'.stack = act :: rest ∧ d'.sheet.slot? b ≠ some .unevaluated := by
  induction h using Relation.ReflTransGen.head_induction_on with
  | refl =>
    rw [hend] at hmem
    exact nomatch hmem
  | @head d d₁ hstep _ ih =>
    -- as long as the cell stays where it is, its request will be answered later
    have hlater : act ∈ d₁.stack → ∃ d' rest, Steps d d' ∧ d'.stack = act :: rest
        ∧ d'.sheet.slot? b ≠ some .unevaluated := by
      intro hmem'
      obtain ⟨d', rest, hsteps, hstack, hslot⟩ := ih hmem'
      exact ⟨d', rest, .head hstep hsteps, hstack, hslot⟩
    rcases step_inv hstep with ⟨p, s, hstack, -, -⟩ | ⟨top, rest, p, s, hstack, hmoved, -, rfl⟩
      | ⟨cell, raw, -, -, -, rfl⟩ | ⟨top, rest, r, hstack, hplan, rfl⟩
    · rw [hstack] at hmem
      exact nomatch hmem
    · rw [hstack] at hmem
      rcases List.mem_cons.mp hmem with rfl | hmem
      · exact ⟨d, rest, .refl, hstack, Plan.slot?_ne_unevaluated_of_moved hasks hmoved⟩
      · exact hlater (List.mem_cons_of_mem _ hmem)
    · exact hlater (List.mem_cons_of_mem _ hmem)
    · rw [hstack] at hmem
      rcases List.mem_cons.mp hmem with rfl | hmem
      · rw [hplan] at hasks
        cases r <;> exact nomatch hasks
      · exact hlater hmem

/-- **A cell is being computed when another one has its value**, at some moment
of a descent. -/
def Outlives (d₀ : Descent α) (a b : Address) : Prop :=
  ∃ d v, Steps d₀ d ∧ a ∈ d.active ∧ d.sheet.slot? b = some (.evaluated v)

namespace Outlives

variable {a b c : Address}

theorem irrefl (hd₀ : d₀.Stacked) : ¬d₀.Outlives a a := by
  rintro ⟨d, v, hd, hactive, hvalue⟩
  rw [(hd₀.steps hd).marked a hactive] at hvalue
  exact nomatch hvalue

/-- The cell in the middle has its value later than the last one, and no later
than the first one. -/
theorem trans (hd₀ : d₀.Stacked) (h : d₀.Outlives a b) (h' : d₀.Outlives b c) :
    d₀.Outlives a c := by
  obtain ⟨d₁, v, hd₁, ha, hb⟩ := h
  obtain ⟨d₂, w, hd₂, hb', hc⟩ := h'
  rcases steps_total hd₁ hd₂ with hlater | hlater
  · -- a cell that has its value is not computed again
    have hvalue := (hd₀.steps hd₁).slot?_evaluated_steps hlater hb
    rw [(hd₀.steps hd₂).marked b hb'] at hvalue
    exact nomatch hvalue
  · exact ⟨d₁, w, hd₁, ha, (hd₀.steps hd₂).slot?_evaluated_steps hlater hc⟩

end Outlives

namespace Coherent

section Read

variable (hfree : ∀ a raw, texts a = some raw → ScriptFree raw) (hd₀ : d₀.Coherent texts)
  {r : Except FormulaError α} {t : Sheet} (hend : d₀.Terminates r t)

include hfree hd₀ hend

/-- **What becomes of a read** of a cell in the grid: it is refused, and its
cell ends with the circular reference; or the cell that is read has its value
while the one that reads is being computed, and if the formula fails on that
value, its cell ends with the error. -/
theorem read_cases (hd : Steps d₀ d) {act : Activation} {b : Address} (hmem : act ∈ d.stack)
    (hasks : act.plan.asks = some b) (hinside : (texts b).isSome) :
    t.slot? act.cell
        = some (.evaluated (.error (FormulaError.circularReference b).toCellError))
      ∨ d₀.Outlives act.cell b ∧ ∃ v, t.slot? b = some (.evaluated v)
          ∧ ∀ next e, act.plan = .read b next → next (.ok v) = .fail e →
              t.slot? act.cell = some (.evaluated (.error e.toCellError)) := by
  obtain ⟨d', rest, hd', hstack, hslot⟩ := exists_answered (hend.steps_end hd) rfl hmem hasks
  have hsteps := hd.trans hd'
  have hcoherent := hd₀.steps hfree hsteps
  have hactive : act.cell ∈ d'.active := by
    rw [active, hstack]
    exact List.mem_cons_self
  cases hb : d'.sheet.slot? b with
  | none =>
    rw [slot?_eq_none_iff, hcoherent.raw_eq] at hb
    rw [hb] at hinside
    cases hinside
  | some slot =>
    cases slot with
    | unevaluated => exact absurd hb hslot
    | evaluating =>
      have hrefuses : d'.Refuses b := by
        refine refuses_iff.mpr ⟨?_, hb⟩
        rw [asks, hstack]
        exact hasks
      refine .inl (hcoherent.stored_of_refuses hrefuses ?_ hsteps hend)
      rw [active, hstack]
      rfl
    | evaluated v =>
      refine .inr ⟨⟨d', v, hsteps, hactive, hb⟩, v, ?_, ?_⟩
      · exact hcoherent.stacked.slot?_evaluated_steps (hend.steps_end hsteps) hb
      · intro next e hplan hnext
        refine hcoherent.stacked.stored_of_fails hstack ?_ hsteps hend
        rw [hplan, Plan.advance_known hb, hnext]

omit hend in
/-- **The formulas on the stack** treat errors by the use that they put cells
to. -/
theorem exists_relays (hempty : d₀.stack = []) (hd : Steps d₀ d) : ∀ act ∈ d.stack,
    ∃ raw, texts act.cell = some raw
      ∧ act.plan.Relays (fun cell => ∃ body ∈ body? raw, Coerces body cell)
          fun cell => ∃ body ∈ body? raw, Inspects body cell := by
  refine forall_plans (Q := fun cell p => ∃ raw, texts cell = some raw
      ∧ p.Relays (fun cell => ∃ body ∈ body? raw, Coerces body cell)
          fun cell => ∃ body ∈ body? raw, Inspects body cell)
    (fun cell raw hraw => ?_) (fun _ _ hmoved hplan => ?_) hd ?_
  · have htext : texts cell = some raw := (hd₀.raw_eq cell).symm.trans hraw
    exact ⟨raw, htext, relays_runRaw _ cell (hfree cell raw htext)⟩
  · obtain ⟨raw, hraw, hrelays⟩ := hplan
    exact ⟨raw, hraw, hrelays.moved hmoved⟩
  · rw [hempty]
    exact fun _ hact => nomatch hact

end Read

/-- A cell that is being computed lies in the grid. -/
theorem isSome_of_mem_active (hd : d.Coherent texts) {a : Address} (ha : a ∈ d.active) :
    (texts a).isSome := by
  rw [← hd.raw_eq, ← isSome_slot?, hd.stacked.marked a ha]
  rfl

end Coherent

end Descent

/-! ## Passes -/

namespace Sheet

variable (s : Sheet)

/-- **A cell reads another one** at some moment of a pass; the read may be
refused. -/
def ReadsInPass (a b : Address) : Prop :=
  ∃ d, Descent.Steps (Descent.ofPass s) d ∧ d.Reads a b

/-- **A cell fails on the error of another one** that it reads at some moment of
a pass. -/
def FailsInPass (a b : Address) : Prop :=
  ∃ d, Descent.Steps (Descent.ofPass s) d ∧ ∃ act ∈ d.stack, act.cell = a ∧ act.plan.FailsOn b

/-- **A cell passes on the error of another one** that it reads at some moment
of a pass. -/
def RelaysInPass (a b : Address) : Prop :=
  ∃ d, Descent.Steps (Descent.ofPass s) d ∧ ∃ act ∈ d.stack, act.cell = a ∧ act.plan.PassesOn b

/-- The formula in a cell puts another cell to a use. -/
def CellUses (use : List Char → Address → Prop) (a b : Address) : Prop :=
  ∃ raw, s.raw? a = some raw ∧ ∃ body ∈ body? raw, use body b

/-- After a pass the cell is an error. -/
def EndsInError (a : Address) : Prop :=
  ∃ e, s.pass.value? a = some (.error e)

/-- After a pass the cell is an error of kind reference. -/
def EndsInReferenceError (a : Address) : Prop :=
  ∃ e, s.pass.value? a = some (.error e) ∧ e.kind = .reference

/-- A pass starts without a cell on the stack. -/
theorem coherent_ofPass : (Descent.ofPass s).Coherent s.raw? := by
  have hraw : s.forgetValues.raw? = s.raw? := funext s.raw?_forgetValues
  exact hraw ▸ .start _ s.atRest_forgetValues

variable {s} in
theorem RelaysInPass.readsInPass {a b : Address} (h : s.RelaysInPass a b) :
    s.ReadsInPass a b := by
  obtain ⟨d, hd, act, hact, hcell, next, hplan, -⟩ := h
  exact ⟨d, hd, act, hact, hcell, by rw [hplan]; rfl⟩

section Pass

variable {s} (hfree : ∀ a raw, s.raw? a = some raw → ScriptFree raw) {a b : Address}

include hfree

/-- A cell that reads another one lies in the grid. -/
theorem ReadsInPass.isSome_raw? (h : s.ReadsInPass a b) : (s.raw? a).isSome := by
  obtain ⟨d, hd, act, hact, rfl, -⟩ := h
  exact (s.coherent_ofPass.steps hfree hd).isSome_of_mem_active (List.mem_map_of_mem hact)

/-- **A read is refused**, or it has waited for a cell that has its value
now. -/
theorem ReadsInPass.refused_or_outlives (h : s.ReadsInPass a b) (hb : (s.raw? b).isSome) :
    s.pass.value? a = some (.error (FormulaError.circularReference b).toCellError)
      ∨ (Descent.ofPass s).Outlives a b := by
  obtain ⟨d, hd, act, hact, rfl, hasks⟩ := h
  rcases s.coherent_ofPass.read_cases hfree (Descent.terminates_ofPass s) hd hact hasks hb
    with hrefused | ⟨houtlives, -⟩
  · exact .inl (value?_eq_some_iff.mpr hrefused)
  · exact .inr houtlives

/-- **What becomes of a read** of a cell that ends as an error: its cell ends as
an error of kind reference, or with what its formula does on the error. -/
theorem stored_of_endsInError {d : Descent Unit} (hd : Descent.Steps (Descent.ofPass s) d)
    {act : Activation} (hact : act ∈ d.stack)
    {next : Except FormulaError CellValue → Plan CellValue} (hplan : act.plan = .read b next)
    {e : CellError} (hb : s.pass.value? b = some (.error e))
    {e' : FormulaError} (hnext : next (.ok (.error e)) = .fail e') :
    s.EndsInReferenceError act.cell
      ∨ s.pass.value? act.cell = some (.error e'.toCellError) := by
  rw [value?_eq_some_iff] at hb
  have hinside : (s.raw? b).isSome := by
    rw [← s.raw?_pass, ← isSome_slot?, hb]
    rfl
  have hasks : act.plan.asks = some b := by
    rw [hplan]
    rfl
  rcases s.coherent_ofPass.read_cases hfree (Descent.terminates_ofPass s) hd hact hasks hinside
    with hrefused | ⟨-, v, hv, hstored⟩
  · exact .inl ⟨_, value?_eq_some_iff.mpr hrefused, rfl⟩
  · obtain rfl : v = .error e := Slot.evaluated.inj (Option.some.inj (hv.symm.trans hb))
    exact .inr (value?_eq_some_iff.mpr (hstored next e' hplan hnext))

/-- **A formula that fails on an error** makes its cell one. -/
theorem FailsInPass.endsInError (h : s.FailsInPass a b) (hb : s.EndsInError b) :
    s.EndsInError a := by
  obtain ⟨d, hd, act, hact, rfl, next, hplan, hfails⟩ := h
  obtain ⟨e, hvalue⟩ := hb
  obtain ⟨e', hnext⟩ := hfails e
  rcases stored_of_endsInError hfree hd hact hplan hvalue hnext with ⟨e, hstored, -⟩ | hstored
  · exact ⟨e, hstored⟩
  · exact ⟨_, hstored⟩

/-- **An error of kind reference is passed on.** -/
theorem RelaysInPass.endsInReferenceError (h : s.RelaysInPass a b)
    (hb : s.EndsInReferenceError b) : s.EndsInReferenceError a := by
  obtain ⟨d, hd, act, hact, rfl, next, hplan, hpasses⟩ := h
  obtain ⟨e, hvalue, hkind⟩ := hb
  rcases stored_of_endsInError hfree hd hact hplan hvalue (hpasses e) with hend | hstored
  · exact hend
  · exact ⟨_, hstored, hkind⟩

/-- **A formula fails on the error of a cell that it does not coerce**, and
passes it on if it does not inspect the cell. -/
theorem ReadsInPass.failsInPass (h : s.ReadsInPass a b) (hb : ¬s.CellUses Coerces a b) :
    s.FailsInPass a b ∧ (¬s.CellUses Inspects a b → s.RelaysInPass a b) := by
  obtain ⟨d, hd, act, hact, rfl, hasks⟩ := h
  obtain ⟨raw, hraw, hrelays⟩ := s.coherent_ofPass.exists_relays hfree rfl hd act hact
  obtain ⟨hfails, hpasses⟩ := hrelays.failsOn hasks fun hcoerces => hb ⟨raw, hraw, hcoerces⟩
  exact ⟨⟨d, hd, act, hact, rfl, hfails⟩, fun hinspects =>
    ⟨d, hd, act, hact, rfl, hpasses fun h => hinspects ⟨raw, hraw, h⟩⟩⟩

end Pass

/-- **Errors on a cycle of reads.** If some cells read each other in a circle
during a pass over a grid without scripts, one of them ends with the circular
reference at the next one. A cell that fails on errors of the cell that it reads
ends as an error if that cell does, and one that passes errors on ends as an
error of kind reference if that cell does. Of the former sort is every read of a
cell that the formula does not coerce, and of the latter every one of a cell
that it does not inspect either. So if all reads of the cycle are of the one or
the other sort, all of its cells end as errors or as errors of kind
reference. -/
theorem circularErrors_pass (hfree : ∀ a raw, s.raw? a = some raw → ScriptFree raw)
    {a : Address} {rest : List Address} (hcycle : (a :: (rest ++ [a])).IsChain s.ReadsInPass) :
    (∃ x y, [x, y] <:+: a :: (rest ++ [a])
        ∧ s.pass.value? x = some (.error (FormulaError.circularReference y).toCellError))
      ∧ (∀ x y, s.FailsInPass x y → s.EndsInError y → s.EndsInError x)
      ∧ (∀ x y, s.RelaysInPass x y → s.EndsInReferenceError y → s.EndsInReferenceError x)
      ∧ (∀ x y, s.ReadsInPass x y → ¬s.CellUses Coerces x y →
          s.FailsInPass x y ∧ (¬s.CellUses Inspects x y → s.RelaysInPass x y))
      ∧ ((a :: (rest ++ [a])).IsChain s.FailsInPass → ∀ x ∈ a :: rest, s.EndsInError x)
      ∧ ((a :: (rest ++ [a])).IsChain s.RelaysInPass →
          ∀ x ∈ a :: rest, s.EndsInReferenceError x) := by
  have hinside : ∀ x ∈ a :: (rest ++ [a]), (s.raw? x).isSome := by
    have hfirst : (s.raw? a).isSome := by
      cases rest with
      | nil => exact (List.isChain_cons_cons.mp hcycle).1.isSome_raw? hfree
      | cons b rest => exact (List.isChain_cons_cons.mp hcycle).1.isSome_raw? hfree
    intro x hx
    rw [← List.cons_append, List.mem_append, List.mem_singleton] at hx
    rcases hx with hx | rfl
    · rw [← List.cons_append] at hcycle
      exact hcycle.backwards_concat_induction (fun x => (s.raw? x).isSome) _
        (fun x y hread _ => hread.isSome_raw? hfree) hfirst x hx
    · exact hfirst
  -- not all of the cells can have waited for the next one
  have hrefused : ∃ x y, [x, y] <:+: a :: (rest ++ [a])
      ∧ s.pass.value? x = some (.error (FormulaError.circularReference y).toCellError) := by
    have hstacked := s.coherent_ofPass.stacked
    refine (exists_infix_or_of_isChain (Q := (Descent.ofPass s).Outlives)
      (Descent.Outlives.trans hstacked) rest
      (hcycle.imp_of_mem_imp fun x y _ hy hread => ?_)).resolve_right
        (Descent.Outlives.irrefl hstacked)
    exact hread.refused_or_outlives hfree (hinside y hy)
  have hfails : ∀ x y, s.FailsInPass x y → s.EndsInError y → s.EndsInError x :=
    fun x y h => h.endsInError hfree
  have hrelays : ∀ x y, s.RelaysInPass x y → s.EndsInReferenceError y →
      s.EndsInReferenceError x := fun x y h => h.endsInReferenceError hfree
  refine ⟨hrefused, hfails, hrelays, fun x y h => h.failsInPass hfree, fun hchain => ?_,
    fun hchain => ?_⟩
  · obtain ⟨x, y, hbeside, hvalue⟩ := hrefused
    exact forall_of_isChain_cycle (hchain.imp fun x y h => hfails x y h)
      (hbeside.subset List.mem_cons_self) ⟨_, hvalue⟩
  · obtain ⟨x, y, hbeside, hvalue⟩ := hrefused
    exact forall_of_isChain_cycle (hchain.imp fun x y h => hrelays x y h)
      (hbeside.subset List.mem_cons_self) ⟨_, hvalue, rfl⟩

/-- Three cells that read each other in a circle and pass errors on. -/
def relayedCycle : Sheet :=
  (Sheet.new 0 0 plainHost).setRows [["=CONCAT(x, B1)", "=C1", "=CHORD(A1)"]]

/-- None of them ends with a value. -/
theorem circularErrors_relayedCycle :
    (∀ a raw, relayedCycle.raw? a = some raw → ScriptFree raw)
      ∧ [⟨0, 0⟩, ⟨0, 1⟩, ⟨0, 2⟩, ⟨0, 0⟩].IsChain relayedCycle.RelaysInPass
      ∧ ∀ x ∈ [⟨0, 0⟩, ⟨0, 1⟩, ⟨0, 2⟩], relayedCycle.EndsInReferenceError x := by
  have hfree := scriptFree_of_rawRows (s := relayedCycle) (by decide +kernel)
  -- after three steps all of them are being computed
  obtain ⟨d, first, second, third, hd, hstack, hfirst, hsecond, hthird⟩ :
      ∃ d first second third, Descent.Steps (Descent.ofPass relayedCycle) d
        ∧ d.stack = [⟨⟨0, 2⟩, third⟩, ⟨⟨0, 1⟩, second⟩, ⟨⟨0, 0⟩, first⟩]
        ∧ first.PassesOn ⟨0, 1⟩ ∧ second.PassesOn ⟨0, 2⟩ ∧ third.PassesOn ⟨0, 0⟩ :=
    ⟨_, _, _, _, .head rfl (.head rfl (.head rfl .refl)), rfl, ⟨_, rfl, fun _ => rfl⟩,
      ⟨_, rfl, fun _ => rfl⟩, ⟨_, rfl, fun _ => rfl⟩⟩
  have hrelays : [⟨0, 0⟩, ⟨0, 1⟩, ⟨0, 2⟩, ⟨0, 0⟩].IsChain relayedCycle.RelaysInPass := by
    refine .cons_cons ⟨d, hd, ⟨⟨0, 0⟩, first⟩, ?_, rfl, hfirst⟩ (.cons_cons
      ⟨d, hd, ⟨⟨0, 1⟩, second⟩, ?_, rfl, hsecond⟩ (.cons_cons
      ⟨d, hd, ⟨⟨0, 2⟩, third⟩, ?_, rfl, hthird⟩ (List.isChain_singleton _)))
    all_goals simp [hstack]
  have hreads : (⟨0, 0⟩ :: ([⟨0, 1⟩, ⟨0, 2⟩] ++ [⟨0, 0⟩])).IsChain relayedCycle.ReadsInPass :=
    hrelays.imp fun _ _ h => h.readsInPass
  obtain ⟨-, -, -, -, -, hall⟩ := circularErrors_pass relayedCycle hfree hreads
  exact ⟨hfree, hrelays, hall hrelays⟩

/-- Two cells that read each other, where the first one coerces the second. -/
def coercedCycle : Sheet :=
  (Sheet.new 0 0 plainHost).setRows [["=METRONOME(B1)", "=A1"]]

/-- **A cell on a cycle may end with a value**: the first cell is refused
nothing, and the error of the second one is replaced by the tempo of the
sheet. -/
theorem value?_coercedCycle :
    (∀ a raw, coercedCycle.raw? a = some raw → ScriptFree raw)
      ∧ coercedCycle.ReadsInPass ⟨0, 0⟩ ⟨0, 1⟩ ∧ coercedCycle.ReadsInPass ⟨0, 1⟩ ⟨0, 0⟩
      ∧ coercedCycle.pass.value? ⟨0, 0⟩ = some (.music (.metronome defaultTempo)) := by
  have hfree := scriptFree_of_rawRows (s := coercedCycle) (by decide +kernel)
  -- after two steps both of them are being computed
  obtain ⟨d, first, second, hd, hstack, hfirst, hsecond⟩ :
      ∃ d first second, Descent.Steps (Descent.ofPass coercedCycle) d
        ∧ d.stack = [⟨⟨0, 1⟩, second⟩, ⟨⟨0, 0⟩, first⟩]
        ∧ first.asks = some ⟨0, 1⟩ ∧ second.asks = some ⟨0, 0⟩ :=
    ⟨_, _, _, .head rfl (.head rfl .refl), rfl, rfl, rfl⟩
  refine ⟨hfree, ⟨d, hd, ⟨⟨0, 0⟩, first⟩, ?_, rfl, hfirst⟩,
    ⟨d, hd, ⟨⟨0, 1⟩, second⟩, ?_, rfl, hsecond⟩, by decide +kernel⟩
  all_goals simp [hstack]

end Sheet

end SoundSheet
