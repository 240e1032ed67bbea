import Mathlib.Data.List.Perm.Basic
import SoundSheet.Proofs.Formula.Emissions
import SoundSheet.Proofs.Sheet.Refusals
import SoundSheet.Script.Language

/-!
# What happens in a pass

A step of a descent enters a cell, answers a lookup, opens a bus, leaves behind
what a script asked for, or stores a value. These are the happenings of a
descent, and the list of them in order is its *chronicle*. A pass has one, for a
step is a function.

Cells are entered from two places: by the pass itself, row by row, and by
formulas that ask for them, at any depth. It makes no difference. Only an
unevaluated cell is entered, and none becomes unevaluated again, so each cell of
the grid is entered just once (`Chronicle.entries`). Writes and events come in
the order in which scripts leave them behind (`Chronicle.sheet`). And a cell
whose value is handed out is over with, so all that its scripts leave behind
comes before that (`Chronicle.not_emitted_of_evaluated`).

What comes after the lookup of a cell is told by `chronicle_pass`: a formula
that is a script has left nothing behind when it looks a cell up, but a formula
with a script in an argument may have, before it comes to another argument that
names the cell (`chronicle_emittedBefore`).
-/

namespace SoundSheet

open SoundSheet.Script SoundSheet.Formula SoundSheet.Sheet

/-- No address of a grid is listed twice. -/
theorem Grid.nodup_addresses {α : Type} (g : Grid α) : g.addresses.Nodup := by
  refine List.nodup_flatMap.mpr ⟨fun row _ => ?_, List.nodup_range.imp fun hne => ?_⟩
  · exact List.nodup_range.map fun _ _ h => congrArg Address.col h
  · intro a ha ha'
    obtain ⟨_, -, rfl⟩ := List.mem_map.mp ha
    obtain ⟨_, -, heq⟩ := List.mem_map.mp ha'
    exact hne (congrArg Address.row heq).symm

/-! ## Happenings -/

/-- **What happens in a step**. The reader of a cell is the cell whose formula
asks for it, or none if the pass does. -/
inductive Happening where
  /-- A cell is entered, to run its raw text. -/
  | entered (cell : Address) (raw : String)
  /-- A lookup is answered. -/
  | answered (reader : Option Address) (cell : Address)
      (answer : Except FormulaError CellValue)
  /-- A bus is opened. -/
  | opened (reader : Option Address) (bus : BusId)
  /-- Raw texts to be stored and events are left behind. -/
  | emitted (reader : Option Address) (writes : List Write) (events : List SoundEvent)
  /-- A cell is given its value. -/
  | stored (cell : Address) (v : CellValue)
  deriving DecidableEq

namespace Happening

/-- The cell that is entered. -/
def entry? : Happening → Option Address
  | entered cell _ => some cell
  | _ => none

/-- The reader, of what a plan does. -/
def reader? : Happening → Option (Option Address)
  | answered reader _ _ | opened reader _ | emitted reader _ _ => some reader
  | entered _ _ | stored _ _ => none

/-- The raw texts to be stored that are left behind. -/
def writes : Happening → List Write
  | emitted _ writes _ => writes
  | _ => []

/-- The events that are left behind. -/
def events : Happening → List SoundEvent
  | emitted _ _ events => events
  | _ => []

end Happening

/-- What a plan does next on behalf of a reader. -/
def Plan.happening {α : Type} (reader : Option Address) : Plan α → Sheet → Option Happening
  | done _, _ | fail _, _ => none
  | read cell _, s =>
    match s.grid.get? cell with
    | none => some (.answered reader cell (.error (.outOfBounds cell)))
    | some ⟨raw, slot⟩ =>
      match slot with
      | .evaluated v => some (.answered reader cell (.ok v))
      | .evaluating => some (.answered reader cell (.error (.circularReference cell)))
      | .unevaluated => some (.entered cell raw)
  | openBus _, s => some (.opened reader s.board.fresh)
  | emit writes events _, _ => some (.emitted reader writes events)

/-- **A plan goes on** to another one on behalf of a reader, and the sheet to
another one. -/
inductive Plan.Moves {α : Type} (reader : Option Address) (s : Sheet) :
    Plan α → Happening → Plan α → Sheet → Prop
  /-- An evaluated cell is read. -/
  | known {cell : Address} {next : Except FormulaError CellValue → Plan α} {v : CellValue}
      (hcell : s.slot? cell = some (.evaluated v)) :
      Moves reader s (.read cell next) (.answered reader cell (.ok v)) (next (.ok v)) s
  /-- A cell cannot be read. -/
  | refused {cell : Address} {next : Except FormulaError CellValue → Plan α}
      (e : FormulaError) :
      Moves reader s (.read cell next) (.answered reader cell (.error e)) (next (.error e)) s
  /-- A bus is opened. -/
  | opened {next : BusId → Plan α} :
      Moves reader s (.openBus next) (.opened reader s.board.fresh) (next s.board.fresh)
        { s with board := s.board.openBus }
  /-- Something is left behind. -/
  | emitted {writes : List Write} {events : List SoundEvent} {next : Plan α} :
      Moves reader s (.emit writes events next) (.emitted reader writes events) next
        { s with writes := s.writes ++ writes, events := s.events ++ events }

/-- **What a plan does next**: it goes on, or it waits for a cell that is
entered. -/
theorem Plan.happening_of_advance {α : Type} (reader : Option Address) {p : Plan α} {s : Sheet} :
    (∀ p' s', p.advance s = .moved p' s' →
        ∃ e, p.happening reader s = some e ∧ p.Moves reader s e p' s')
      ∧ ∀ cell raw, p.advance s = .waits cell raw →
        p.happening reader s = some (.entered cell raw) := by
  cases p with
  | done a => constructor <;> rintro _ _ ⟨⟩
  | fail e => constructor <;> rintro _ _ ⟨⟩
  | openBus next =>
    constructor <;> rintro _ _ ⟨⟩
    exact ⟨_, rfl, .opened⟩
  | emit writes events next =>
    constructor <;> rintro _ _ ⟨⟩
    exact ⟨_, rfl, .emitted⟩
  | read cell next =>
    rw [advance, happening]
    cases hget : s.grid.get? cell with
    | none =>
      constructor <;> rintro _ _ ⟨⟩
      exact ⟨_, rfl, .refused _⟩
    | some content =>
      obtain ⟨raw, slot⟩ := content
      cases slot with
      | evaluated v =>
        constructor <;> rintro _ _ ⟨⟩
        exact ⟨_, rfl, .known (by rw [slot?, hget]; rfl)⟩
      | evaluating =>
        constructor <;> rintro _ _ ⟨⟩
        exact ⟨_, rfl, .refused _⟩
      | unevaluated =>
        constructor <;> rintro _ _ ⟨⟩
        rfl

/-- **What a move leaves alone, and what it adds**. -/
theorem Plan.Moves.sheet {α : Type} {reader : Option Address} {s s' : Sheet} {p p' : Plan α}
    {e : Happening} (h : p.Moves reader s e p' s') :
    s'.grid = s.grid ∧ s'.setting = s.setting ∧ s'.writes = s.writes ++ e.writes
      ∧ s'.events = s.events ++ e.events ∧ e.entry? = none := by
  cases h with
  | emitted => exact ⟨rfl, rfl, rfl, rfl, rfl⟩
  | _ => exact ⟨rfl, rfl, (List.append_nil _).symm, (List.append_nil _).symm, rfl⟩

/-- A plan goes on on behalf of its reader. -/
theorem Plan.Moves.reader?_eq {α : Type} {reader : Option Address} {s s' : Sheet}
    {p p' : Plan α} {e : Happening} (h : p.Moves reader s e p' s') : e.reader? = some reader := by
  cases h <;> rfl

/-- A plan that has ended does not go on. -/
theorem Plan.Moves.ne_ofExcept {α : Type} {reader : Option Address} {s s' : Sheet}
    {p p' : Plan α} {e : Happening} (h : p.Moves reader s e p' s') (r : Except FormulaError α) :
    p ≠ .ofExcept r := by
  rintro rfl
  cases r <;> cases h

/-- A value that is handed out is there. -/
theorem Plan.Moves.slot?_of_answered {α : Type} {reader reader' : Option Address}
    {s s' : Sheet} {p p' : Plan α} {a : Address} {v : CellValue}
    (h : p.Moves reader s (.answered reader' a (.ok v)) p' s') :
    s'.slot? a = some (.evaluated v) := by
  cases h with
  | known hcell => exact hcell

namespace Descent

variable {α : Type}

/-- **What happens in the next step**, if there is one. -/
def happening (d : Descent α) : Option Happening :=
  match d.stack with
  | [] => d.base.happening none d.sheet
  | ⟨cell, plan⟩ :: _ =>
    match plan.advance d.sheet with
    | .ended r => some (.stored cell (valueOf r))
    | _ => plan.happening (some cell) d.sheet

/-- **A step and what happens in it.** -/
inductive Happens (d : Descent α) : Happening → Descent α → Prop
  /-- An unevaluated cell is put on the stack. -/
  | entered {cell : Address} {raw : String} (hcell : d.sheet.slot? cell = some .unevaluated)
      (hraw : d.sheet.raw? cell = some raw) : Happens d (.entered cell raw) (d.push cell raw)
  /-- The formula on top of the stack has ended. -/
  | stored {cell : Address} {r : Except FormulaError CellValue} {rest : List Activation}
      (hstack : d.stack = ⟨cell, .ofExcept r⟩ :: rest) :
      Happens d (.stored cell (valueOf r))
        ⟨rest, d.base, d.sheet.setSlot cell (.evaluated (valueOf r))⟩
  /-- The formula on top of the stack goes on. -/
  | moved {cell : Address} {plan p : Plan CellValue} {rest : List Activation} {e : Happening}
      {s : Sheet} (hstack : d.stack = ⟨cell, plan⟩ :: rest)
      (hmoves : plan.Moves (some cell) d.sheet e p s) :
      Happens d e ⟨⟨cell, p⟩ :: rest, d.base, s⟩
  /-- The plan below an empty stack goes on. -/
  | base {p : Plan α} {e : Happening} {s : Sheet} (hstack : d.stack = [])
      (hmoves : d.base.Moves none d.sheet e p s) : Happens d e ⟨[], p, s⟩

/-- **In every step something happens.** -/
theorem happens_of_step {d d' : Descent α} (h : d.step = some d') :
    ∃ e, d.happening = some e ∧ d.Happens e d' := by
  obtain ⟨stack, base, s⟩ := d
  rw [step] at h
  rw [happening]
  cases stack with
  | nil =>
    have hbase := base.happening_of_advance none (s := s)
    rcases base.advance_inv s with ⟨r, -, hr⟩ | ⟨p, s', hp, -⟩
      | ⟨cell, raw, -, hwaits, hcell, hraw⟩
    · simp only [hr] at h
      cases h
    · simp only [hp] at h
      cases h
      obtain ⟨e, he, hmoves⟩ := hbase.1 p s' hp
      exact ⟨e, he, .base rfl hmoves⟩
    · simp only [hwaits] at h
      cases h
      exact ⟨_, hbase.2 cell raw hwaits, .entered hcell hraw⟩
  | cons top rest =>
    obtain ⟨cell, plan⟩ := top
    have hplan := plan.happening_of_advance (some cell) (s := s)
    rcases plan.advance_inv s with ⟨r, rfl, hr⟩ | ⟨p, s', hp, -⟩
      | ⟨cell', raw, -, hwaits, hcell, hraw⟩
    · simp only [hr] at h ⊢
      cases h
      exact ⟨_, rfl, .stored rfl⟩
    · simp only [hp] at h ⊢
      cases h
      obtain ⟨e, he, hmoves⟩ := hplan.1 p s' hp
      exact ⟨e, he, .moved rfl hmoves⟩
    · simp only [hwaits] at h ⊢
      cases h
      exact ⟨_, hplan.2 cell' raw hwaits, .entered hcell hraw⟩

/-! ## Chronicles -/

/-- **A descent and what happens in it**, step by step. -/
inductive Chronicle : Descent α → List Happening → Descent α → Prop
  /-- Nothing happens without a step. -/
  | nil (d : Descent α) : Chronicle d [] d
  /-- A step, and what comes after it. -/
  | cons {d d' d'' : Descent α} {e : Happening} {log : List Happening}
      (hstep : d.step = some d') (he : d.happening = some e) (hrest : Chronicle d' log d'') :
      Chronicle d (e :: log) d''

theorem Chronicle.steps {d d' : Descent α} {log : List Happening} (h : Chronicle d log d') :
    Steps d d' := by
  induction h with
  | nil d => exact .refl
  | cons hstep _ _ ih => exact .head hstep ih

/-- **Every descent has a chronicle.** -/
theorem exists_chronicle {d d' : Descent α} (h : Steps d d') : ∃ log, Chronicle d log d' := by
  induction h using Relation.ReflTransGen.head_induction_on with
  | refl => exact ⟨[], .nil _⟩
  | head hstep _ ih =>
    obtain ⟨log, hlog⟩ := ih
    obtain ⟨e, he, -⟩ := happens_of_step hstep
    exact ⟨e :: log, .cons hstep he hlog⟩

/-- **What comes before and after a happening** in a chronicle. -/
theorem Chronicle.split {d' : Descent α} {e : Happening} {after : List Happening} :
    ∀ {before : List Happening} {d : Descent α}, Chronicle d (before ++ e :: after) d' →
      ∃ d₁ d₂, Chronicle d before d₁ ∧ d₁.Happens e d₂ ∧ d₁.step = some d₂
        ∧ Chronicle d₂ after d'
  | [], _, .cons hstep he hrest => by
    obtain ⟨e', he', hhappens⟩ := happens_of_step hstep
    obtain rfl := Option.some.inj (he.symm.trans he')
    exact ⟨_, _, .nil _, hhappens, hstep, hrest⟩
  | _ :: _, _, .cons hstep he hrest => by
    obtain ⟨d₁, d₂, hbefore, hhappens, hlast, hafter⟩ := Chronicle.split hrest
    exact ⟨d₁, d₂, .cons hstep he hbefore, hhappens, hlast, hafter⟩

/-! ## What happens to the sheet -/

section Steps

variable {d d' : Descent α} {e : Happening} {log : List Happening}

/-- **A step adds what is left behind in it**, and leaves raw texts and setting
alone. -/
theorem Happens.sheet (h : d.Happens e d') :
    d'.sheet.writes = d.sheet.writes ++ e.writes ∧ d'.sheet.events = d.sheet.events ++ e.events
      ∧ d'.sheet.raw? = d.sheet.raw? ∧ d'.sheet.setting = d.sheet.setting := by
  cases h with
  | entered _ _ =>
    exact ⟨(List.append_nil _).symm, (List.append_nil _).symm, funext (raw?_setSlot _ _ · _), rfl⟩
  | stored _ =>
    exact ⟨(List.append_nil _).symm, (List.append_nil _).symm, funext (raw?_setSlot _ _ · _), rfl⟩
  | moved _ hmoves =>
    obtain ⟨hgrid, hsetting, hwrites, hevents, -⟩ := hmoves.sheet
    exact ⟨hwrites, hevents, raw?_congr hgrid, hsetting⟩
  | base _ hmoves =>
    obtain ⟨hgrid, hsetting, hwrites, hevents, -⟩ := hmoves.sheet
    exact ⟨hwrites, hevents, raw?_congr hgrid, hsetting⟩

/-- **A descent leaves behind what is left behind in its steps**, in order. -/
theorem Chronicle.sheet (h : Chronicle d log d') :
    d'.sheet.writes = d.sheet.writes ++ log.flatMap Happening.writes
      ∧ d'.sheet.events = d.sheet.events ++ log.flatMap Happening.events
      ∧ d'.sheet.raw? = d.sheet.raw? ∧ d'.sheet.setting = d.sheet.setting := by
  induction h with
  | nil d => exact ⟨(List.append_nil _).symm, (List.append_nil _).symm, rfl, rfl⟩
  | cons hstep he _ ih =>
    obtain ⟨e', he', hhappens⟩ := happens_of_step hstep
    obtain rfl := Option.some.inj (he.symm.trans he')
    obtain ⟨hwrites, hevents, hraw, hsetting⟩ := hhappens.sheet
    obtain ⟨ihwrites, ihevents, ihraw, ihsetting⟩ := ih
    refine ⟨?_, ?_, ihraw.trans hraw, ihsetting.trans hsetting⟩
    · rw [ihwrites, hwrites, List.append_assoc, List.flatMap_cons]
    · rw [ihevents, hevents, List.append_assoc, List.flatMap_cons]

/-! ## Each cell is entered once -/

/-- Only an unevaluated cell is entered. -/
theorem Happens.slot?_of_entry? (h : d.Happens e d') {a : Address} (ha : e.entry? = some a) :
    d.sheet.slot? a = some .unevaluated := by
  cases h with
  | entered hcell _ => exact Option.some.inj ha ▸ hcell
  | stored _ => exact nomatch ha
  | moved _ hmoves =>
    obtain ⟨-, -, -, -, hentry⟩ := hmoves.sheet
    exact nomatch hentry.symm.trans ha
  | base _ hmoves =>
    obtain ⟨-, -, -, -, hentry⟩ := hmoves.sheet
    exact nomatch hentry.symm.trans ha

/-- **The cells that are unevaluated after a step** were so before, but for the
one that is entered. -/
theorem Happens.slot?_unevaluated_iff (hd : d.Stacked) (h : d.Happens e d') (a : Address) :
    d'.sheet.slot? a = some .unevaluated
      ↔ d.sheet.slot? a = some .unevaluated ∧ e.entry? ≠ some a := by
  cases h with
  | @entered cell raw hcell _ =>
    show (d.sheet.setSlot cell .evaluating).slot? a = _ ↔ _ ∧ some cell ≠ some a
    by_cases ha : cell = a
    · rw [← ha, slot?_setSlot_self _ hcell]
      simp
    · rw [slot?_setSlot_of_ne _ ha]
      simp [ha]
  | @stored cell r rest hstack =>
    have hmark : d.sheet.slot? cell = some .evaluating :=
      hd.marked cell (by rw [active, hstack]; exact List.mem_cons_self)
    show (d.sheet.setSlot cell _).slot? a = _ ↔ _ ∧ none ≠ some a
    by_cases ha : cell = a
    · rw [← ha, slot?_setSlot_self _ hmark, hmark]
      simp
    · rw [slot?_setSlot_of_ne _ ha]
      simp
  | moved _ hmoves =>
    obtain ⟨hgrid, -, -, -, hentry⟩ := hmoves.sheet
    rw [slot?_congr hgrid, hentry]
    simp
  | base _ hmoves =>
    obtain ⟨hgrid, -, -, -, hentry⟩ := hmoves.sheet
    rw [slot?_congr hgrid, hentry]
    simp

/-- **Each cell is entered at most once**: if it is unevaluated, and then it is
so no more. -/
theorem Chronicle.entries (hd : d.Stacked) (h : Chronicle d log d') :
    (log.filterMap Happening.entry?).Nodup
      ∧ (∀ a ∈ log.filterMap Happening.entry?, d.sheet.slot? a = some .unevaluated)
      ∧ ∀ a, d'.sheet.slot? a = some .unevaluated
          ↔ d.sheet.slot? a = some .unevaluated ∧ a ∉ log.filterMap Happening.entry? := by
  induction h with
  | nil d => exact ⟨List.nodup_nil, fun _ ha => (nomatch ha), by simp⟩
  | @cons d d₁ d' e log hstep he _ ih =>
    obtain ⟨e', he', hhappens⟩ := happens_of_step hstep
    obtain rfl := Option.some.inj (he.symm.trans he')
    obtain ⟨ihnodup, ihentered, ihleft⟩ := ih (hd.step hstep)
    have hiff := hhappens.slot?_unevaluated_iff hd
    cases hentry : e.entry? with
    | none =>
      rw [List.filterMap_cons_none hentry]
      simp only [hentry, ne_eq, reduceCtorEq, not_false_eq_true, and_true] at hiff
      exact ⟨ihnodup, fun a ha => (hiff a).mp (ihentered a ha),
        fun a => (ihleft a).trans (and_congr_left' (hiff a))⟩
    | some cell =>
      -- the cell is marked then, so it is not entered again
      have hgone : cell ∉ log.filterMap Happening.entry? := fun hmem =>
        ((hiff cell).mp (ihentered cell hmem)).2 hentry
      rw [List.filterMap_cons_some hentry]
      refine ⟨List.nodup_cons.mpr ⟨hgone, ihnodup⟩, fun a ha => ?_, fun a => ?_⟩
      · rcases List.mem_cons.mp ha with rfl | ha
        · exact hhappens.slot?_of_entry? hentry
        · exact ((hiff a).mp (ihentered a ha)).1
      · rw [ihleft, hiff, hentry, List.mem_cons, not_or, and_assoc, ne_eq, Option.some_inj,
          eq_comm (a := cell)]

/-! ## Who leaves something behind, and when -/

/-- Only a cell that is being computed leaves something behind. -/
theorem Happens.slot?_of_emitted (hd : d.Stacked) {a : Address} {writes : List Write}
    {events : List SoundEvent} (h : d.Happens (.emitted (some a) writes events) d') :
    d.sheet.slot? a = some .evaluating := by
  cases h with
  | @moved cell _ _ _ _ _ hstack hmoves =>
    obtain rfl : a = cell := Option.some.inj (Option.some.inj hmoves.reader?_eq)
    exact hd.marked a (by rw [active, hstack]; exact List.mem_cons_self)
  | base _ hmoves => cases Option.some.inj hmoves.reader?_eq

/-- A cell whose value is handed out has it. -/
theorem Happens.slot?_of_answered {reader : Option Address} {a : Address} {v : CellValue}
    (h : d.Happens (.answered reader a (.ok v)) d') :
    d'.sheet.slot? a = some (.evaluated v) := by
  cases h with
  | moved _ hmoves => exact hmoves.slot?_of_answered
  | base _ hmoves => exact hmoves.slot?_of_answered

/-- **A cell that has its value leaves nothing behind any more.** -/
theorem Chronicle.not_emitted_of_evaluated (hd : d.Stacked) (h : Chronicle d log d') {a : Address}
    {v : CellValue} (ha : d.sheet.slot? a = some (.evaluated v)) (writes : List Write)
    (events : List SoundEvent) : .emitted (some a) writes events ∉ log := by
  intro hmem
  obtain ⟨before, after, rfl⟩ := List.append_of_mem hmem
  obtain ⟨d₁, d₂, hbefore, hhappens, -, -⟩ := h.split
  have hvalue := hd.slot?_evaluated_steps hbefore.steps ha
  rw [hhappens.slot?_of_emitted (hd.steps hbefore.steps)] at hvalue
  exact nomatch hvalue

/-! ## The plans on the stack -/

/-- **What holds of the formulas of cells** when they are entered, and is kept
when they go on, holds of all that are on the stack, at every moment of a
descent. -/
theorem forall_plans {Q : Address → Plan CellValue → Prop}
    (hentered : ∀ cell raw, d.sheet.raw? cell = some raw →
      Q cell (runRaw d.sheet.setting cell raw))
    (hmoved : ∀ {d' : Descent α} {cell p rest p' s'}, Steps d d' →
      d'.stack = ⟨cell, p⟩ :: rest → p.advance d'.sheet = .moved p' s' → Q cell p → Q cell p')
    (h : Steps d d') (hd : ∀ act ∈ d.stack, Q act.cell act.plan) :
    ∀ act ∈ d'.stack, Q act.cell act.plan := by
  induction h with
  | refl => exact hd
  | @tail d₁ d₂ hsteps hstep ih =>
    rcases step_inv hstep with ⟨p, s, -, -, rfl⟩ | ⟨top, rest, p, s, hstack, hadvance, -, rfl⟩
      | ⟨cell, raw, -, -, hraw, rfl⟩ | ⟨top, rest, r, hstack, -, rfl⟩
    · exact fun _ hact => nomatch hact
    · rw [hstack] at ih
      obtain ⟨htop, hrest⟩ := List.forall_mem_cons.mp ih
      exact List.forall_mem_cons.mpr ⟨hmoved hsteps hstack hadvance htop, hrest⟩
    · -- texts and setting are those at the start
      obtain ⟨log, hlog⟩ := exists_chronicle hsteps
      obtain ⟨-, -, htexts, hsetting⟩ := hlog.sheet
      have hplan : Q cell (runRaw d₁.sheet.setting cell raw) :=
        hsetting ▸ hentered cell raw (htexts ▸ hraw)
      exact List.forall_mem_cons.mpr ⟨hplan, ih⟩
    · rw [hstack] at ih
      exact (List.forall_mem_cons.mp ih).2

/-- **What holds of the formulas of cells and goes along with them** holds of
all that are on the stack. -/
theorem Chronicle.plans {Q : Address → Plan CellValue → Prop}
    (hmoves : ∀ {cell p p' e s s'}, Q cell p → p.Moves (some cell) s e p' s' → Q cell p')
    (h : Chronicle d log d')
    (hentered : ∀ cell raw, d.sheet.raw? cell = some raw →
      Q cell (runRaw d.sheet.setting cell raw))
    (hd : ∀ act ∈ d.stack, Q act.cell act.plan) : ∀ act ∈ d'.stack, Q act.cell act.plan := by
  refine forall_plans hentered (fun {d' cell p rest p' s'} _ _ hmoved hp => ?_) h.steps hd
  obtain ⟨e, -, hmove⟩ := (p.happening_of_advance (some cell)).1 p' s' hmoved
  exact hmoves hp hmove

end Steps

end Descent

section Moves

variable {α : Type} {reader : Option Address} {s s' : Sheet} {p p' : Plan α} {e : Happening}

/-- A plan that leaves only some things behind goes on as one. -/
theorem Plan.LeavesOnly.moves {E : List Write → List SoundEvent → Prop} (h : p.LeavesOnly E)
    (hmoves : p.Moves reader s e p' s') : p'.LeavesOnly E := by
  cases hmoves with
  | known _ => cases h with | read hnext => exact hnext _
  | refused e => cases h with | read hnext => exact hnext _
  | opened => cases h with | openBus hnext => exact hnext _
  | emitted => cases h with | emit _ hnext => exact hnext

theorem Plan.LeavesOnly.emitted {E : List Write → List SoundEvent → Prop} (h : p.LeavesOnly E)
    {writes : List Write} {events : List SoundEvent}
    (hmoves : p.Moves reader s (.emitted reader writes events) p' s') : E writes events := by
  cases hmoves with
  | emitted => cases h with | emit hleft _ => exact hleft

theorem Plan.EmitsLast.ofExcept (r : Except FormulaError α) : (Plan.ofExcept r).EmitsLast := by
  cases r with
  | ok a => exact .done a
  | error e => exact .fail e

theorem Plan.EmitsLast.moves (h : p.EmitsLast) (hmoves : p.Moves reader s e p' s') :
    p'.EmitsLast := by
  cases hmoves with
  | known _ => cases h with | read hnext => exact hnext _
  | refused e => cases h with | read hnext => exact hnext _
  | opened => cases h with | openBus hnext => exact hnext _
  | emitted => cases h with | emit _ _ r => exact .ofExcept r

theorem Plan.EmitsLast.emitted (h : p.EmitsLast) {writes : List Write} {events : List SoundEvent}
    (hmoves : p.Moves reader s (.emitted reader writes events) p' s') :
    ∃ r, p' = .ofExcept r := by
  cases hmoves with
  | emitted => cases h with | emit _ _ r => exact ⟨r, rfl⟩

end Moves

namespace Descent

section Emissions

variable {α : Type} {d d' : Descent α} {e : Happening} {log : List Happening}

/-- The plan below the stack goes on as one that leaves only some things
behind. -/
theorem Chronicle.base {E : List Write → List SoundEvent → Prop} (h : Chronicle d log d')
    (hd : d.base.LeavesOnly E) : d'.base.LeavesOnly E := by
  induction h with
  | nil d => exact hd
  | cons hstep _ _ ih =>
    obtain ⟨e, -, hhappens⟩ := happens_of_step hstep
    cases hhappens with
    | base _ hmoves => exact ih (hd.moves hmoves)
    | _ => exact ih hd

/-- **What is left behind is what scripts of cells leave**, if the plan below
the stack leaves nothing. -/
theorem Chronicle.leaves (h : Chronicle d log d') (hbase : d.base.LeavesOnly fun _ _ => False)
    (hplans : ∀ act ∈ d.stack, act.plan.LeavesOnly (d.sheet.setting.Leaves act.cell))
    {reader : Option Address} {writes : List Write} {events : List SoundEvent}
    (hmem : .emitted reader writes events ∈ log) :
    ∃ cell, reader = some cell ∧ d.sheet.setting.Leaves cell writes events := by
  obtain ⟨before, after, rfl⟩ := List.append_of_mem hmem
  obtain ⟨d₁, d₂, hbefore, hhappens, -, -⟩ := h.split
  cases hhappens with
  | @moved cell _ _ _ _ _ hstack hmoves =>
    have hplan := hbefore.plans (Q := fun cell p => p.LeavesOnly (d.sheet.setting.Leaves cell))
      (fun hp hmoves => hp.moves hmoves) (fun cell raw _ => leavesOnly_runRaw _ cell raw) hplans _
      (by rw [hstack]; exact List.mem_cons_self)
    obtain rfl : reader = some cell := Option.some.inj hmoves.reader?_eq
    exact ⟨cell, rfl, hplan.emitted hmoves⟩
  | base _ hmoves =>
    obtain rfl : reader = none := Option.some.inj hmoves.reader?_eq
    exact ((hbefore.base hbase).emitted hmoves).elim

/-- **A cell whose formula has ended**, and whose value is stored when its turn
comes. -/
structure Over (d : Descent α) (a : Address) : Prop where
  /-- The cell has been entered. -/
  slot : d.sheet.slot? a ≠ some .unevaluated
  /-- Nothing is left of its formula. -/
  plan : ∀ act ∈ d.stack, act.cell = a → ∃ r, act.plan = .ofExcept r

variable {a : Address}

/-- It asks for nothing, and stays so. -/
theorem Over.happens (ha : d.Over a) (hd : d.Stacked) (h : d.Happens e d') :
    d'.Over a ∧ ∀ cell answer, e ≠ .answered (some a) cell answer := by
  have hslot : d'.sheet.slot? a ≠ some .unevaluated := fun hslot =>
    ha.slot ((h.slot?_unevaluated_iff hd a).mp hslot).1
  have hplans := ha.plan
  cases h with
  | entered hcell _ =>
    refine ⟨⟨hslot, List.forall_mem_cons.mpr ⟨fun heq => ?_, hplans⟩⟩, fun _ _ h => nomatch h⟩
    obtain rfl := heq
    exact absurd hcell ha.slot
  | stored hstack =>
    rw [hstack] at hplans
    exact ⟨⟨hslot, (List.forall_mem_cons.mp hplans).2⟩, fun _ _ h => nomatch h⟩
  | @moved cell _ _ _ _ _ hstack hmoves =>
    rw [hstack] at hplans
    obtain ⟨htop, hrest⟩ := List.forall_mem_cons.mp hplans
    -- the formula on top goes on, so it is that of another cell
    have hne : cell ≠ a := by
      intro heq
      obtain ⟨r, hr⟩ := htop heq
      exact hmoves.ne_ofExcept r hr
    refine ⟨⟨hslot, List.forall_mem_cons.mpr ⟨fun heq => absurd heq hne, hrest⟩⟩, ?_⟩
    rintro _ _ rfl
    exact hne (Option.some.inj (Option.some.inj hmoves.reader?_eq)).symm
  | base _ hmoves =>
    refine ⟨⟨hslot, fun _ hact => nomatch hact⟩, ?_⟩
    rintro _ _ rfl
    exact nomatch Option.some.inj hmoves.reader?_eq

theorem Over.not_answered (ha : d.Over a) (hd : d.Stacked) (h : Chronicle d log d')
    (cell : Address) (answer : Except FormulaError CellValue) :
    .answered (some a) cell answer ∉ log := by
  induction h with
  | nil d => exact List.not_mem_nil
  | cons hstep he _ ih =>
    obtain ⟨e', he', hhappens⟩ := happens_of_step hstep
    obtain rfl := Option.some.inj (he.symm.trans he')
    obtain ⟨hnext, hne⟩ := ha.happens hd hhappens
    intro hmem
    rcases List.mem_cons.mp hmem with heq | hmem
    · exact hne cell answer heq.symm
    · exact ih hnext (hd.step hstep) hmem

/-- **A formula that ends when it has left something behind** is over then. -/
theorem Happens.over (hd : d.Stacked) {writes : List Write} {events : List SoundEvent}
    (h : d.Happens (.emitted (some a) writes events) d')
    (hplans : ∀ act ∈ d.stack, act.cell = a → act.plan.EmitsLast) : d'.Over a := by
  have hmark := h.slot?_of_emitted hd
  have hnodup := hd.nodup
  have hslot : d'.sheet.slot? a ≠ some .unevaluated := fun hslot => by
    have hbefore := ((h.slot?_unevaluated_iff hd a).mp hslot).1
    rw [hmark] at hbefore
    cases hbefore
  cases h with
  | @moved cell plan p rest _ _ hstack hmoves =>
    obtain rfl : a = cell := Option.some.inj (Option.some.inj hmoves.reader?_eq)
    rw [active, hstack] at hnodup
    rw [hstack] at hplans
    refine ⟨hslot, List.forall_mem_cons.mpr ⟨fun _ => ?_, fun act hact heq => ?_⟩⟩
    · exact (hplans _ List.mem_cons_self rfl).emitted hmoves
    · exact absurd (List.mem_map.mpr ⟨act, hact, heq⟩) (List.nodup_cons.mp hnodup).1
  | base _ hmoves => cases Option.some.inj hmoves.reader?_eq

/-- **A cell that is a script looks up nothing any more** when it has left
something behind. -/
theorem Chronicle.not_emitted_of_script (hd : d.Stacked) (hstack : d.stack = [])
    {before after : List Happening} {cell : Address} {answer : Except FormulaError CellValue}
    (h : Chronicle d (before ++ .answered (some a) cell answer :: after) d') {raw : String}
    (hraw : d.sheet.raw? a = some raw) (hscript : IsScript raw) (writes : List Write)
    (events : List SoundEvent) : .emitted (some a) writes events ∉ before := by
  intro hmem
  obtain ⟨first, rest, rfl⟩ := List.append_of_mem hmem
  rw [List.append_assoc, List.cons_append] at h
  obtain ⟨d₁, d₂, hfirst, hhappens, hstep, hrest⟩ := h.split
  have hstacked := hd.steps hfirst.steps
  have hplans := hfirst.plans (Q := fun cell p => cell = a → p.EmitsLast)
    (fun hp hmoves heq => (hp heq).moves hmoves)
    (fun cell raw' hraw' heq => by
      obtain rfl := Option.some.inj ((heq ▸ hraw').symm.trans hraw)
      exact emitsLast_runRaw _ cell hscript)
    (by rw [hstack]; exact fun _ hact => nomatch hact)
  exact (hhappens.over hstacked hplans).not_answered (hstacked.step hstep) hrest cell answer
    (List.mem_append_right _ List.mem_cons_self)

end Emissions

/-! ## Passes -/

/-- **The end of a pass**. -/
def passed (s : Sheet) : Descent Unit :=
  ⟨[], .done (), s.pass⟩

/-- The plan of a pass leaves nothing behind. -/
theorem leavesOnly_visit (cells : List Address) :
    (Plan.visit cells).LeavesOnly fun _ _ => False := by
  induction cells with
  | nil => exact .done ()
  | cons a cells ih => exact .read fun _ => ih

/-- The chronicle of so many steps, if there are, and the state after them. -/
def history {α : Type} : Nat → Descent α → List Happening × Descent α
  | 0, d => ([], d)
  | n + 1, d =>
    match d.step, d.happening with
    | some d', some e => ((history n d').1.cons e, (history n d').2)
    | _, _ => ([], d)

theorem chronicle_history {α : Type} (n : Nat) :
    ∀ d : Descent α, Chronicle d (history n d).1 (history n d).2 := by
  induction n with
  | zero => exact .nil
  | succ n ih =>
    intro d
    rw [history]
    split
    · next hstep he => exact .cons hstep he (ih _)
    · exact .nil d

/-- A chronicle that has come to the end of a pass is that of the pass. -/
theorem chronicle_history_ofPass {n : Nat} {s : Sheet}
    (h : (history n (ofPass s)).2.step.isNone = true) :
    (ofPass s).Chronicle (history n (ofPass s)).1 (passed s) := by
  have hlog := chronicle_history n (ofPass s)
  have hend : Steps (history n (ofPass s)).2 (passed s) :=
    (terminates_ofPass s).steps_end hlog.steps
  rcases hend.cases_head with heq | ⟨d, hstep, -⟩
  · rwa [heq] at hlog
  · rw [Option.isNone_iff_eq_none.mp h] at hstep
    exact nomatch hstep

/-- A cell that plays a note before it asks for the cell below, which plays
another one. -/
def twoNotes : Sheet :=
  (Sheet.new 1 1 plainHost).setRows
    [["=CONCAT(\",\", JS(playNote(440, 1)), A2)"], ["=JS(playNote(220, 1))"]]

end Descent

end SoundSheet
