import Mathlib.Data.List.Forall2
import Mathlib.Logic.Relator
import SoundSheet.Formula.Call
import SoundSheet.Script.Language

/-!
# Values up to their buses

Two runs of one formula make the same values, except that the buses in them bear
other numbers. Which number of the one run goes with which of the other is a
relation `R` between bus numbers, and values **match** along `R` if they are the
same but for buses that `R` relates. The relation that holds everywhere makes
values match as soon as they are equal when buses are left out of account; a
relation that is one to one makes them match if they are equal up to a renaming
of buses.

Nothing that a formula or a script can read off a value depends on the number of
its bus. For formulas this is a fact about the readings of a value
(`CellValue.Matches.coerceNumber_eq` and its neighbours). A script host may be
any function, so for a host it is a property that has to be asked for:
`Host.Respects` says that scopes that match lead to outcomes that match. The
hosts of the script language have it for every relation
(`Script.respects_hostDrawing`), because a script is shown no buses at all.
-/

namespace SoundSheet

open SoundSheet.Script SoundSheet.Formula

/-! ## Values -/

/-- **Values that match along `R`**: they are the same but for buses that `R`
relates. -/
inductive CellValue.Matches (R : BusId → BusId → Prop) : CellValue → CellValue → Prop
  /-- A value without a bus matches itself. -/
  | plain {v : CellValue} (h : v.bus? = none) : Matches R v v
  /-- Beats that differ in their buses only. -/
  | beat (b : Beat) {bus : BusId} (h : R b.bus bus) :
      Matches R (.music (.beat b)) (.music (.beat { b with bus := bus }))
  /-- Sequences that differ in their buses only. -/
  | sequence (s : Sequence) {bus : BusId} (h : R s.bus bus) :
      Matches R (.music (.sequence s)) (.music (.sequence { s with bus := bus }))
  /-- Voices that differ in the buses they are bound to only. -/
  | audio (v : Voice) {bus : BusId} (h : R v.source bus) :
      Matches R (.music (.audio v)) (.music (.audio { v with source := bus }))

namespace CellValue.Matches

variable {R : BusId → BusId → Prop} {v w : CellValue}

theorem coerceNumber_eq (h : v.Matches R w) : v.coerceNumber = w.coerceNumber := by
  cases h <;> rfl

theorem nonzeroNumber_eq (h : v.Matches R w) : v.nonzeroNumber = w.nonzeroNumber := by
  cases h <;> rfl

theorem operandValue_eq (h : v.Matches R w) : operandValue v = operandValue w := by
  cases h <;> rfl

/-- A value without a bus matches itself alone. -/
theorem eq_of_bus?_eq_none (h : v.Matches R w) (hv : v.bus? = none) : v = w := by
  cases h with
  | plain _ => rfl
  | beat b _ => exact nomatch hv
  | sequence s _ => exact nomatch hv
  | audio v _ => exact nomatch hv

/-- Values that match have buses that go together, if one of them triggers. -/
theorem triggerBus?_rel (h : v.Matches R w) :
    Option.Rel R v.triggerBus? w.triggerBus? := by
  cases h with
  | @plain v h =>
    -- a value that triggers a bus bears it
    have : v.triggerBus? = none := by
      unfold bus? at h
      split at h
      · exact nomatch h
      · exact h
    rw [this]
    exact .none
  | beat b h => exact .some h
  | sequence s h => exact .some h
  | audio v h => exact .none

end CellValue.Matches

/-- The relation in which every bus goes with every other: values match along it
if they are equal when buses are left out of account. -/
abbrev AnyBus : BusId → BusId → Prop :=
  fun _ _ => True

namespace CellValue.Matches

variable {u v w : CellValue}

theorem symm_anyBus (h : v.Matches AnyBus w) : w.Matches AnyBus v := by
  cases h with
  | plain h => exact .plain h
  | @beat b bus h => exact @beat AnyBus { b with bus := bus } b.bus trivial
  | @sequence s bus h => exact @sequence AnyBus { s with bus := bus } s.bus trivial
  | @audio v bus h => exact @audio AnyBus { v with source := bus } v.source trivial

theorem trans_anyBus (h : u.Matches AnyBus v) (h' : v.Matches AnyBus w) :
    u.Matches AnyBus w := by
  cases h with
  | plain h => exact h'
  | beat b h =>
    cases h' with
    | plain h' => exact nomatch h'
    | beat _ h' => exact .beat b trivial
  | sequence s h =>
    cases h' with
    | plain h' => exact nomatch h'
    | sequence _ h' => exact .sequence s trivial
  | audio v h =>
    cases h' with
    | plain h' => exact nomatch h'
    | audio _ h' => exact .audio v trivial

end CellValue.Matches

/-! ## Results -/

/-- **Results that match**: errors are the same, and values are related. -/
inductive ResultMatches {α β : Type} (A : α → β → Prop) :
    Except FormulaError α → Except FormulaError β → Prop
  | ok {a : α} {b : β} (h : A a b) : ResultMatches A (.ok a) (.ok b)
  | error (e : FormulaError) : ResultMatches A (.error e) (.error e)

/-- **Answers that match**: the same error, or values that match. -/
abbrev AnswerMatches (R : BusId → BusId → Prop) :
    Except FormulaError CellValue → Except FormulaError CellValue → Prop :=
  ResultMatches (CellValue.Matches R)

/-! ## Scopes and hosts -/

namespace Script

/-- **Scopes that match**: they show matching values under the same names, and
all else in them is the same. -/
structure Scope.Matches (R : BusId → BusId → Prop) (s t : Scope) : Prop where
  caller : s.caller = t.caller
  values : List.Forall₂ (fun x y => x.1 = y.1 ∧ x.2.Matches R y.2) s.values t.values
  tempo : s.tempo = t.tempo
  time : s.time = t.time

/-- **Outcomes that match**: the same message, or matching values with the same
raw texts to store and the same events. -/
inductive OutcomeMatches (R : BusId → BusId → Prop) :
    Except String Outcome → Except String Outcome → Prop
  | ok {v w : CellValue} (h : v.Matches R w) (writes : List Write) (events : List SoundEvent) :
      OutcomeMatches R (.ok ⟨v, writes, events⟩) (.ok ⟨w, writes, events⟩)
  | error (message : String) : OutcomeMatches R (.error message) (.error message)

/-- **A host that respects `R`**: what it answers depends on the code and on the
scope, where buses in the scope are taken up to `R`. -/
def Host.Respects (h : Host) (R : BusId → BusId → Prop) : Prop :=
  ∀ code s t, Scope.Matches R s t → OutcomeMatches R (h.run code s) (h.run code t)

/-- **A host that does not tell buses apart**: all buses look the same to it. -/
abbrev Host.IgnoresBuses (h : Host) : Prop :=
  h.Respects AnyBus

/-- **A host that treats buses as mere names**: another numbering of the buses
in a scope changes nothing but the numbering of those in the outcome. -/
def Host.RespectsRenaming (h : Host) : Prop :=
  ∀ R, Relator.BiUnique R → h.Respects R

/-! ## The hosts of the script language -/

theorem Scope.Matches.lookup_rel {R : BusId → BusId → Prop} (cell : Address) :
    ∀ {xs ys : List (Address × CellValue)},
      List.Forall₂ (fun x y => x.1 = y.1 ∧ x.2.Matches R y.2) xs ys →
        Option.Rel (CellValue.Matches R) (xs.lookup cell) (ys.lookup cell)
  | _, _, .nil => .none
  | (a, v) :: xs, (b, w) :: ys, .cons ⟨hname, hv⟩ h => by
    obtain rfl : a = b := hname
    rw [List.lookup_cons, List.lookup_cons]
    cases cell == a with
    | true => exact .some hv
    | false => exact lookup_rel cell h

/-- **A script sees no buses**: in scopes that match, the functions that it can
call are the same. -/
theorem surroundings_eq {R : BusId → BusId → Prop} {s t : Scope} (h : s.Matches R t)
    (draws : Draws) : surroundings draws s = surroundings draws t := by
  have hget : getValue s = getValue t := by
    funext text
    unfold getValue Scope.value?
    cases cellArg text with
    | error e => rfl
    | ok cell =>
      -- scripts get a reading of the value, and no reading shows a bus
      have hrel := Scope.Matches.lookup_rel cell h.values
      dsimp only [bind, Except.bind]
      generalize s.values.lookup cell = x at hrel
      generalize t.values.lookup cell = y at hrel
      cases hrel with
      | none => rfl
      | some hv => cases hv <;> rfl
  unfold surroundings
  rw [hget, h.tempo, h.time]

variable (draws : Address → Draws)

/-- Code without a prelude respects every relation between buses. -/
theorem outcomeMatches_runCode {R : BusId → BusId → Prop} (code : List Char) {s t : Scope}
    (h : s.Matches R t) : OutcomeMatches R (runCode draws code s) (runCode draws code t) := by
  unfold runCode
  rw [h.caller, surroundings_eq h]
  cases Program.parse code with
  | error fault => exact .error _
  | ok program =>
    dsimp only
    cases program.simplify.run (surroundings (draws t.caller) t) with
    | error fault => exact .error _
    | ok result =>
      -- a datum that a script returns becomes a value without a bus
      refine .ok (.plain ?_) _ _
      cases result.1 <;> rfl

/-- **The host without a prelude respects every relation between buses.** -/
theorem respects_hostDrawing (R : BusId → BusId → Prop) : (hostDrawing draws).Respects R :=
  fun code _ _ h => outcomeMatches_runCode draws code h

/-- **So does every host with a prelude.** -/
theorem respects_hostWith (R : BusId → BusId → Prop) (prelude : String) :
    (hostWith draws prelude).Respects R :=
  fun _ _ _ h => outcomeMatches_runCode draws _ h

theorem respects_plainHost (R : BusId → BusId → Prop) : plainHost.Respects R :=
  respects_hostDrawing evenDraws R

end Script

end SoundSheet
