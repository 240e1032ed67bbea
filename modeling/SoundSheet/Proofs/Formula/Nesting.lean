import SoundSheet.Formula.Evaluation

/-!
# The nesting of calls

A formula runs with room for ten calls nested in each other. `runCounting` is
the same evaluation with the depth counted upwards, where builtins are run by
handlers that are told at which depth they run. The handlers at depths one to
ten determine the run (`runCounting_congr`), so no handler is ever run at a
greater depth; and with the builtins as handlers it is the run of the formula
(`runCounting_eq_run`).
-/

namespace SoundSheet.Formula

open SoundSheet.Text

/-- **How a builtin is run** at some depth: the first argument evaluates the
calls in its arguments. -/
abbrev Handler := (List Char → Plan CellValue) → Invocation → Builtin → Plan CellValue

/-- **The run of a formula whose caller is at a depth**, on behalf of a cell,
where `handlers` runs the builtins at each depth. -/
def runCounting (caller : Address) (handlers : Nat → Handler) (depth : Nat)
    (body : List Char) : Plan CellValue :=
  if maxNesting < depth + 1 then .fail .nestedTooDeep
  else
    let nested := runCounting caller handlers (depth + 1)
    match tokenize body with
    | [] => .fail .emptyFormula
    | name :: rest =>
      match Builtin.find? name with
      | some builtin =>
        let source := (trimStart body).drop name.length
        handlers (depth + 1) nested ⟨rest, source, caller⟩ builtin
      | none =>
        (arithmetic (operand nested) (name :: rest)).bind fun n => .done (.number n)
termination_by maxNesting - depth

/-- The builtins, at every depth. -/
def builtinHandler (setting : Setting) : Handler :=
  fun nested call b => call.run setting nested b

/-- **Handlers at depths beyond the limit are never run.** -/
theorem runCounting_congr (caller : Address) {handlers handlers' : Nat → Handler}
    (h : ∀ depth, 0 < depth → depth ≤ maxNesting → handlers depth = handlers' depth) :
    ∀ depth, runCounting caller handlers depth = runCounting caller handlers' depth := by
  intro depth
  induction hroom : maxNesting - depth generalizing depth with
  | zero =>
    funext body
    rw [runCounting, runCounting, if_pos (by omega), if_pos (by omega)]
  | succ room ih =>
    funext body
    rw [runCounting, runCounting, if_neg (by omega), if_neg (by omega),
      ih (depth + 1) (by omega), h (depth + 1) (Nat.succ_pos _) (by omega)]

/-- With the builtins as handlers, the room that is left is the limit less the
depth. -/
theorem runCounting_eq_runWithin (setting : Setting) (caller : Address) :
    ∀ room depth, room + depth = maxNesting →
      runCounting caller (fun _ => builtinHandler setting) depth
        = runWithin setting caller room := by
  intro room
  induction room with
  | zero =>
    intro depth hdepth
    funext body
    rw [runCounting, if_pos (by omega), runWithin]
  | succ room ih =>
    intro depth hdepth
    funext body
    rw [runCounting, if_neg (by omega), runWithin, ih (depth + 1) (by omega)]
    rfl

/-- **The run of a formula uses the builtins at depths one to ten**, whatever
handlers there are at other depths. -/
theorem runCounting_eq_run (setting : Setting) (caller : Address) {handlers : Nat → Handler}
    (h : ∀ depth, 0 < depth → depth ≤ maxNesting → handlers depth = builtinHandler setting) :
    runCounting caller handlers 0 = run setting caller := by
  rw [runCounting_congr caller h 0]
  exact runCounting_eq_runWithin setting caller maxNesting 0 rfl

end SoundSheet.Formula
