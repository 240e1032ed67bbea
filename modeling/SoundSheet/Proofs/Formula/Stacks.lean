import Mathlib.Data.List.TakeWhile
import SoundSheet.Proofs.Bus.Origin

/-!
# The evaluator on two stacks

The evaluator of arithmetic keeps the waiting operators of every open
parenthesis in a frame of their own. The usual way is one stack for all of them,
with the open parentheses between them, beside the stack of operands
(`Machine.stacks`). That way needs more care: operators are taken off the stack
up to a mark that stops it (`unwind`), and there an open parenthesis might be
applied as if it were an operator, an operator might find an operand missing,
and at the end there might be more or fewer operands than one. Each of these is
an end of its own here, being **stuck**, apart from the faults of an expression.

None of them is ever reached (`stacks_evaluate`). A count rules them out: where
an operand is expected there are as many operands as binary operators, and else
one more (`Stacks.Counted`). Every token keeps it, and an operator that is
applied finds its operands by it. So the two stacks and the frames are one
evaluator.
-/

namespace SoundSheet.Formula

/-! ## Two stacks -/

/-- **What stands on the stack of operators**. -/
inductive Mark where
  /-- An open parenthesis. -/
  | opened
  /-- An operator that waits. -/
  | waiting (p : Pending)
  deriving DecidableEq, Repr

/-- **How the evaluator could get stuck**, through no fault of the
expression. -/
inductive Stuck where
  /-- An open parenthesis is applied as an operator. -/
  | appliedOpening
  /-- An operator finds an operand missing. -/
  | missingOperand
  /-- At the end there is not one operand. -/
  | notOneValue
  deriving DecidableEq, Repr

/-- **What stops the evaluator** before it has a result. -/
inductive Halt where
  /-- The expression is refused. -/
  | refused (e : FormulaError)
  /-- The evaluator is stuck. -/
  | stuck (s : Stuck)

namespace Mark

/-- How tightly a mark binds: an open parenthesis less than any operator. -/
def rank : Mark → Nat
  | opened => 0
  | waiting p => p.rank

/-- Whether a mark is a binary operator. -/
def isBinary : Mark → Bool
  | waiting (.binary _) => true
  | _ => false

/-- **Applies a mark to the last operands**; the last operand stands first. -/
def apply : Mark → List Float → Except Halt (List Float)
  | waiting .negate, a :: rest => .ok (-a :: rest)
  | waiting (.binary op), b :: a :: rest =>
    match op.apply a b with
    | .ok c => .ok (c :: rest)
    | .error e => .error (.refused e)
  | opened, _ :: _ :: _ => .error (.stuck .appliedOpening)
  | _, _ => .error (.stuck .missingOperand)

end Mark

/-- **Takes marks off the stack and applies them**, up to one that stops it. -/
def unwind (stops : Mark → Bool) : List Mark → List Float → Except Halt (List Mark × List Float)
  | [], operands => .ok ([], operands)
  | mark :: rest, operands =>
    if stops mark then .ok (mark :: rest, operands)
    else
      match mark.apply operands with
      | .ok operands => unwind stops rest operands
      | .error halt => .error halt

/-- **The state of the evaluator** with two stacks. -/
structure Stacks where
  /-- The operands read so far, the last one first. -/
  operands : List Float
  /-- The waiting operators and open parentheses, the last one first. -/
  operators : List Mark
  /-- Whether an operand is expected next, rather than an operator. -/
  awaiting : Bool

namespace Stacks

/-- Before the first token. -/
def start : Stacks :=
  ⟨[], [], true⟩

/-- A fault of the expression. -/
def fault {α : Type} (f : ExpressionFault) : Except Halt α :=
  .error (.refused (.malformedExpression f))

/-- A parenthesis opens. -/
def openGroup (s : Stacks) : Except Halt Stacks :=
  if s.awaiting then .ok { s with operators := .opened :: s.operators } else fault .openAfterOperand

/-- A parenthesis closes: the operators behind the one that it closes are
applied. -/
def closeGroup (s : Stacks) : Except Halt Stacks :=
  if s.awaiting then fault .closeBeforeOperand
  else
    match unwind (· = .opened) s.operators s.operands with
    | .error halt => .error halt
    | .ok ([], _) => fault .closeWithoutOpen
    | .ok (_ :: operators, operands) => .ok ⟨operands, operators, false⟩

/-- A binary operator: those that bind at least as tightly are applied, and it
waits itself. -/
def pushOperator (s : Stacks) (op : Operator) : Except Halt Stacks :=
  match unwind (fun mark => decide (mark.rank < op.rank)) s.operators s.operands with
  | .error halt => .error halt
  | .ok (operators, operands) => .ok ⟨operands, .waiting (.binary op) :: operators, true⟩

/-- An operator token: a sign if an operand is expected. -/
def takeOperator (s : Stacks) (op : Operator) (token : Token) : Except Halt Stacks :=
  if s.awaiting then
    match op with
    | .sub => .ok { s with operators := .waiting .negate :: s.operators }
    | .add => .ok s
    | _ => fault (.missingLeftOperand (String.ofList token))
  else s.pushOperator op

/-- A run that ends as a result says; being stuck is a way to end. -/
def plan {α : Type} : Except Halt α → Plan (Except Stuck α)
  | .ok a => .done (.ok a)
  | .error (.refused e) => .fail e
  | .error (.stuck s) => .done (.error s)

/-- **One token**. -/
def step (operand : Token → Plan Float) (s : Stacks) (token : Token) :
    Plan (Except Stuck Stacks) :=
  if token = ['('] then plan s.openGroup
  else if token = [')'] then plan s.closeGroup
  else
    match Operator.ofToken? token with
    | some op => plan (s.takeOperator op token)
    | none =>
      if s.awaiting then
        (operand token).bind fun n => .done (.ok ⟨n :: s.operands, s.operators, false⟩)
      else plan (fault (.missingOperator (String.ofList token)))

/-- The tokens one after another, unless the evaluator gets stuck. -/
def steps (operand : Token → Plan Float) (s : Stacks) : List Token → Plan (Except Stuck Stacks)
  | [] => .done (.ok s)
  | token :: rest =>
    (s.step operand token).bind fun
      | .ok s => s.steps operand rest
      | .error stuck => .done (.error stuck)

/-- **The end of the tokens**: all that waits is applied, and one operand is
left. -/
def finish (s : Stacks) : Except Halt Float :=
  if s.awaiting then fault .endsWithOperator
  else
    match unwind (· = .opened) s.operators s.operands with
    | .error halt => .error halt
    | .ok (_ :: _, _) => fault .openWithoutClose
    | .ok ([], [n]) => .ok n
    | .ok ([], _) => .error (.stuck .notOneValue)

/-- **The value of an arithmetic expression**, worked out on two stacks. -/
def evaluate (operand : Token → Plan Float) (tokens : List Token) : Plan (Except Stuck Float) :=
  if tokens = [] then .fail .emptyFormula
  else
    (start.steps operand tokens).bind fun
      | .ok s => plan s.finish
      | .error stuck => .done (.error stuck)

/-- **The count of operands**: as many as binary operators where an operand is
expected, and else one more. -/
def Counted (s : Stacks) : Prop :=
  s.operands.length = s.operators.countP Mark.isBinary + if s.awaiting then 0 else 1

end Stacks

/-! ## The frames as one stack -/

/-- The marks of a frame. -/
def marks (frame : List Pending) : List Mark :=
  frame.map .waiting

/-- The marks of the frames around the innermost parenthesis. -/
def outerMarks (outer : List (List Pending)) : List Mark :=
  outer.flatMap fun frame => .opened :: marks frame

/-- **The two stacks of a state**: its frames, with an open parenthesis behind
each but the outermost. -/
def Machine.stacks (m : Machine) : Stacks :=
  ⟨m.operands, marks m.frame ++ outerMarks m.outer, m.awaiting⟩

section Applying

variable {p : Pending} {frame : List Pending} {operands operands' : List Float}

/-- A binary operator takes one operand away, and a sign none. -/
theorem length_of_apply (h : p.apply operands = .ok operands') :
    operands'.length + (marks [p]).countP Mark.isBinary = operands.length := by
  unfold Pending.apply at h
  split at h
  · cases h
    rfl
  · rename_i op b a rest
    cases hop : op.apply a b with
    | error e =>
      rw [hop] at h
      cases h
    | ok c =>
      rw [hop] at h
      cases h
      rfl
  · cases h

/-- **Operators that are applied take away an operand for each binary one.** -/
theorem length_of_applyAll (h : Pending.applyAll frame operands = .ok operands') :
    operands'.length + (marks frame).countP Mark.isBinary = operands.length := by
  induction frame generalizing operands with
  | nil =>
    cases h
    rfl
  | cons p frame ih =>
    rw [Pending.applyAll] at h
    cases hp : p.apply operands with
    | error e =>
      rw [hp] at h
      cases h
    | ok rest =>
      rw [hp] at h
      have hsplit : marks (p :: frame) = marks [p] ++ marks frame := rfl
      rw [hsplit, List.countP_append, ← length_of_apply hp, ← ih h]
      omega

/-- **An operator that finds its operands is applied**, and only the expression
can be at fault. -/
theorem apply_waiting (h : (marks [p]).countP Mark.isBinary < operands.length) :
    (Mark.waiting p).apply operands = (p.apply operands).mapError Halt.refused := by
  cases p with
  | negate =>
    cases operands with
    | nil => cases h
    | cons a rest => rfl
  | binary op =>
    cases operands with
    | nil => cases h
    | cons b operands =>
      cases operands with
      | nil => exact absurd h (Nat.lt_irrefl 1)
      | cons a rest =>
        rw [Mark.apply, Pending.apply]
        cases op.apply a b <;> rfl

/-- **Unwinding a frame** applies its operators up to the first that stops it,
if there are operands for all of them. -/
theorem unwind_marks (stops : Mark → Bool) {below : List Mark}
    (hbelow : ∀ mark ∈ below.head?, stops mark = true)
    (hcount : (marks frame).countP Mark.isBinary < operands.length) :
    unwind stops (marks frame ++ below) operands
      = ((Pending.applyAll (frame.takeWhile fun p => !stops (.waiting p)) operands).map fun rest =>
          (marks (frame.dropWhile fun p => !stops (.waiting p)) ++ below, rest)).mapError
            Halt.refused := by
  induction frame generalizing operands with
  | nil =>
    cases below with
    | nil => rfl
    | cons mark below =>
      show (if stops mark = true then _ else _) = _
      rw [if_pos (hbelow mark rfl)]
      rfl
  | cons p frame ih =>
    have hsplit : marks (p :: frame) = marks [p] ++ marks frame := rfl
    rw [hsplit, List.countP_append] at hcount
    show (if stops (.waiting p) = true then _ else _) = _
    cases hstops : stops (.waiting p) with
    | true =>
      rw [if_pos rfl, List.takeWhile_cons_of_neg (by simp [hstops]),
        List.dropWhile_cons_of_neg (by simp [hstops])]
      rfl
    | false =>
      rw [if_neg Bool.false_ne_true, apply_waiting (by omega),
        List.takeWhile_cons_of_pos (by simp [hstops]),
        List.dropWhile_cons_of_pos (by simp [hstops]), Pending.applyAll]
      cases hp : p.apply operands with
      | error e => rfl
      | ok rest => exact ih (by have := length_of_apply hp; omega)

end Applying

/-- What stands below a frame stops whatever an open parenthesis stops. -/
theorem stops_outerMarks {stops : Mark → Bool} (h : stops .opened = true)
    (outer : List (List Pending)) : ∀ mark ∈ (outerMarks outer).head?, stops mark = true := by
  cases outer with
  | nil => rintro mark ⟨⟩
  | cons frame outer =>
    rintro mark ⟨⟩
    exact h

/-! ## One token -/

section Steps

variable {K : Address → CellValue → Prop} {O : BusId → Prop} {operand : Token → Plan Float}
  {m : Machine}

/-- Where an operator is expected there are operands for the whole frame. -/
theorem countP_marks_lt (h : m.stacks.Counted) (hawaiting : m.awaiting = false) :
    (marks m.frame).countP Mark.isBinary < m.operands.length := by
  have hcount : m.operands.length = (marks m.frame ++ outerMarks m.outer).countP Mark.isBinary
      + if m.awaiting then 0 else 1 := h
  rw [hawaiting, List.countP_append] at hcount
  simp only [Bool.false_eq_true, if_false] at hcount
  omega

/-- **Up to the innermost open parenthesis** the whole frame is applied. -/
theorem unwind_frame (h : m.stacks.Counted) (hawaiting : m.awaiting = false) :
    unwind (· = .opened) m.stacks.operators m.stacks.operands
      = ((Pending.applyAll m.frame m.operands).map fun operands =>
          (outerMarks m.outer, operands)).mapError Halt.refused := by
  have hall : ∀ p ∈ m.frame, (!decide (Mark.waiting p = .opened)) = true := fun p _ => rfl
  have hunwind := unwind_marks (· = .opened) (stops_outerMarks rfl m.outer)
    (countP_marks_lt h hawaiting)
  rwa [List.takeWhile_eq_self_iff.mpr hall, List.dropWhile_eq_nil_iff.mpr hall] at hunwind

theorem plan_openGroup (m : Machine) :
    Stacks.plan m.stacks.openGroup = m.openGroup.bind fun m => .done (.ok m.stacks) := by
  obtain ⟨operands, frame, outer, awaiting⟩ := m
  cases awaiting <;> rfl

theorem plan_closeGroup (h : m.stacks.Counted) :
    Stacks.plan m.stacks.closeGroup = m.closeGroup.bind fun m => .done (.ok m.stacks) := by
  rw [Stacks.closeGroup, Machine.closeGroup]
  show Stacks.plan (if m.awaiting = true then _ else _) = _
  cases hawaiting : m.awaiting with
  | true => rfl
  | false =>
    rw [if_neg Bool.false_ne_true, if_neg Bool.false_ne_true, unwind_frame h hawaiting]
    cases Pending.applyAll m.frame m.operands with
    | error e => rfl
    | ok operands => cases m.outer <;> rfl

theorem plan_pushOperator (h : m.stacks.Counted) (hawaiting : m.awaiting = false)
    (op : Operator) :
    Stacks.plan (m.stacks.pushOperator op)
      = (m.pushOperator op).bind fun m => .done (.ok m.stacks) := by
  have hstops : (fun p : Pending => !decide ((Mark.waiting p).rank < op.rank))
      = fun p => decide (op.rank ≤ p.rank) := by
    funext p
    rw [← decide_not]
    exact decide_eq_decide.mpr Nat.not_lt
  have hopened : decide (Mark.opened.rank < op.rank) = true := by cases op <;> rfl
  have hunwind := unwind_marks (fun mark => decide (mark.rank < op.rank))
    (stops_outerMarks hopened m.outer) (countP_marks_lt h hawaiting)
  rw [hstops] at hunwind
  have hsame : m.stacks.operators = marks m.frame ++ outerMarks m.outer
      ∧ m.stacks.operands = m.operands := ⟨rfl, rfl⟩
  rw [Stacks.pushOperator, Machine.pushOperator, hsame.1, hsame.2, hunwind]
  cases Pending.applyAll _ m.operands <;> rfl

theorem plan_takeOperator (h : m.stacks.Counted) (op : Operator) (token : Token) :
    Stacks.plan (m.stacks.takeOperator op token)
      = (m.takeOperator op token).bind fun m => .done (.ok m.stacks) := by
  obtain ⟨operands, frame, outer, awaiting⟩ := m
  cases awaiting with
  | true => cases op <;> rfl
  | false => exact plan_pushOperator h rfl op

theorem plan_takeOperand (operand : Token → Plan Float) (m : Machine) (token : Token) :
    (if m.stacks.awaiting then
        (operand token).bind fun n =>
          .done (.ok ⟨n :: m.stacks.operands, m.stacks.operators, false⟩)
      else Stacks.plan (Stacks.fault (.missingOperator (String.ofList token))))
      = (m.takeOperand operand token).bind fun m => .done (.ok m.stacks) := by
  obtain ⟨operands, frame, outer, awaiting⟩ := m
  cases awaiting with
  | true =>
    rw [Machine.takeOperand, if_pos rfl, Plan.bind_bind]
    rfl
  | false => rfl

/-- **A token on the two stacks** does what it does on the frames. -/
theorem step_stacks (h : m.stacks.Counted) (token : Token) :
    m.stacks.step operand token
      = (m.step operand token).bind fun m => .done (.ok m.stacks) := by
  rw [Stacks.step, Machine.step]
  by_cases hopen : token = ['(']
  · rw [if_pos hopen, if_pos hopen, plan_openGroup]
  by_cases hclose : token = [')']
  · rw [if_neg hopen, if_neg hopen, if_pos hclose, if_pos hclose, plan_closeGroup h]
  rw [if_neg hopen, if_neg hopen, if_neg hclose, if_neg hclose]
  cases Operator.ofToken? token with
  | some op => exact plan_takeOperator h op token
  | none => exact plan_takeOperand operand m token

/-! ## The count -/

/-- What the count says of a state in frames. -/
theorem counted_stacks_iff : m.stacks.Counted
    ↔ m.operands.length = (marks m.frame).countP Mark.isBinary
      + (outerMarks m.outer).countP Mark.isBinary + if m.awaiting then 0 else 1 := by
  rw [← List.countP_append]
  exact Iff.rfl

theorem ensures_openGroup (h : m.stacks.Counted) :
    m.openGroup.Ensures K O fun m => m.stacks.Counted := by
  obtain ⟨operands, frame, outer, awaiting⟩ := m
  cases awaiting with
  | true => exact .done h
  | false => exact .fail _

theorem ensures_closeGroup (h : m.stacks.Counted) :
    m.closeGroup.Ensures K O fun m => m.stacks.Counted := by
  obtain ⟨operands, frame, outer, awaiting⟩ := m
  cases awaiting with
  | true => exact .fail _
  | false =>
    rw [Machine.closeGroup, if_neg Bool.false_ne_true]
    cases happly : Pending.applyAll frame operands with
    | error e => exact .fail e
    | ok rest =>
      cases outer with
      | nil => exact .fail _
      | cons around outer =>
        -- the parenthesis that is closed is no operator, and the frame is used up
        have hmarks : outerMarks (around :: outer)
            = .opened :: (marks around ++ outerMarks outer) := rfl
        have hlength := length_of_applyAll happly
        rw [counted_stacks_iff, hmarks, List.countP_cons_of_neg (by decide),
          List.countP_append] at h
        refine .done (counted_stacks_iff.mpr ?_)
        dsimp only at h ⊢
        omega

theorem ensures_pushOperator (h : m.stacks.Counted) (hawaiting : m.awaiting = false)
    (op : Operator) : (m.pushOperator op).Ensures K O fun m => m.stacks.Counted := by
  obtain ⟨operands, frame, outer, awaiting⟩ := m
  obtain rfl : awaiting = false := hawaiting
  rw [Machine.pushOperator]
  cases happly : Pending.applyAll _ operands with
  | error e => exact .fail e
  | ok rest =>
    -- the operators that are applied are the first part of the frame
    have hlength := length_of_applyAll happly
    dsimp only at hlength
    have hsplit : frame = frame.takeWhile (fun p => decide (op.rank ≤ p.rank))
        ++ frame.dropWhile (fun p => decide (op.rank ≤ p.rank)) :=
      List.takeWhile_append_dropWhile.symm
    have hmarks (as bs : List Pending) : marks (as ++ bs) = marks as ++ marks bs := List.map_append
    rw [counted_stacks_iff] at h
    dsimp only at h
    rw [hsplit, hmarks, List.countP_append] at h
    refine .done (counted_stacks_iff.mpr ?_)
    show rest.length = (Mark.waiting (.binary op) :: marks _).countP Mark.isBinary + _ + _
    rw [List.countP_cons_of_pos rfl]
    simp only [Bool.false_eq_true, if_false, if_true] at h ⊢
    omega

theorem ensures_takeOperator (h : m.stacks.Counted) (op : Operator) (token : Token) :
    (m.takeOperator op token).Ensures K O fun m => m.stacks.Counted := by
  obtain ⟨operands, frame, outer, awaiting⟩ := m
  cases awaiting with
  | true =>
    cases op with
    | add => exact .done h
    | sub => exact .done h
    | mul => exact .fail _
    | div => exact .fail _
  | false => exact ensures_pushOperator h rfl op

theorem ensures_takeOperand (h : m.stacks.Counted) (token : Token) :
    (m.takeOperand operand token).Ensures K O fun m => m.stacks.Counted := by
  obtain ⟨operands, frame, outer, awaiting⟩ := m
  cases awaiting with
  | true =>
    refine .bindAny fun n => .done (counted_stacks_iff.mpr ?_)
    exact congrArg (· + 1) (counted_stacks_iff.mp h)
  | false => exact .fail _

/-- **Every token keeps the count.** -/
theorem ensures_step (h : m.stacks.Counted) (token : Token) :
    (m.step operand token).Ensures K O fun m => m.stacks.Counted := by
  rw [Machine.step]
  by_cases hopen : token = ['(']
  · rw [if_pos hopen]
    exact ensures_openGroup h
  by_cases hclose : token = [')']
  · rw [if_neg hopen, if_pos hclose]
    exact ensures_closeGroup h
  rw [if_neg hopen, if_neg hclose]
  cases Operator.ofToken? token with
  | some op => exact ensures_takeOperator h op token
  | none => exact ensures_takeOperand h token

/-- **So do all tokens together.** -/
theorem ensures_steps (h : m.stacks.Counted) (tokens : List Token) :
    (m.steps operand tokens).Ensures K O fun m => m.stacks.Counted := by
  induction tokens generalizing m with
  | nil => exact .done h
  | cons token rest ih => exact (ensures_step h token).bind fun m hm => ih hm

end Steps

/-! ## All tokens -/

section All

variable {operand : Token → Plan Float} {m : Machine}

/-- **All tokens on the two stacks** do what they do on the frames. -/
theorem steps_stacks (h : m.stacks.Counted) (tokens : List Token) :
    m.stacks.steps operand tokens
      = (m.steps operand tokens).bind fun m => .done (.ok m.stacks) := by
  induction tokens generalizing m with
  | nil => rfl
  | cons token rest ih =>
    rw [Stacks.steps, Machine.steps, step_stacks h, Plan.bind_bind, Plan.bind_bind]
    exact (ensures_step h token).bind_congr fun m hm => ih hm

/-- **The end on the two stacks** is that on the frames. -/
theorem finish_stacks (h : m.stacks.Counted) :
    Stacks.plan m.stacks.finish = m.finish.bind fun n => .done (.ok n) := by
  have hsame : m.stacks.awaiting = m.awaiting := rfl
  rw [Stacks.finish, Machine.finish, hsame]
  cases hawaiting : m.awaiting with
  | true => rfl
  | false =>
    rw [if_neg Bool.false_ne_true, if_neg Bool.false_ne_true, unwind_frame h hawaiting]
    cases happly : Pending.applyAll m.frame m.operands with
    | error e => rfl
    | ok rest =>
      cases houter : m.outer with
      | cons around outer => rfl
      | nil =>
        -- all operators are applied, so the count leaves one operand
        have hlength := length_of_applyAll happly
        have hcount := counted_stacks_iff.mp h
        have hone : rest.length = 1 := by
          rw [houter, hawaiting] at hcount
          simp only [outerMarks, List.flatMap_nil, List.countP_nil, Bool.false_eq_true,
            if_false] at hcount
          omega
        obtain ⟨n, rfl⟩ := List.length_eq_one_iff.mp hone
        rfl

end All

theorem counted_start : Machine.start.stacks.Counted := rfl

/-- **Arithmetic on two stacks is never stuck.** Whatever the operands mean, and
whatever the answers that they are worked out from: after any number of tokens
that are not refused there are as many operands as binary operators if an
operand is expected, and else one more. So no open parenthesis is ever applied,
no operator that is applied finds an operand missing, and the end finds one
operand: the evaluator with two stacks ends with a value or an error, and with
the one that arithmetic has. -/
theorem stacks_evaluate (operand : Token → Plan Float) (tokens : List Token) :
    (∀ read : List Token,
        (Stacks.start.steps operand read).Ensures (fun _ _ => True) (fun _ => True)
          fun result => ∃ s, result = .ok s ∧ s.Counted)
      ∧ Stacks.evaluate operand tokens
        = (arithmetic operand tokens).bind fun n => .done (.ok n) := by
  have hstart : Machine.start.stacks = Stacks.start := rfl
  refine ⟨fun read => ?_, ?_⟩
  · rw [← hstart, steps_stacks counted_start]
    exact (ensures_steps counted_start read).bind fun m hm => .done ⟨m.stacks, rfl, hm⟩
  · rw [Stacks.evaluate, arithmetic]
    by_cases hnil : tokens = []
    · rw [if_pos hnil, if_pos hnil]
      rfl
    · rw [if_neg hnil, if_neg hnil, ← hstart, steps_stacks counted_start, Plan.bind_bind,
        Plan.bind_bind]
      exact (ensures_steps counted_start tokens).bind_congr fun m hm => finish_stacks hm

end SoundSheet.Formula
