import SoundSheet.Formula.Argument
import SoundSheet.Formula.Token

/-!
# Arithmetic

A formula that calls no builtin is arithmetic: operands, the four operators,
grouping, and a sign in front of an operand. Operators of one rank group to the
left, and a minus sign binds tightest.

The evaluator reads the tokens once. It keeps the operands that it has read and
the operators that still wait for their right operand; those of each open
parenthesis form a frame of their own, so no operator ever reaches across a
parenthesis. An operator is applied as soon as a weaker one follows, so an
operand to the right of a failing division is never looked up.
-/

namespace SoundSheet.Formula

/-- **The binary operators**. -/
inductive Operator where
  | add
  | sub
  | mul
  | div
  deriving DecidableEq, Repr

/-- **An operator that waits for its right operand**. -/
inductive Pending where
  /-- A minus sign in front of an operand. -/
  | negate
  /-- A binary operator. -/
  | binary (op : Operator)
  deriving DecidableEq, Repr

namespace Operator

/-- The operator that a token denotes. -/
def ofToken? : Token → Option Operator
  | ['+'] => some add
  | ['-'] => some sub
  | ['*'] => some mul
  | ['/'] => some div
  | _ => none

/-- How tightly an operator binds. -/
def rank : Operator → Nat
  | add | sub => 1
  | mul | div => 2

/-- **The result of an operator**. Only a division can fail. -/
def apply (op : Operator) (a b : Float) : Except FormulaError Float :=
  match op with
  | add => .ok (a + b)
  | sub => .ok (a - b)
  | mul => .ok (a * b)
  | div => if b == 0 then .error .divisionByZero else .ok (a / b)

end Operator

namespace Pending

/-- How tightly a waiting operator binds. -/
def rank : Pending → Nat
  | negate => 3
  | binary op => op.rank

/-- **Applies an operator to the last operands**; the last operand stands
first. -/
def apply : Pending → List Float → Except FormulaError (List Float)
  | negate, a :: rest => .ok (-a :: rest)
  | binary op, b :: a :: rest => (op.apply a b).map (· :: rest)
  | _, _ => .error (.malformedExpression .missingOperand)

/-- Applies operators one after another. -/
def applyAll : List Pending → List Float → Except FormulaError (List Float)
  | [], operands => .ok operands
  | p :: rest, operands =>
    match p.apply operands with
    | .ok operands => applyAll rest operands
    | .error e => .error e

end Pending

/-- **The state of the evaluator** between two tokens. -/
structure Machine where
  /-- The operands read so far, the last one first. -/
  operands : List Float
  /-- The waiting operators of the innermost open parenthesis, the last one
  first. -/
  frame : List Pending
  /-- The waiting operators of the parentheses around it, from the inside
  out. -/
  outer : List (List Pending)
  /-- Whether an operand is expected next, rather than an operator. -/
  awaiting : Bool

namespace Machine

/-- Before the first token. -/
def start : Machine :=
  ⟨[], [], [], true⟩

/-- A fault of the expression. -/
def fault {α : Type} (f : ExpressionFault) : Plan α :=
  .fail (.malformedExpression f)

/-- A parenthesis opens. -/
def openGroup (m : Machine) : Plan Machine :=
  if m.awaiting then .done { m with frame := [], outer := m.frame :: m.outer }
  else fault .openAfterOperand

/-- A parenthesis closes: the operators in it are applied. -/
def closeGroup (m : Machine) : Plan Machine :=
  if m.awaiting then fault .closeBeforeOperand
  else
    match Pending.applyAll m.frame m.operands with
    | .error e => .fail e
    | .ok operands =>
      match m.outer with
      | [] => fault .closeWithoutOpen
      | frame :: outer => .done ⟨operands, frame, outer, false⟩

/-- A binary operator: those that bind at least as tightly are applied, and it
waits itself. -/
def pushOperator (m : Machine) (op : Operator) : Plan Machine :=
  match Pending.applyAll (m.frame.takeWhile fun p => decide (op.rank ≤ p.rank)) m.operands with
  | .error e => .fail e
  | .ok operands =>
    .done
      { m with
        operands := operands
        frame := .binary op :: m.frame.dropWhile fun p => decide (op.rank ≤ p.rank)
        awaiting := true }

/-- An operator token: a sign if an operand is expected. -/
def takeOperator (m : Machine) (op : Operator) (token : Token) : Plan Machine :=
  if m.awaiting then
    match op with
    | .sub => .done { m with frame := .negate :: m.frame }
    | .add => .done m
    | _ => fault (.missingLeftOperand (String.ofList token))
  else m.pushOperator op

/-- An operand, with its value. -/
def takeOperand (operand : Token → Plan Float) (m : Machine) (token : Token) : Plan Machine :=
  if m.awaiting then
    (operand token).bind fun n => .done { m with operands := n :: m.operands, awaiting := false }
  else fault (.missingOperator (String.ofList token))

/-- **One token**. -/
def step (operand : Token → Plan Float) (m : Machine) (token : Token) : Plan Machine :=
  if token = ['('] then m.openGroup
  else if token = [')'] then m.closeGroup
  else
    match Operator.ofToken? token with
    | some op => m.takeOperator op token
    | none => m.takeOperand operand token

/-- The tokens one after another. -/
def steps (operand : Token → Plan Float) (m : Machine) : List Token → Plan Machine
  | [] => .done m
  | token :: rest => (m.step operand token).bind fun m => m.steps operand rest

/-- **The end of the tokens**: the waiting operators are applied, and one
operand is left. -/
def finish (m : Machine) : Plan Float :=
  if m.awaiting then fault .endsWithOperator
  else
    match Pending.applyAll m.frame m.operands with
    | .error e => .fail e
    | .ok operands =>
      if m.outer ≠ [] then fault .openWithoutClose
      else
        match operands with
        | [n] => .done n
        | _ => fault .notOneValue

/-! ## What the evaluator asks for -/

theorem exists_openGroup_eq (m : Machine) : ∃ r, m.openGroup = .ofExcept r := by
  unfold openGroup
  split
  · exact ⟨.ok _, rfl⟩
  · exact ⟨.error _, rfl⟩

theorem exists_closeGroup_eq (m : Machine) : ∃ r, m.closeGroup = .ofExcept r := by
  unfold closeGroup
  split
  · exact ⟨.error _, rfl⟩
  split
  · exact ⟨.error _, rfl⟩
  split
  · exact ⟨.error _, rfl⟩
  · exact ⟨.ok _, rfl⟩

theorem exists_takeOperator_eq (m : Machine) (op : Operator) (token : Token) :
    ∃ r, m.takeOperator op token = .ofExcept r := by
  unfold takeOperator pushOperator
  split
  · split
    · exact ⟨.ok _, rfl⟩
    · exact ⟨.ok _, rfl⟩
    · exact ⟨.error _, rfl⟩
  · split
    · exact ⟨.error _, rfl⟩
    · exact ⟨.ok _, rfl⟩

theorem exists_finish_eq (m : Machine) : ∃ r, m.finish = .ofExcept r := by
  unfold finish
  split
  · exact ⟨.error _, rfl⟩
  split
  · exact ⟨.error _, rfl⟩
  split
  · exact ⟨.error _, rfl⟩
  split
  · exact ⟨.ok _, rfl⟩
  · exact ⟨.error _, rfl⟩

/-- **A step asks for its operand or for nothing**, and which of them does not
depend on what the operands mean. -/
theorem step_asks (m : Machine) (token : Token) :
    (∃ r, ∀ operand, m.step operand token = .ofExcept r) ∨
      ∀ operand, m.step operand token = (operand token).bind fun n =>
        .done { m with operands := n :: m.operands, awaiting := false } := by
  unfold step
  split
  · exact .inl (m.exists_openGroup_eq.imp fun _ h _ => h)
  split
  · exact .inl (m.exists_closeGroup_eq.imp fun _ h _ => h)
  split
  · exact .inl ((m.exists_takeOperator_eq _ token).imp fun _ h _ => h)
  · unfold takeOperand
    split
    · exact .inr fun _ => rfl
    · exact .inl ⟨.error _, fun _ => rfl⟩

end Machine

/-- **The value of an arithmetic expression**, where `operand` gives operand
tokens their meaning. -/
def arithmetic (operand : Token → Plan Float) (tokens : List Token) : Plan Float :=
  if tokens = [] then .fail .emptyFormula
  else (Machine.start.steps operand tokens).bind Machine.finish

/-- **The numeric reading of an operand**. An empty cell counts as zero, and the
error of another cell is passed on. -/
def operandValue : CellValue → Except FormulaError Float
  | .empty => .ok 0
  | .number n => .ok n
  | .text s =>
    match Decimal.parsePrefix? s.toList with
    | some n => .ok n
    | none => .error (.invalidOperand s)
  | .error e => .error (.referenced e)
  | .music m => .error (.invalidOperand ("<" ++ m.typeName ++ ">"))

/-- **The meaning of an operand token**. A text that names a cell, such as a
quoted address, stands for that cell. -/
def operand (nested : List Char → Plan CellValue) (token : Token) : Plan Float :=
  (argumentValue nested token).bind fun
    | .text s =>
      if Address.hasShape s.toList then
        (Plan.lookupText s.toList).bind fun v => Plan.ofExcept (operandValue v)
      else Plan.ofExcept (operandValue (.text s))
    | v => Plan.ofExcept (operandValue v)

end SoundSheet.Formula
