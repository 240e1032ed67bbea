import SoundSheet.Address.Basic
import SoundSheet.Formula.Name
import SoundSheet.Music.Quality

/-!
# Why a formula has no value

Each way in which a formula can fail is a cause of its own; the wording that a
user sees is one function of the cause. A cell whose formula failed holds the
kind and the wording. A formula that reads such a cell fails with the same kind
and the same wording, so an error keeps its origin along a chain of references.

One cause is of another sort. A region with more cells than a list can hold is
no error of the formula: the program ends there. It has a kind of its own, and a
sheet in which a cell holds an error of that kind is one that is never shown.
-/

namespace SoundSheet

/-- **The broad kinds of failure**. -/
inductive ErrorKind where
  /-- The formula is not well formed, or an argument has a wrong spelling. -/
  | parse
  /-- An address is malformed, outside the grid or refers back to itself. -/
  | reference
  /-- A division by zero, or an operand that is no number. -/
  | arithmetic
  /-- Calls are nested too deep. -/
  | recursionLimit
  /-- A script failed. -/
  | external
  /-- A list would be longer than lists can be; the program does not go on. -/
  | capacity
  deriving DecidableEq, Repr

/-- **The error that a cell holds**. -/
structure CellError where
  /-- The kind of failure. -/
  kind : ErrorKind
  /-- The wording. -/
  message : String
  deriving DecidableEq, Repr

/-- **What is wrong with an arithmetic expression**. -/
inductive ExpressionFault where
  /-- A parenthesis opens where an operator is expected. -/
  | openAfterOperand
  /-- A parenthesis closes where an operand is expected. -/
  | closeBeforeOperand
  /-- A parenthesis closes that none has opened. -/
  | closeWithoutOpen
  /-- A parenthesis is never closed. -/
  | openWithoutClose
  /-- An operator has nothing on its left. -/
  | missingLeftOperand (operator : String)
  /-- Two operands stand side by side; this is the second. -/
  | missingOperator (operand : String)
  /-- The expression stops where an operand is expected. -/
  | endsWithOperator
  /-- An operator is applied to too few values. -/
  | missingOperand
  /-- The expression leaves no value, or more than one. -/
  | notOneValue
  deriving DecidableEq, Repr

/-- The wording of a fault of an expression. -/
def ExpressionFault.message : ExpressionFault → String
  | openAfterOperand => "unexpected \"(\" after an operand"
  | closeBeforeOperand => "unexpected \")\""
  | closeWithoutOpen => "unbalanced \")\""
  | openWithoutClose => "unbalanced \"(\""
  | missingLeftOperand operator =>
    "operator \"" ++ operator ++ "\" is missing its left operand"
  | missingOperator operand => "missing operator before \"" ++ operand ++ "\""
  | endsWithOperator => "expression ends with an operator"
  | missingOperand => "operator is missing an operand"
  | notOneValue => "expression does not reduce to one value"

/-- **Why a formula has no value**. -/
inductive FormulaError where
  /-- The formula has no token. -/
  | emptyFormula
  /-- A builtin was called with a wrong number of arguments. -/
  | arity (builtin : Builtin)
  /-- A text is no region of cells. -/
  | invalidRegion (text : String)
  /-- A text is no traversal of a region. -/
  | invalidTraversal (text : String)
  /-- A text is no note. -/
  | invalidNote (text : String)
  /-- A text is no chord quality. -/
  | invalidQuality (text : String)
  /-- A waveform was asked of a value that is no oscillator. -/
  | invalidOscillator
  /-- A voice was bound to a value that has no bus. -/
  | invalidTrigger
  /-- A text has the shape of an address but names no cell. -/
  | invalidAddress (text : String)
  /-- A cell lies outside the grid. -/
  | outOfBounds (cell : Address)
  /-- The value of a cell depends on itself. -/
  | circularReference (cell : Address)
  /-- A divisor is zero. -/
  | divisionByZero
  /-- An operand is no number. -/
  | invalidOperand (text : String)
  /-- An expression is not well formed. -/
  | malformedExpression (fault : ExpressionFault)
  /-- Calls are nested deeper than the limit. -/
  | nestedTooDeep
  /-- An operand is the error of another cell. -/
  | referenced (cause : CellError)
  /-- A script failed with this message. -/
  | external (message : String)
  /-- A region has more cells than a list can hold; the program does not go
  on. -/
  | regionTooLarge
  deriving DecidableEq, Repr

namespace FormulaError

/-- The kind of an error. -/
def kind : FormulaError → ErrorKind
  | emptyFormula | arity _ | invalidRegion _ | invalidTraversal _ | invalidNote _
  | invalidQuality _ | invalidOscillator | invalidTrigger | malformedExpression _ => .parse
  | invalidAddress _ | outOfBounds _ | circularReference _ => .reference
  | divisionByZero | invalidOperand _ => .arithmetic
  | nestedTooDeep => .recursionLimit
  | referenced cause => cause.kind
  | external _ => .external
  | regionTooLarge => .capacity

/-- **The wording of an error**. -/
def message : FormulaError → String
  | emptyFormula => "Empty formula"
  | arity builtin => builtin.arityMessage
  | invalidRegion text => "Invalid range format. Expected \"A1:B2\", got \"" ++ text ++ "\""
  | invalidTraversal text =>
    "Invalid sequence mode: " ++ text ++ ". Expected one of: vertical, horizontal, matrix"
  | invalidNote text => "Invalid note name: " ++ text
  | invalidQuality text =>
    "Invalid chord quality: " ++ text ++ ". Valid qualities: "
      ++ String.intercalate ", " (Music.Quality.all.map Music.Quality.key)
  | invalidOscillator => "Invalid oscillator reference"
  | invalidTrigger => "Second argument must be a beat or sequence cell"
  | invalidAddress text => "Invalid cell address: " ++ text
  | outOfBounds cell => "Cell reference out of bounds (exceeds grid size): " ++ cell.toText
  | circularReference cell => "Circular reference detected at " ++ cell.toText
  | divisionByZero => "Division by zero"
  | invalidOperand text => "Invalid arithmetic operand: " ++ text
  | malformedExpression fault => "Malformed expression: " ++ fault.message
  | nestedTooDeep => "Maximum recursion depth exceeded"
  | referenced cause => cause.message
  | external message => message
  | regionTooLarge => "capacity overflow"

/-- **The error that a cell holds** when its formula failed. -/
def toCellError (e : FormulaError) : CellError :=
  ⟨e.kind, e.message⟩

end FormulaError

end SoundSheet
