import SoundSheet.Script.Datum

/-!
# Scripts without idle parts

Before a script runs, it is put into a simpler form. What is settled by literals
alone is worked out: operators, choices, and the parts of literal arrays and
maps. What serves nothing is left out: a statement that only names a variable or
a literal, unless its value is that of the block it ends; a loop or a choice
with nothing in it; and a variable of a block behind which the block has only
literals.

Leaving something out is seen only where it would have failed. So `x; 5` is five
whether or not there is a variable `x`, and `x` alone fails if there is none.

An assignment such as `x = x + e` becomes the update `x += e`, which works out
`e` before it asks for `x`.
-/

namespace SoundSheet.Script

/-! ## What literals settle -/

/-- The value of a literal that is no array and no map. -/
def Expr.literal? : Expr → Option Datum
  | .unit => some .unit
  | .bool b => some (.bool b)
  | .int n => some (.int n)
  | .float x => some (.float x)
  | .text s => some (.text s)
  | _ => none

/-- The literal of a value, unless that is an array or a map. -/
def Datum.literal? : Datum → Option Expr
  | .unit => some .unit
  | .bool b => some (.bool b)
  | .int n => some (.int n)
  | .float x => some (.float x)
  | .text s => some (.text s)
  | _ => none

/-- The literal of a result, or else an expression. A failure is left to arise
where the expression stands. -/
def Expr.settle (result : Option (Except Cause Datum)) (e : Expr) : Expr :=
  match result with
  | some (.ok d) => d.literal?.getD e
  | _ => e

/-- An operator in front of an expression; a sign in front of a literal number
is a part of it. -/
def Expr.ofUnary (op : UnaryOp) (e : Expr) (position : Position) : Expr :=
  Expr.settle (if op = .not then none else e.literal?.map (Datum.unary op))
    (.unary op e position)

/-- The result of an operator between two values that settles itself. A sum of a
text and another value does not. -/
def Datum.settled? (op : BinaryOp) (a b : Datum) : Option (Except Cause Datum) :=
  match op, a, b with
  | .add, .text _, .text _ => some (Datum.binary op a b)
  | .add, .text _, _ | .add, _, .text _ => none
  | _, _, _ => some (Datum.binary op a b)

/-- An operator between two expressions. -/
def Expr.ofBinary (op : BinaryOp) (left right : Expr) (position : Position) : Expr :=
  let result := do
    let a ← left.literal?
    let b ← right.literal?
    Datum.settled? op a b
  Expr.settle result (.binary op left right position)

/-- The second of two expressions if the first holds. A literal that holds does
not matter, and the other side is not even asked whether it is a truth value. -/
def Expr.ofBoth (left right : Expr) (leftPosition rightPosition : Position) : Expr :=
  match left, right with
  | .bool true, e | e, .bool true => e
  | .bool false, _ => .bool false
  | _, _ => .both left right leftPosition rightPosition

/-- The second of two expressions unless the first holds. A literal that does
not hold does not matter, and the other side is not even asked whether it is a
truth value. -/
def Expr.ofEither (left right : Expr) (leftPosition rightPosition : Position) : Expr :=
  match left, right with
  | .bool false, e | e, .bool false => e
  | .bool true, _ => .bool true
  | _, _ => .either left right leftPosition rightPosition

/-! ## Idle code -/

mutual

/-- **Whether an expression is fixed**: a literal that is made of literals. -/
def Expr.isFixed : Expr → Bool
  | .unit | .bool _ | .int _ | .float _ | .text _ => true
  | .array items _ => allFixed items
  | .map fields _ => fieldsFixed fields
  | _ => false

/-- Whether all of some expressions are fixed. -/
def allFixed : List Expr → Bool
  | [] => true
  | e :: rest => e.isFixed && allFixed rest

/-- Whether all of the fields of a map are fixed. -/
def fieldsFixed : List (String × Expr) → Bool
  | [] => true
  | (_, e) :: rest => e.isFixed && fieldsFixed rest

end

mutual

/-- **Whether an expression is idle**: it does nothing but name what is
there. -/
def Expr.isIdle : Expr → Bool
  | .variable _ _ => true
  | .both left right _ _ | .either left right _ _ => left.isIdle && right.isIdle
  | .branch condition yes no _ => condition.isIdle && allIdle yes && allIdle no
  | .block body => allIdle body
  | e => e.isFixed

/-- Whether a statement is idle. -/
def Stmt.isIdle : Stmt → Bool
  | .value e => e.isIdle
  | _ => false

/-- Whether all of some statements are idle. -/
def allIdle : List Stmt → Bool
  | [] => true
  | s :: rest => s.isIdle && allIdle rest

end

/-- Whether a statement is a fixed expression. -/
def Stmt.isFixed : Stmt → Bool
  | .value e => e.isFixed
  | _ => false

/-- Whether a statement makes a variable. -/
def Stmt.isBinding : Stmt → Bool
  | .bind _ _ => true
  | _ => false

/-- Whether statements do nothing and have no value but the unit value. -/
def Stmt.allNothing (body : List Stmt) : Bool :=
  body.all fun
    | .value .unit => true
    | _ => false

/-! ## Simpler statements

The value of the last statement of a block may be asked for. Then nothing is
told apart from no statement at all, behind which the one before would be the
last. -/

/-- No statement, or the unit value if a value is asked for. -/
def Stmt.nothing (asked : Bool) : List Stmt :=
  if asked then [.value .unit] else []

/-- An expression as a statement. -/
def Stmt.alone (asked : Bool) (e : Expr) : List Stmt :=
  if e.isIdle && !asked then [] else [.value e]

/-- A block as a statement: its statements take its place unless they make
variables. -/
def Stmt.inlined (body : List Stmt) : List Stmt :=
  if body.any Stmt.isBinding then [.value (.block body)] else body

/-- A choice as a statement. One between nothing and nothing only works out its
condition, and does not ask whether that is a truth value. -/
def Stmt.choice (asked : Bool) (condition : Expr) (yes no : List Stmt) (position : Position) :
    List Stmt :=
  let chosen (body : List Stmt) := if allNothing body then nothing asked else inlined body
  match condition with
  | .bool true => chosen yes
  | .bool false => chosen no
  | _ =>
    if allNothing yes && allNothing no then alone false condition ++ nothing asked
    else alone asked (.branch condition yes no position)

/-- A block as an expression. -/
def Expr.ofBody : List Stmt → Expr
  | [] => .unit
  | [.value e] => e
  | body => .block body

/-- An assignment, which is an update if the new value is made of the old one by
an operator with the old one on its left. -/
def Stmt.ofAssign (name : String) (steps : List Step) (e : Expr) (position : Position) : Stmt :=
  match steps, e with
  | [], .binary op (.variable other _) right opPosition =>
    if op.updates && other == name then .update name [] op right position opPosition
    else .assign name steps e position
  | _, _ => .assign name steps e position

/-- A loop over values as a statement. -/
def Stmt.loopOver (asked : Bool) (name : String) (values : Expr) (body : List Stmt)
    (position : Position) : List Stmt :=
  if values.isIdle && allIdle body then nothing asked else [.forLoop name values body position]

/-- A new variable as a statement, before the statements in `rest`. If it is the
variable of a block, it may have no use there. -/
def Stmt.binding (asked inBlock : Bool) (name : String) (e : Expr) (rest : List Stmt) : List Stmt :=
  if inBlock && e.isIdle && rest.all Stmt.isFixed then nothing asked else [.bind name e]

/-- A variable at another place. -/
def Expr.movedTo (position : Position) : Expr → Expr
  | .variable name _ => .variable name position
  | e => e

/-- The part of an expression to which steps lead. Of a literal array or map
with idle items it is the item alone, which then stands where the literal
stood. -/
def Expr.ofPart (e : Expr) (steps : List Step) (position : Position) : Expr :=
  let whole := .part e steps position
  let item (items : List Expr) (found : Option Expr) (position : Position) : Expr :=
    if items.all Expr.isIdle then (found.map (Expr.movedTo position)).getD whole else whole
  match e, steps with
  | .array items position, [.entry (.int n) _] =>
    item items ((Datum.placeAt? items.length n).bind (items[·]?)) position
  | .map fields position, [.entry (.text key) _] | .map fields position, [.field key _] =>
    item (fields.map (·.2)) (some ((fields.lookup key).getD .unit)) position
  | _, _ => whole

/-! ## Simpler scripts -/

mutual

/-- **A simpler expression**. -/
def Expr.simplify : Expr → Expr
  | .array items position => .array (simplifyAll items) position
  | .map fields position => .map (simplifyFields fields) position
  | .unary op e position => Expr.ofUnary op e.simplify position
  | .binary op left right position => Expr.ofBinary op left.simplify right.simplify position
  | .both left right leftPosition rightPosition =>
    Expr.ofBoth left.simplify right.simplify leftPosition rightPosition
  | .either left right leftPosition rightPosition =>
    Expr.ofEither left.simplify right.simplify leftPosition rightPosition
  | .range first last inclusive position =>
    .range first.simplify last.simplify inclusive position
  | .call name args position => .call name (simplifyAll args) position
  | .part e steps position => Expr.ofPart e.simplify (simplifySteps steps) position
  | .branch condition yes no position =>
    Expr.ofBody (Stmt.choice true condition.simplify (simplifyBody true true yes)
      (simplifyBody true true no) position)
  | .block body => Expr.ofBody (simplifyBody true true body)
  | e => e

/-- Simpler expressions. -/
def simplifyAll : List Expr → List Expr
  | [] => []
  | e :: rest => e.simplify :: simplifyAll rest

/-- Simpler fields of a map. -/
def simplifyFields : List (String × Expr) → List (String × Expr)
  | [] => []
  | (key, e) :: rest => (key, e.simplify) :: simplifyFields rest

/-- Simpler steps to a part. -/
def simplifySteps : List Step → List Step
  | [] => []
  | .field name position :: rest => .field name position :: simplifySteps rest
  | .entry i position :: rest => .entry i.simplify position :: simplifySteps rest

/-- **The statements in place of a statement**, before the statements in
`rest`. -/
def Stmt.simplify (asked inBlock : Bool) (rest : List Stmt) : Stmt → List Stmt
  | .value (.branch condition yes no position) =>
    Stmt.choice asked condition.simplify (simplifyBody asked true yes) (simplifyBody asked true no)
      position
  | .value (.block body) => Stmt.inlined (simplifyBody asked true body)
  | .value e => Stmt.alone asked e.simplify
  | .bind name e => Stmt.binding asked inBlock name e.simplify rest
  | .assign name steps e position =>
    [.ofAssign name (simplifySteps steps) e.simplify position]
  | .update name steps op e position opPosition =>
    [.update name (simplifySteps steps) op e.simplify position opPosition]
  | .loop body position => [.loop (simplifyBody false true body) position]
  | .whileLoop condition body conditionPosition position =>
    match condition.simplify with
    | .bool false => Stmt.nothing asked
    | condition => [.whileLoop condition (simplifyBody false true body) conditionPosition position]
  | .forLoop name values body position =>
    Stmt.loopOver asked name values.simplify (simplifyBody false true body) position
  | .throw e position => [.throw e.simplify position]

/-- **Simpler statements**, whose value may be asked for, of a block or of a
whole script. They are found from the last one on. -/
def simplifyBody (asked inBlock : Bool) : List Stmt → List Stmt
  | [] => []
  | s :: body =>
    let rest := simplifyBody asked inBlock body
    s.simplify (asked && rest.isEmpty) inBlock rest ++ rest

end

/-- A simpler function. -/
def Function.simplify (f : Function) : Function :=
  { f with body := simplifyBody true true f.body }

/-- **A simpler script**. -/
def Program.simplify (p : Program) : Program :=
  ⟨p.functions.map Function.simplify, simplifyBody true false p.body⟩

end SoundSheet.Script
