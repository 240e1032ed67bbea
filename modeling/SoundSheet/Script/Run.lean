import SoundSheet.Script.Datum
import SoundSheet.Script.Host

/-!
# Running scripts

A script runs on a memory of variables and leaves behind what it asked to be
stored or played. A failure is reported with the place where it arose; one that
arises inside a function of the script also names the call.

Expressions and statements are run by recursion on their trees, from left to
right, with two exceptions: a value is worked out behind the indices of the part
that is wanted of it, and a variable is asked for behind the other arguments of
a call that starts with it and behind what it is assigned.

Loops and calls are what could go on for ever: each turn of a loop is counted
and their number is bounded, and so is the depth to which functions may call
each other.
-/

namespace SoundSheet.Script

/-- **A failure of a script**. -/
inductive Fault where
  /-- A cause and its place. -/
  | atPlace (cause : Cause) (position : Position)
  /-- A failure inside a function, and the place of the call. -/
  | inCall (fault : Fault) (name : String) (position : Position)

/-- A failure inside a function as its caller sees it. That a script has run for
too long or too deep concerns the whole script, so it is told at the place of
the outermost call alone. -/
def Fault.called (fault : Fault) (name : String) (position : Position) : Fault :=
  match fault with
  | atPlace .tooManySteps _ => atPlace .tooManySteps position
  | atPlace .tooManyCalls _ => atPlace .tooManyCalls position
  | _ => inCall fault name position

/-- The wording of a failure with its places. -/
def Fault.describe : Fault → String
  | atPlace cause position => cause.describe ++ position.describe
  | inCall fault name position =>
    fault.describe ++ "\nin call to function '" ++ name ++ "'" ++ position.describe

/-- **What a script works on**. -/
structure Memory where
  /-- The variables, the last one first. -/
  bindings : List (String × Datum)
  /-- How many turns of loops were taken. -/
  turns : Nat
  /-- The raw texts to be stored. -/
  writes : List Write
  /-- The audio events. -/
  events : List SoundEvent
  /-- How many calls of the surroundings were answered. -/
  answered : Nat

/-- Before the first statement. -/
def Memory.start : Memory :=
  ⟨[], 0, [], [], 0⟩

/-- How many turns the loops of one script may take. -/
def maxTurns : Nat := 1000000

/-- How deep functions of a script may call each other. -/
def maxCalls : Nat := 64

/-- A piece of a run. -/
abbrev Run (α : Type) := StateT Memory (Except Fault) α

/-- How calls are answered: name, arguments and place. -/
abbrev Caller := String → List Datum → Position → Run Datum

namespace Run

/-- A failure. -/
def fault {α : Type} (cause : Cause) (position : Position) : Run α :=
  fun _ => .error (.atPlace cause position)

/-- A result that may be a failure at a place. -/
def check {α : Type} (position : Position) : Except Cause α → Run α
  | .ok a => pure a
  | .error cause => fault cause position

/-- The part of a value at the end of some steps. -/
def partAt : List (Datum.Link × Position) → Datum → Run Datum
  | [], d => pure d
  | (link, position) :: rest, d => do
    let part ← check position (d.part link)
    partAt rest part

/-- A value whose part at the end of some steps is changed. -/
def changeAt (change : Datum → Run Datum) : List (Datum.Link × Position) → Datum → Run Datum
  | [], d => change d
  | (link, position) :: rest, d => do
    let part ← check position (if rest.isEmpty then d.slot link else d.part link)
    let part ← changeAt change rest part
    check position (d.set link part)

/-- Counts a turn of a loop. -/
def turn (position : Position) : Run Unit := do
  let m ← get
  if maxTurns ≤ m.turns then fault .tooManySteps position
  else set { m with turns := m.turns + 1 }

/-- The value of a variable. -/
def readVariable (name : String) (position : Position) : Run Datum := do
  match (← get).bindings.lookup name with
  | some d => pure d
  | none => fault (.unknownVariable name) position

/-- A new variable. -/
def bind (name : String) (d : Datum) : Run Unit :=
  modify fun m => { m with bindings := (name, d) :: m.bindings }

/-- The variables with another value for the last one of a name. -/
def replace (name : String) (d : Datum) : List (String × Datum) → Option (List (String × Datum))
  | [] => none
  | (n, e) :: rest =>
    if n = name then some ((n, d) :: rest) else (replace name d rest).map ((n, e) :: ·)

/-- Another value for a variable. -/
def assign (name : String) (d : Datum) (position : Position) : Run Unit := do
  let m ← get
  match replace name d m.bindings with
  | some bindings => set { m with bindings := bindings }
  | none => fault (.unknownVariable name) position

/-- Runs something whose variables are gone afterwards. -/
def inBlock {α : Type} (r : Run α) : Run α := do
  let depth := (← get).bindings.length
  let a ← r
  modify fun m => { m with bindings := m.bindings.drop (m.bindings.length - depth) }
  pure a

/-- Takes steps on a state while they say so, at most so many. -/
def iterate {σ : Type} (step : σ → Except Fault (Bool × σ)) : Nat → σ → Except Fault σ
  | 0, x => .ok x
  | n + 1, x =>
    match step x with
    | .error fault => .error fault
    | .ok (true, x) => iterate step n x
    | .ok (false, x) => .ok x

/-- Runs a body while it says so. -/
def repeatWhile (body : Run Bool) : Run Unit := fun m =>
  (iterate body.run (maxTurns + 1) m).map fun m => ((), m)

/-- Runs a body for the whole numbers from one on, up to and without another. -/
def forRange (first stop : Int) (body : Datum → Run Unit) : Run Unit := fun m =>
  let step (x : Int × Memory) : Except Fault (Bool × (Int × Memory)) :=
    if x.1 < stop then (body (.int x.1) x.2).map fun (_, m) => (true, (x.1 + 1, m))
    else .ok (false, x)
  (iterate step (maxTurns + 1) (first, m)).map fun x => ((), x.2)

/-- Runs a body for the items of an array. -/
def forItems : List Datum → (Datum → Run Unit) → Run Unit
  | [], _ => pure ()
  | d :: rest, body => do
    body d
    forItems rest body

/-- Runs a body for the values that a value holds. -/
def forEach (values : Datum) (position : Position) (body : Datum → Run Unit) : Run Unit :=
  match values with
  | .range first stop => forRange first stop body
  | .array items => forItems items body
  | _ => fault .notIterable position

/-- The truth value that a value is. -/
def truth (d : Datum) (position : Position) : Run Bool :=
  match d with
  | .bool b => pure b
  | _ => fault (.wrongType d.typeName "bool") position

/-- The range between two values. -/
def rangeOf (first last : Datum) (inclusive : Bool) (position : Position) : Run Datum :=
  match first, last with
  | .int a, .int b => pure (.range a (if inclusive then b + 1 else b))
  | _, _ =>
    fault (.unknownFunction (if inclusive then "..=" else "..")
      [first.argumentTypeName, last.argumentTypeName]) position

end Run

open Run

/-! ## Trees -/

mutual

/-- **The value of an expression**. -/
def Expr.run (call : Caller) : Expr → Run Datum
  | .unit => pure .unit
  | .bool b => pure (.bool b)
  | .int n => pure (.int n)
  | .float x => pure (.float x)
  | .text s => pure (.text s)
  | .variable name position => readVariable name position
  | .array items _ => do return .array (← runAll call items)
  | .map fields _ => do return Datum.ofFields (← runFields call fields)
  | .unary op e position => do
    let d ← e.run call
    check position (Datum.unary op d)
  | .binary op left right position => do
    let a ← left.run call
    let b ← right.run call
    check position (Datum.binary op a b)
  | .both left right leftPosition rightPosition => do
    let a ← left.run call
    if ← truth a leftPosition then
      let b ← right.run call
      return .bool (← truth b rightPosition)
    else return .bool false
  | .either left right leftPosition rightPosition => do
    let a ← left.run call
    if ← truth a leftPosition then return .bool true
    else
      let b ← right.run call
      return .bool (← truth b rightPosition)
  | .range first last inclusive position => do
    let a ← first.run call
    let b ← last.run call
    rangeOf a b inclusive position
  | .call name (.variable first place :: rest) position => do
    let rest ← runAll call rest
    let first ← readVariable first place
    call name (first :: rest) position
  | .call name args position => do
    let args ← runAll call args
    call name args position
  | .part e steps _ => do
    let links ← runSteps call steps
    let d ← e.run call
    partAt links d
  | .branch condition yes no position => do
    let d ← condition.run call
    if ← truth d position then inBlock (runBlock call yes) else inBlock (runBlock call no)
  | .block body => inBlock (runBlock call body)

/-- The values of expressions, in order. -/
def runAll (call : Caller) : List Expr → Run (List Datum)
  | [] => pure []
  | e :: rest => do
    let d ← e.run call
    let ds ← runAll call rest
    return d :: ds

/-- The values of the fields of a map, in order. -/
def runFields (call : Caller) : List (String × Expr) → Run (List (String × Datum))
  | [] => pure []
  | (key, e) :: rest => do
    let d ← e.run call
    let ds ← runFields call rest
    return (key, d) :: ds

/-- The steps to a part with the values of their indices, in order. -/
def runSteps (call : Caller) : List Step → Run (List (Datum.Link × Position))
  | [] => pure []
  | .field name position :: rest => do
    let links ← runSteps call rest
    return (.field name, position) :: links
  | .entry i position :: rest => do
    let i ← i.run call
    let links ← runSteps call rest
    return (.entry i, position) :: links

/-- **The value of a statement**; that of a declaration, an assignment or a loop
is the unit value. -/
def Stmt.run (call : Caller) : Stmt → Run Datum
  | .value e => e.run call
  | .bind name e => do
    let d ← e.run call
    Run.bind name d
    return .unit
  | .assign name steps e position => do
    let d ← e.run call
    let links ← runSteps call steps
    let old ← readVariable name position
    let new ← changeAt (fun _ => pure d) links old
    Run.assign name new position
    return .unit
  | .update name steps op e position opPosition => do
    let d ← e.run call
    let links ← runSteps call steps
    let old ← readVariable name position
    let new ← changeAt (fun part => check opPosition (Datum.update op part d)) links old
    Run.assign name new position
    return .unit
  | .loop body position => do
    repeatWhile (do
      turn position
      let _ ← inBlock (runBlock call body)
      return true)
    return .unit
  | .whileLoop condition body conditionPosition position => do
    repeatWhile (do
      let d ← condition.run call
      if ← truth d conditionPosition then
        turn position
        let _ ← inBlock (runBlock call body)
        return true
      else return false)
    return .unit
  | .forLoop name values body position => do
    let values ← values.run call
    forEach values position fun d => do
      turn position
      let _ ← inBlock (do
        Run.bind name d
        runBlock call body)
    return .unit
  | .throw e position => do
    let d ← e.run call
    fault (.raised (match d with | .unit => "" | d => d.toText)) position

/-- The value of a block, which is that of its last statement. -/
def runBlock (call : Caller) : List Stmt → Run Datum
  | [] => pure .unit
  | [s] => s.run call
  | s :: rest => do
    let _ ← s.run call
    runBlock call rest

end

/-! ## Calls -/

/-- What a call of the surroundings of a script leaves behind. -/
structure Reply where
  /-- The value. -/
  value : Datum
  /-- The raw texts to be stored. -/
  writes : List Write
  /-- The audio events. -/
  events : List SoundEvent

/-- The functions of the surroundings: none if there is no function of this
name for these arguments, else its result or the text of its failure. A result
may differ from call to call, so it is told how many calls came before. -/
abbrev Surroundings := Nat → String → List Datum → Option (Except String Reply)

/-- A call of a function of the surroundings. -/
def callOutside (outside : Surroundings) : Caller := fun name args position => do
  match outside (← get).answered name args with
  | none => fault (.unknownFunction name (args.map Datum.argumentTypeName)) position
  | some (.error text) => fault (.raised text) position
  | some (.ok reply) => do
    modify fun m =>
      { m with
        writes := m.writes ++ reply.writes
        events := m.events ++ reply.events
        answered := m.answered + 1 }
    return reply.value

/-- Runs a function of the script on arguments. It sees no variables but its
parameters. -/
def Function.run (f : Function) (call : Caller) (args : List Datum) (position : Position) :
    Run Datum := fun m =>
  let inside := { m with bindings := (f.params.zip args).reverse }
  match (runBlock call f.body).run inside with
  | .ok (d, after) => .ok (d, { after with bindings := m.bindings })
  | .error fault => .error (fault.called f.name position)

/-- The function of a script that a call asks for. -/
def findFunction? (functions : List Function) (name : String) (args : List Datum) :
    Option Function :=
  functions.find? fun f => f.name == name && f.params.length == args.length

/-- **A call** with room for so many calls of functions of the script in each
other. These functions go before those of the surroundings. -/
def callWithin (functions : List Function) (outside : Surroundings) : Nat → Caller
  | 0 => fun name args position =>
    match findFunction? functions name args with
    | some _ => fault .tooManyCalls position
    | none => callOutside outside name args position
  | room + 1 => fun name args position =>
    match findFunction? functions name args with
    | some f => f.run (callWithin functions outside room) args position
    | none => callOutside outside name args position

/-- **Runs a script**: its value and what it leaves behind. -/
def Program.run (p : Program) (outside : Surroundings) : Except Fault (Datum × Memory) :=
  (runBlock (callWithin p.functions outside maxCalls) p.body).run .start

end SoundSheet.Script
