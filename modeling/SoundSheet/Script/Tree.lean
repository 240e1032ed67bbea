import SoundSheet.Script.Lexeme

/-!
# Trees of the script language

Code is a sequence of statements and a set of functions. What can fail while it
runs carries the place that the failure is reported at.
-/

namespace SoundSheet.Script

/-- **The binary operators** that work on two values. -/
inductive BinaryOp where
  | add
  | sub
  | mul
  | div
  | mod
  | eq
  | ne
  | lt
  | gt
  | le
  | ge
  deriving DecidableEq, Repr

/-- How an operator is written. -/
def BinaryOp.symbol : BinaryOp → String
  | add => "+"
  | sub => "-"
  | mul => "*"
  | div => "/"
  | mod => "%"
  | eq => "=="
  | ne => "!="
  | lt => "<"
  | gt => ">"
  | le => "<="
  | ge => ">="

/-- Whether an operator can update a variable: `x += e` stands for
`x = x + e`. -/
def BinaryOp.updates : BinaryOp → Bool
  | add | sub | mul | div | mod => true
  | eq | ne | lt | gt | le | ge => false

/-- **The operators in front of a value**. -/
inductive UnaryOp where
  | plus
  | negate
  | not
  deriving DecidableEq, Repr

/-- How an operator in front of a value is written. -/
def UnaryOp.symbol : UnaryOp → String
  | plus => "+"
  | negate => "-"
  | not => "!"

mutual

/-- **An expression**. -/
inductive Expr where
  /-- The unit value. -/
  | unit
  /-- A truth value. -/
  | bool (b : Bool)
  /-- A whole number. -/
  | int (n : Int)
  /-- A number. -/
  | float (x : Float)
  /-- A text. -/
  | text (s : String)
  /-- A variable. -/
  | variable (name : String) (position : Position)
  /-- An array. -/
  | array (items : List Expr) (position : Position)
  /-- A map. -/
  | map (fields : List (String × Expr)) (position : Position)
  /-- An operator in front of a value. -/
  | unary (op : UnaryOp) (e : Expr) (position : Position)
  /-- An operator between two values. -/
  | binary (op : BinaryOp) (left right : Expr) (position : Position)
  /-- The second value if the first holds; with the places of both. -/
  | both (left right : Expr) (leftPosition rightPosition : Position)
  /-- The second value unless the first holds; with the places of both. -/
  | either (left right : Expr) (leftPosition rightPosition : Position)
  /-- The whole numbers from one value to another. -/
  | range (first last : Expr) (inclusive : Bool) (position : Position)
  /-- A call; a method is a call whose first argument stands in front. -/
  | call (name : String) (args : List Expr) (position : Position)
  /-- A part of a value, to which the steps lead; the place is that of the first
  step. -/
  | part (e : Expr) (steps : List Step) (position : Position)
  /-- A choice; the place is that of its condition. -/
  | branch (condition : Expr) (yes no : List Stmt) (position : Position)
  /-- A block. -/
  | block (body : List Stmt)

/-- **A step from a value to a part of it**. -/
inductive Step where
  /-- To a field of a map. -/
  | field (name : String) (position : Position)
  /-- To an entry of an array or a map; the place is that of the index. -/
  | entry (i : Expr) (position : Position)

/-- **A statement**. -/
inductive Stmt where
  /-- An expression for its value. -/
  | value (e : Expr)
  /-- A new variable. -/
  | bind (name : String) (e : Expr)
  /-- Another value for a variable, or for the part of its value to which the
  steps lead. -/
  | assign (name : String) (steps : List Step) (e : Expr) (position : Position)
  /-- Another value for a variable or a part of its value, made of the old one
  by an operator. -/
  | update (name : String) (steps : List Step) (op : BinaryOp) (e : Expr)
    (position opPosition : Position)
  /-- A loop without end; the place is that of its body. -/
  | loop (body : List Stmt) (position : Position)
  /-- A loop while a condition holds; the places are those of the condition and
  of its body. -/
  | whileLoop (condition : Expr) (body : List Stmt) (conditionPosition position : Position)
  /-- A loop over values; the place is that of its body. -/
  | forLoop (name : String) (values : Expr) (body : List Stmt) (position : Position)
  /-- A failure. -/
  | throw (e : Expr) (position : Position)

end

/-- **A function of a script**. -/
structure Function where
  /-- The name. -/
  name : String
  /-- The names of the parameters. -/
  params : List String
  /-- The body. -/
  body : List Stmt

/-- **A script**. -/
structure Program where
  /-- Its functions, which may be called before they are defined. -/
  functions : List Function
  /-- Its statements. -/
  body : List Stmt

end SoundSheet.Script
