import SoundSheet.Decimal.Fixed
import SoundSheet.Decimal.Remainder
import SoundSheet.Script.Tree
import SoundSheet.Text.Graphic

/-!
# Values of the script language

A script computes with the unit value, truth values, whole numbers of 64 bits,
numbers, texts, arrays and maps. A whole number mixed with a number becomes a
number; a sum with a text on either side joins texts. Values of unlike kinds are
never equal, except for numbers of the two kinds.

Two numbers are compared within a tolerance, so that what rounding leaves behind
makes no difference: `0.1 + 0.2` is `0.3`, and neither is less than the other.
Whole numbers are compared exactly.
-/

namespace SoundSheet.Script

open SoundSheet.Decimal SoundSheet.Text

/-- **A value of the script language**. -/
inductive Datum where
  /-- The unit value. -/
  | unit
  /-- A truth value. -/
  | bool (b : Bool)
  /-- A whole number. -/
  | int (n : Int)
  /-- A number. -/
  | float (x : Float)
  /-- A text. -/
  | text (s : String)
  /-- An array. -/
  | array (items : List Datum)
  /-- A map; its keys increase. -/
  | map (fields : List (String × Datum))
  /-- The whole numbers from one on, up to and without another. -/
  | range (first stop : Int)
  deriving Inhabited

/-- **Why an operation on values fails**. -/
inductive Cause where
  /-- A failure with a text. -/
  | raised (text : String)
  /-- There is no such variable. -/
  | unknownVariable (name : String)
  /-- There is no such function of arguments of these types. -/
  | unknownFunction (name : String) (types : List String)
  /-- A whole number divided by zero. -/
  | divisionByZero (a b : Int)
  /-- A remainder by zero, or one that is out of range. -/
  | moduloByZero (a b : Int)
  /-- A whole number out of range; the operation and its operands. -/
  | overflow (operation : String) (a : Int) (symbol : String) (b : Int)
  /-- A negated whole number out of range. -/
  | negationOverflow (a : Int)
  /-- An index outside an array. -/
  | arrayIndex (index : Int) (size : Nat)
  /-- An index outside a text. -/
  | textIndex (index : Int) (size : Nat)
  /-- A value of the wrong type. -/
  | wrongType (found expected : String)
  /-- A field of a value that has none. -/
  | noField (name type : String)
  /-- A field to be set of a value that has none. -/
  | noSetter (name type : String)
  /-- An entry of a value that has none. -/
  | noEntry (type indexType : String)
  /-- A loop over a value that holds no others. -/
  | notIterable
  /-- The script has run for too long. -/
  | tooManySteps
  /-- Functions are called too deep in each other. -/
  | tooManyCalls
  deriving DecidableEq, Repr

namespace Datum

/-- The name of the type of a value. -/
def typeName : Datum → String
  | unit => "()"
  | bool _ => "bool"
  | int _ => "i64"
  | float _ => "f64"
  | text _ => "string"
  | array _ => "array"
  | map _ => "map"
  | range .. => "range"

/-- The name of the type of an argument in a message about a missing
function. -/
def argumentTypeName : Datum → String
  | text _ => "&str | ImmutableString | String"
  | d => d.typeName

/-! ## Texts -/

/-- A character inside quotes. -/
def quoteChar (c : Char) : List Char :=
  if c = '"' then ['\\', '"']
  else if c = '\\' then ['\\', '\\']
  else if c = '\n' then ['\\', 'n']
  else if c = '\r' then ['\\', 'r']
  else if c = '\t' then ['\\', 't']
  else if c.toNat = 0 then ['\\', '0']
  else if isGraphic c then [c]
  else '\\' :: 'u' :: '\x7b' :: Nat.toDigits 16 c.toNat ++ ['\x7d']

/-- A text in quotes. -/
def quote (s : String) : String :=
  String.ofList ('"' :: s.toList.flatMap quoteChar ++ ['"'])

mutual

/-- **A value inside an array or a map**, where texts are quoted. -/
def inspect : Datum → String
  | unit => "()"
  | bool b => if b then "true" else "false"
  | int n => String.ofList (ofInt n)
  | float x => String.ofList (pointed.write x)
  | text s => quote s
  | array items => "[" ++ String.intercalate ", " (inspectAll items) ++ "]"
  | map fields => "#\x7b" ++ String.intercalate ", " (inspectFields fields) ++ "\x7d"
  | range first stop => String.ofList (ofInt first) ++ ".." ++ String.ofList (ofInt stop)

/-- The items of an array. -/
def inspectAll : List Datum → List String
  | [] => []
  | d :: rest => d.inspect :: inspectAll rest

/-- The fields of a map. -/
def inspectFields : List (String × Datum) → List String
  | [] => []
  | (key, d) :: rest => (quote key ++ ": " ++ d.inspect) :: inspectFields rest

end

/-- **The text of a value**. -/
def toText : Datum → String
  | text s => s
  | d => d.inspect

/-! ## Maps -/

/-- A map with a field, which takes the place of one of the same name. -/
def insert (key : String) (d : Datum) : List (String × Datum) → List (String × Datum)
  | [] => [(key, d)]
  | (k, e) :: rest =>
    if key < k then (key, d) :: (k, e) :: rest
    else if key = k then (key, d) :: rest
    else (k, e) :: insert key d rest

/-- The map of some fields; of two with the same name the later one counts. -/
def ofFields (fields : List (String × Datum)) : Datum :=
  map (fields.foldl (fun m (key, d) => insert key d m) [])

/-- A map with the fields of another one, which take the place of its own. -/
def merge (a b : List (String × Datum)) : List (String × Datum) :=
  b.foldl (fun m (key, d) => insert key d m) a

/-! ## Comparing numbers -/

/-- The distance from one to the next number. -/
def epsilon : Float := 2.220446049250313e-16

/-- How far apart two numbers may be and count as the same: in proportion to the
larger one, but not to zero. -/
def tolerance (a b : Float) : Float :=
  let scale := if a * b == 0 then 1 else if a.abs < b.abs then b.abs else a.abs
  scale * epsilon

/-- **Whether one number is less than another** by more than the tolerance. -/
def lessNumber (a b : Float) : Bool :=
  tolerance a b < b - a

/-- **Whether two numbers count as the same**. An infinite number is no distance
away from itself, so it does not. -/
def sameNumber (a b : Float) : Bool :=
  (a - b).abs ≤ tolerance a b

/-! ## Operators -/

mutual

/-- **Equality of values**. -/
def same : Datum → Datum → Bool
  | unit, unit => true
  | bool a, bool b => a == b
  | int a, int b => a == b
  | int a, float b => sameNumber (Float.ofInt a) b
  | float a, int b => sameNumber a (Float.ofInt b)
  | float a, float b => sameNumber a b
  | text a, text b => a == b
  | array a, array b => sameAll a b
  | map a, map b => sameFields a b
  | range a b, range c d => a == c && b == d
  | _, _ => false

/-- Equality of the items of arrays. -/
def sameAll : List Datum → List Datum → Bool
  | [], [] => true
  | a :: as, b :: bs => a.same b && sameAll as bs
  | _, _ => false

/-- Equality of the fields of maps. -/
def sameFields : List (String × Datum) → List (String × Datum) → Bool
  | [], [] => true
  | (k, a) :: as, (l, b) :: bs => k == l && a.same b && sameFields as bs
  | _, _ => false

end

/-- A whole number of 64 bits, or else a failure. -/
def bounded (cause : Cause) (n : Int) : Except Cause Datum :=
  if minInt ≤ n ∧ n ≤ maxInt then .ok (int n) else .error cause

/-- An operator on whole numbers. Quotients are rounded toward zero, and a
remainder has the sign of the dividend. -/
def intOp (a b : Int) : BinaryOp → Except Cause Datum
  | .add => bounded (.overflow "Addition" a "+" b) (a + b)
  | .sub => bounded (.overflow "Subtraction" a "-" b) (a - b)
  | .mul => bounded (.overflow "Multiplication" a "*" b) (a * b)
  | .div =>
    if b = 0 then .error (.divisionByZero a b)
    else bounded (.overflow "Division" a "/" b) (a.tdiv b)
  | .mod =>
    if b = 0 ∨ (a = minInt ∧ b = -1) then .error (.moduloByZero a b) else .ok (int (a.tmod b))
  | .eq => .ok (bool (a == b))
  | .ne => .ok (bool (a != b))
  | .lt => .ok (bool (a < b))
  | .gt => .ok (bool (b < a))
  | .le => .ok (bool (a ≤ b))
  | .ge => .ok (bool (b ≤ a))

/-- An operator on numbers. -/
def floatOp (a b : Float) : BinaryOp → Datum
  | .add => float (a + b)
  | .sub => float (a - b)
  | .mul => float (a * b)
  | .div => float (a / b)
  | .mod => float (remainder a b)
  | .eq => bool (sameNumber a b)
  | .ne => bool (!sameNumber a b)
  | .lt => bool (lessNumber a b)
  | .gt => bool (lessNumber b a)
  | .le => bool (!lessNumber b a)
  | .ge => bool (!lessNumber a b)

/-- The order of truth values: what does not hold comes first. -/
def boolOp (a b : Bool) : BinaryOp → Option Datum
  | .lt => some (bool (!a && b))
  | .gt => some (bool (a && !b))
  | .le => some (bool (!a || b))
  | .ge => some (bool (a || !b))
  | _ => none

/-- The unit value is in no order, not even with itself. -/
def unitOp : BinaryOp → Option Datum
  | .lt | .gt | .le | .ge => some (bool false)
  | _ => none

/-- A text without a part of it, wherever that begins behind the last one left
out; the next `skipped` characters belong to that one. -/
def leaveOut (part : List Char) (skipped : Nat) : List Char → List Char
  | [] => []
  | c :: rest =>
    match skipped with
    | k + 1 => leaveOut part k rest
    | 0 =>
      if part ≠ [] ∧ part.isPrefixOf (c :: rest) then leaveOut part (part.length - 1) rest
      else c :: leaveOut part 0 rest

/-- An operator on texts, which are in the order of their characters. A
difference leaves out what is taken away wherever it stands. -/
def textOp (a b : String) : BinaryOp → Option Datum
  | .add => some (text (a ++ b))
  | .sub => some (text (String.ofList (leaveOut b.toList 0 a.toList)))
  | .eq => some (bool (a == b))
  | .ne => some (bool (a != b))
  | .lt => some (bool (a < b))
  | .gt => some (bool (b < a))
  | .le => some (bool (!(b < a)))
  | .ge => some (bool (!(a < b)))
  | _ => none

/-- The text that a value adds to a text; the unit value adds nothing. -/
def addedText : Datum → String
  | unit => ""
  | d => d.toText

/-- An operator on values of other kinds: a sum joins texts, arrays or maps,
equality compares, and values of unlike kinds are in no order. -/
def mixedOp (a b : Datum) (op : BinaryOp) : Except Cause Datum :=
  match op, a, b with
  | .add, text s, d => .ok (text (s ++ d.addedText))
  | .add, d, text s => .ok (text (d.addedText ++ s))
  | .add, array x, array y => .ok (array (x ++ y))
  | .add, map x, map y => .ok (map (merge x y))
  | .eq, _, _ => .ok (bool (a.same b))
  | .ne, _, _ => .ok (bool (!a.same b))
  | _, _, _ =>
    let ordering := op = .lt ∨ op = .gt ∨ op = .le ∨ op = .ge
    if ordering ∧ a.typeName ≠ b.typeName then .ok (bool false)
    else .error (.unknownFunction op.symbol [a.argumentTypeName, b.argumentTypeName])

/-- **The result of an operator**. -/
def binary (op : BinaryOp) (a b : Datum) : Except Cause Datum :=
  match a, b with
  | int x, int y => intOp x y op
  | int x, float y => .ok (floatOp (Float.ofInt x) y op)
  | float x, int y => .ok (floatOp x (Float.ofInt y) op)
  | float x, float y => .ok (floatOp x y op)
  | bool x, bool y => (boolOp x y op).elim (mixedOp a b op) .ok
  | unit, unit => (unitOp op).elim (mixedOp a b op) .ok
  | text x, text y => (textOp x y op).elim (mixedOp a b op) .ok
  | _, _ => mixedOp a b op

/-- **The value that an update leaves**: what is not an array itself is added to
an array as an item, else the result is that of the operator. -/
def update (op : BinaryOp) (a b : Datum) : Except Cause Datum :=
  match op, a, b with
  | .add, array x, array y => .ok (array (x ++ y))
  | .add, array x, d => .ok (array (x ++ [d]))
  | _, _, _ => binary op a b

/-- **The result of an operator in front of a value**. -/
def unary (op : UnaryOp) (a : Datum) : Except Cause Datum :=
  match op, a with
  | .plus, int _ | .plus, float _ => .ok a
  | .negate, int n => bounded (.negationOverflow n) (-n)
  | .negate, float x => .ok (float (-x))
  | .not, bool b => .ok (bool !b)
  | _, _ => .error (.unknownFunction op.symbol [a.argumentTypeName])

/-! ## Parts -/

/-- **A step from a value to a part of it**. -/
inductive Link where
  /-- To a field of a map. -/
  | field (name : String)
  /-- To an entry of an array or a map. -/
  | entry (i : Datum)

/-- The place of an index, which counts from the end if it is negative. -/
def placeAt? (size : Nat) (i : Int) : Option Nat :=
  if 0 ≤ i then (if i.toNat < size then some i.toNat else none)
  else if (-i).toNat ≤ size then some (size - (-i).toNat)
  else none

/-- Why a value has no entry at an index. -/
def noEntry (a i : Datum) : Cause :=
  match a, i with
  | array items, int n => .arrayIndex n items.length
  | text s, int n => .textIndex n s.length
  | array _, _ | text _, _ => .wrongType i.typeName "i64"
  | map _, _ => .wrongType i.typeName "string"
  | _, _ => .noEntry a.typeName i.typeName

/-- **An entry of a value**; a map has the unit value under all other keys. -/
def entry (a i : Datum) : Except Cause Datum :=
  let found :=
    match a, i with
    | array items, int n => (placeAt? items.length n).bind (items[·]?)
    | text s, int n =>
      ((placeAt? s.length n).bind (s.toList[·]?)).map fun c => text (String.ofList [c])
    | map fields, text key => some ((fields.lookup key).getD unit)
    | _, _ => none
  found.elim (.error (noEntry a i)) .ok

/-- **A field of a value**; a map has the unit value under all other names.
Texts and arrays have a length. -/
def field (a : Datum) (name : String) : Except Cause Datum :=
  match a, name with
  | map fields, _ => .ok ((fields.lookup name).getD unit)
  | array items, "len" => .ok (int items.length)
  | text s, "len" => .ok (int s.length)
  | _, _ => .error (.noField name a.typeName)

/-- **The part of a value** that is a step away. -/
def part (a : Datum) : Link → Except Cause Datum
  | .field name => a.field name
  | .entry i => a.entry i

/-- The part of a value that is a step away and is to be set. -/
def slot (a : Datum) : Link → Except Cause Datum
  | .field name =>
    match a with
    | map fields => .ok ((fields.lookup name).getD unit)
    | _ => .error (.noSetter name a.typeName)
  | .entry i => a.entry i

/-- A value with another part a step away; a map takes a new key as well. -/
def set (a : Datum) (link : Link) (d : Datum) : Except Cause Datum :=
  match a, link with
  | map fields, .field name => .ok (map (insert name d fields))
  | map fields, .entry (text key) => .ok (map (insert key d fields))
  | array items, .entry (int n) =>
    (placeAt? items.length n).elim (.error (.arrayIndex n items.length)) fun k =>
      .ok (array (items.set k d))
  | text _, .entry (int _) => .error (.wrongType d.typeName "char")
  | _, .field name => .error (.noSetter name a.typeName)
  | _, .entry i => .error (noEntry a i)

end Datum

namespace Cause

/-- How many there are of something. -/
def countText (size : Nat) (one many none : String) : String :=
  match size with
  | 0 => none
  | 1 => "only 1 " ++ one
  | n => "only " ++ natText n ++ " " ++ many

/-- An operation on whole numbers as it is shown in a message. -/
def operationText (a : Int) (symbol : String) (b : Int) : String :=
  String.ofList (ofInt a) ++ " " ++ symbol ++ " " ++ String.ofList (ofInt b)

/-- **The wording of a cause**. -/
def describe : Cause → String
  | raised text => if text = "" then "Runtime error" else "Runtime error: " ++ text
  | unknownVariable name => "Variable not found: " ++ name
  | unknownFunction name types =>
    "Function not found: " ++ name ++ " (" ++ String.intercalate ", " types ++ ")"
  | divisionByZero a b => "Division by zero: " ++ operationText a "/" b
  | moduloByZero a b => "Modulo division by zero or overflow: " ++ operationText a "%" b
  | overflow operation a symbol b => operation ++ " overflow: " ++ operationText a symbol b
  | negationOverflow a => "Negation overflow: -" ++ String.ofList (ofInt a)
  | arrayIndex index size =>
    "Array index " ++ String.ofList (ofInt index) ++ " out of bounds: "
      ++ countText size "element in array" "elements in array" "array is empty"
  | textIndex index size =>
    "String index " ++ String.ofList (ofInt index) ++ " out of bounds: "
      ++ countText size "character in string" "characters in string" "string is empty"
  | wrongType found expected =>
    "Data type incorrect: " ++ found ++ " (expecting " ++ expected ++ ")"
  | noField name type =>
    "Unknown property '" ++ name ++ "' - a getter is not registered for type '" ++ type ++ "'"
  | noSetter name type =>
    "Unknown property '" ++ name ++ "' - a setter is not registered for type '" ++ type ++ "'"
  | noEntry type indexType => "Indexer unavailable: " ++ type ++ " [" ++ indexType ++ "]"
  | notIterable => "For loop expects iterable type"
  | tooManySteps => "Too many operations"
  | tooManyCalls => "Stack overflow"

end Cause

end SoundSheet.Script
