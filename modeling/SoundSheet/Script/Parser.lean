import SoundSheet.Script.Tree

/-!
# From code to trees

The parser reads the lexemes of code from left to right and looks one lexeme
ahead. Binary operators of one rank group to the left; the ranks, from the
loosest, are *or*, *and*, equality, order, ranges, sums and products. A
statement ends with a semicolon, except the last one of a block or script and
those that end with a block.

The first lexeme that fits nothing is an error at its place; code that stops too
early is an error at the place behind its last character. The functions of a
grammar take the room for nested steps as an argument, since a step may look at
a lexeme without taking it; the code itself bounds the room that is needed.
-/

namespace SoundSheet.Script

/-- **Why code is no script**. -/
structure ParseFault where
  /-- The wording. -/
  message : String
  /-- The place. -/
  position : Position
  deriving DecidableEq, Repr

/-- The wording of a fault with its place. -/
def ParseFault.describe (f : ParseFault) : String :=
  f.message ++ f.position.describe

/-- A lexeme as it was written. -/
def Lexeme.describe : Lexeme → String
  | name s => s
  | int n => Decimal.natText n
  | float x => String.ofList (Decimal.pointed.write x)
  | text s => "\"" ++ s ++ "\""
  | symbol s => s
  | openText => "\""
  | badEscape c => String.ofList ['\\', c]
  | stray c => String.ofList [c]

/-- A result and the lexemes that are left. -/
abbrev Rest (α : Type) := α × List Item

section Parsing

variable (stop : Position)

/-- The place of the next lexeme. -/
def placeOf : List Item → Position
  | [] => stop
  | item :: _ => item.position

/-- A fault at the next lexeme. If that is no proper lexeme, this is what is
wrong. -/
def faultAt {α : Type} (items : List Item) (message : String) : Except ParseFault α :=
  let message :=
    match items with
    | ⟨.openText, _⟩ :: _ => "Open string is not terminated"
    | ⟨.badEscape c, _⟩ :: _ =>
      "Invalid escape sequence: '" ++ Lexeme.describe (.badEscape c) ++ "'"
    | ⟨.stray c, _⟩ :: _ => "Unexpected '" ++ Lexeme.describe (.stray c) ++ "'"
    | _ => message
  .error ⟨message, placeOf stop items⟩

/-- The fault that the next lexeme fits nothing. -/
def unexpected {α : Type} (items : List Item) : Except ParseFault α :=
  match items with
  | [] => faultAt stop items "Script is incomplete"
  | item :: _ => faultAt stop items ("Unexpected '" ++ item.lexeme.describe ++ "'")

/-- Whether the next lexeme is a symbol. -/
def nextIs (s : String) : List Item → Bool
  | ⟨lexeme, _⟩ :: _ => lexeme == .symbol s
  | [] => false

/-- Whether the next lexeme is a keyword. -/
def nextIsWord (s : String) : List Item → Bool
  | ⟨lexeme, _⟩ :: _ => lexeme == .name s
  | [] => false

/-- Takes a symbol that has to come next; `purpose` says what it is for. -/
def expect (s purpose : String) (items : List Item) : Except ParseFault (List Item) :=
  match items with
  | item :: rest =>
    if item.lexeme = .symbol s then .ok rest
    else faultAt stop items ("Expecting '" ++ s ++ "' " ++ purpose)
  | [] => faultAt stop items ("Expecting '" ++ s ++ "' " ++ purpose)

/-- The names that mean something else than a variable. -/
def keywords : List String :=
  ["let", "if", "else", "while", "loop", "for", "in", "fn", "throw", "true", "false"]

/-- Takes a name that has to come next; `what` says of what. -/
def expectName (what : String) (items : List Item) : Except ParseFault (Rest String) :=
  match items with
  | ⟨.name s, _⟩ :: rest =>
    if s ∈ keywords then faultAt stop items ("Expecting name of " ++ what) else .ok (s, rest)
  | _ => faultAt stop items ("Expecting name of " ++ what)

/-! ## Expressions and statements -/

/-- What a binary operator makes of its sides. -/
inductive Joint where
  /-- An operator on two values. -/
  | op (op : BinaryOp)
  /-- The logical *and*. -/
  | both
  /-- The logical *or*. -/
  | either
  /-- A range. -/
  | range (inclusive : Bool)

/-- The operator that a symbol denotes between two values, and its rank. -/
def joint? : String → Option (Joint × Nat)
  | "||" => some (.either, 1)
  | "&&" => some (.both, 2)
  | "==" => some (.op .eq, 3)
  | "!=" => some (.op .ne, 3)
  | "<" => some (.op .lt, 4)
  | ">" => some (.op .gt, 4)
  | "<=" => some (.op .le, 4)
  | ">=" => some (.op .ge, 4)
  | ".." => some (.range false, 5)
  | "..=" => some (.range true, 5)
  | "+" => some (.op .add, 6)
  | "-" => some (.op .sub, 6)
  | "*" => some (.op .mul, 7)
  | "/" => some (.op .div, 7)
  | "%" => some (.op .mod, 7)
  | _ => none

/-- The place of what is wrong with the value of an expression: that of its
outermost operator or step, or else where it begins. -/
def Expr.place (start : Position) : Expr → Position
  | .unary _ _ position | .binary _ _ _ position | .range _ _ _ position => position
  | .part _ _ position => position
  | _ => start

/-- Joins two expressions, which begin at `leftStart` and `rightStart`. -/
def Joint.join (j : Joint) (left right : Expr) (leftStart position rightStart : Position) :
    Expr :=
  match j with
  | op o => .binary o left right position
  | both => .both left right (left.place leftStart) (right.place rightStart)
  | either => .either left right (left.place leftStart) (right.place rightStart)
  | range inclusive => .range left right inclusive position

/-- A part of a value, one step further. -/
def Expr.follow (e : Expr) (step : Step) (position : Position) : Expr :=
  match e with
  | .part e steps position => .part e (steps ++ [step]) position
  | _ => .part e [step] position

/-- The variable that an expression stands for, or the steps to a part of its
value, and its place. Only to these can something be assigned. -/
def Expr.target? : Expr → Option (String × List Step × Position)
  | .variable name position => some (name, [], position)
  | .part (.variable name position) steps _ => some (name, steps, position)
  | _ => none

/-- The operator of an assignment that updates a variable. -/
def updateOp? : String → Option BinaryOp
  | "+=" => some .add
  | "-=" => some .sub
  | "*=" => some .mul
  | "/=" => some .div
  | "%=" => some .mod
  | _ => none

mutual

/-- An expression whose outermost operators have a rank of `rank` at least. -/
def parseExpr : Nat → Nat → List Item → Except ParseFault (Rest Expr)
  | 0, _, items => unexpected stop items
  | room + 1, rank, items => do
    let start := placeOf stop items
    let (left, items) ← parseUnary room items
    parseJoints room rank start left items

/-- The operators behind an expression that begins at `start`. -/
def parseJoints : Nat → Nat → Position → Expr → List Item → Except ParseFault (Rest Expr)
  | 0, _, _, _, items => unexpected stop items
  | room + 1, rank, start, left, items =>
    match items with
    | ⟨.symbol s, position⟩ :: rest =>
      match joint? s with
      | some (j, r) =>
        if rank ≤ r then do
          let rightStart := placeOf stop rest
          let (right, rest) ← parseExpr room (r + 1) rest
          parseJoints room rank start (j.join left right start position rightStart) rest
        else .ok (left, items)
      | none => .ok (left, items)
    | _ => .ok (left, items)

/-- An expression behind the signs in front of it. -/
def parseUnary : Nat → List Item → Except ParseFault (Rest Expr)
  | 0, items => unexpected stop items
  | room + 1, items =>
    match items with
    | ⟨.symbol "-", position⟩ :: rest => do
      let (e, rest) ← parseUnary room rest
      .ok (.unary .negate e position, rest)
    | ⟨.symbol "+", position⟩ :: rest => do
      let (e, rest) ← parseUnary room rest
      .ok (.unary .plus e position, rest)
    | ⟨.symbol "!", position⟩ :: rest => do
      let (e, rest) ← parseUnary room rest
      .ok (.unary .not e position, rest)
    | _ => do
      let (e, items) ← parsePrimary room items
      parsePostfix room e items

/-- The fields, entries and methods behind an expression. -/
def parsePostfix : Nat → Expr → List Item → Except ParseFault (Rest Expr)
  | 0, _, items => unexpected stop items
  | room + 1, e, items =>
    match items with
    | ⟨.symbol ".", mark⟩ :: ⟨.name name, position⟩ :: rest =>
      if nextIs "(" rest || nextIs "()" rest then do
        let (args, rest) ← parseArguments room name rest
        parsePostfix room (.call name (e :: args) position) rest
      else parsePostfix room (e.follow (.field name position) mark) rest
    | ⟨.symbol ".", _⟩ :: rest => faultAt stop rest "Expecting name of a property"
    | ⟨.symbol "[", mark⟩ :: rest => do
      let position := placeOf stop rest
      let (i, rest) ← parseExpr room 0 rest
      let rest ← expect stop "]" "for a matching [ in this index expression" rest
      parsePostfix room (e.follow (.entry i position) mark) rest
    | _ => .ok (e, items)

/-- The arguments of a call with their parentheses. -/
def parseArguments : Nat → String → List Item → Except ParseFault (Rest (List Expr))
  | 0, _, items => unexpected stop items
  | room + 1, name, items =>
    match items with
    | ⟨.symbol "()", _⟩ :: rest => .ok ([], rest)
    | ⟨.symbol "(", _⟩ :: ⟨.symbol ")", _⟩ :: rest => .ok ([], rest)
    | _ :: rest =>
      parseList room ")" ("to close the parameters list of function '" ++ name ++ "'") rest
    | [] => unexpected stop items

/-- Expressions between commas up to a closing symbol, which is taken too. -/
def parseList : Nat → String → String → List Item → Except ParseFault (Rest (List Expr))
  | 0, _, _, items => unexpected stop items
  | room + 1, close, purpose, items =>
    if nextIs close items then .ok ([], items.tail)
    else do
      let (e, items) ← parseExpr room 0 items
      if nextIs "," items then
        let (es, items) ← parseList room close purpose items.tail
        .ok (e :: es, items)
      else
        let items ← expect stop close purpose items
        .ok ([e], items)

/-- The fields of a map up to its closing brace, which is taken too. -/
def parseFields : Nat → List Item → Except ParseFault (Rest (List (String × Expr)))
  | 0, items => unexpected stop items
  | room + 1, items =>
    match items with
    | ⟨.symbol "\x7d", _⟩ :: rest => .ok ([], rest)
    | ⟨.name key, _⟩ :: rest | ⟨.text key, _⟩ :: rest => do
      let purpose := "to follow the property '" ++ key ++ "' in this object map literal"
      let rest ← expect stop ":" purpose rest
      let (e, rest) ← parseExpr room 0 rest
      if nextIs "," rest then
        let (fields, rest) ← parseFields room rest.tail
        .ok ((key, e) :: fields, rest)
      else
        let rest ← expect stop "\x7d" "to end this object map literal" rest
        .ok ([(key, e)], rest)
    | _ => faultAt stop items "Expecting name of a property"

/-- A literal, a variable, a call, a choice or something in parentheses. -/
def parsePrimary : Nat → List Item → Except ParseFault (Rest Expr)
  | 0, items => unexpected stop items
  | room + 1, items =>
    match items with
    | ⟨.int n, _⟩ :: rest => .ok (.int n, rest)
    | ⟨.float x, _⟩ :: rest => .ok (.float x, rest)
    | ⟨.text s, _⟩ :: rest => .ok (.text s, rest)
    | ⟨.symbol "()", _⟩ :: rest => .ok (.unit, rest)
    | ⟨.symbol "(", _⟩ :: rest => do
      let (e, rest) ← parseExpr room 0 rest
      let rest ← expect stop ")" "for a matching ( in this expression" rest
      .ok (e, rest)
    | ⟨.symbol "[", position⟩ :: rest => do
      let (es, rest) ← parseList room "]" "to end this array literal" rest
      .ok (.array es position, rest)
    | ⟨.symbol "#\x7b", position⟩ :: rest => do
      let (fields, rest) ← parseFields room rest
      .ok (.map fields position, rest)
    | ⟨.symbol "\x7b", _⟩ :: _ => do
      let (body, rest) ← parseBlock room items
      .ok (.block body, rest)
    | ⟨.name "true", _⟩ :: rest => .ok (.bool true, rest)
    | ⟨.name "false", _⟩ :: rest => .ok (.bool false, rest)
    | ⟨.name "if", _⟩ :: _ => parseBranch room items
    | ⟨.name name, position⟩ :: rest =>
      if name ∈ keywords then unexpected stop items
      else if nextIs "(" rest || nextIs "()" rest then do
        let (args, rest) ← parseArguments room name rest
        .ok (.call name args position, rest)
      else .ok (.variable name position, rest)
    | _ => unexpected stop items

/-- A choice, from its keyword on. -/
def parseBranch : Nat → List Item → Except ParseFault (Rest Expr)
  | 0, items => unexpected stop items
  | room + 1, items => do
    let start := placeOf stop items.tail
    let (condition, items) ← parseExpr room 0 items.tail
    let position := condition.place start
    let (yes, items) ← parseBlock room items
    if nextIsWord "else" items then
      if nextIsWord "if" items.tail then
        let (no, items) ← parseBranch room items.tail
        .ok (.branch condition yes [.value no] position, items)
      else
        let (no, items) ← parseBlock room items.tail
        .ok (.branch condition yes no position, items)
    else .ok (.branch condition yes [] position, items)

/-- A block with its braces. -/
def parseBlock : Nat → List Item → Except ParseFault (Rest (List Stmt))
  | 0, items => unexpected stop items
  | room + 1, items => do
    let items ← expect stop "\x7b" "to start a statement block" items
    parseStmts room items

/-- The statements of a block up to its closing brace, which is taken too. -/
def parseStmts : Nat → List Item → Except ParseFault (Rest (List Stmt))
  | 0, items => unexpected stop items
  | room + 1, items =>
    if nextIs "\x7d" items then .ok ([], items.tail)
    else if nextIs ";" items then parseStmts room items.tail
    else do
      let ((stmt, closed), items) ← parseStmt room items
      if nextIs "\x7d" items then .ok ([stmt], items.tail)
      else if nextIs ";" items then
        let (stmts, items) ← parseStmts room items.tail
        .ok (stmt :: stmts, items)
      else if closed && !items.isEmpty then
        let (stmts, items) ← parseStmts room items
        .ok (stmt :: stmts, items)
      else if items.isEmpty then faultAt stop items "Expecting '\x7d' to terminate this block"
      else faultAt stop items "Expecting ';' to terminate this statement"

/-- A statement, and whether it ends with a block and so needs no semicolon. -/
def parseStmt : Nat → List Item → Except ParseFault (Rest (Stmt × Bool))
  | 0, items => unexpected stop items
  | room + 1, items =>
    match items with
    | ⟨.name "let", _⟩ :: rest => do
      let (name, rest) ← expectName stop "a variable" rest
      if nextIs "=" rest then
        let (e, rest) ← parseExpr room 0 rest.tail
        .ok ((.bind name e, false), rest)
      else .ok ((.bind name .unit, false), rest)
    | ⟨.name "throw", position⟩ :: rest =>
      if rest.isEmpty || nextIs ";" rest || nextIs "\x7d" rest then
        .ok ((.throw .unit position, false), rest)
      else do
        let (e, rest) ← parseExpr room 0 rest
        .ok ((.throw e position, false), rest)
    | ⟨.name "loop", _⟩ :: rest => do
      let position := placeOf stop rest
      let (body, rest) ← parseBlock room rest
      .ok ((.loop body position, true), rest)
    | ⟨.name "while", _⟩ :: rest => do
      let start := placeOf stop rest
      let (condition, rest) ← parseExpr room 0 rest
      let position := placeOf stop rest
      let (body, rest) ← parseBlock room rest
      .ok ((.whileLoop condition body (condition.place start) position, true), rest)
    | ⟨.name "for", _⟩ :: rest => do
      let (name, rest) ← expectName stop "a variable" rest
      if nextIsWord "in" rest then
        let (values, rest) ← parseExpr room 0 rest.tail
        let position := placeOf stop rest
        let (body, rest) ← parseBlock room rest
        .ok ((.forLoop name values body position, true), rest)
      else faultAt stop rest "Expecting 'in' after the iteration variable"
    | ⟨.name "if", _⟩ :: _ => do
      let (e, rest) ← parseBranch room items
      .ok ((.value e, true), rest)
    | ⟨.symbol "\x7b", _⟩ :: _ => do
      let (body, rest) ← parseBlock room items
      .ok ((.value (.block body), true), rest)
    | _ => do
      let (e, rest) ← parseExpr room 0 items
      match rest, e.target? with
      | ⟨.symbol s, opPosition⟩ :: after, some (name, steps, position) =>
        match s == "=", updateOp? s with
        | true, _ => do
          let (value, rest) ← parseExpr room 0 after
          .ok ((.assign name steps value position, false), rest)
        | false, some op => do
          let (value, rest) ← parseExpr room 0 after
          .ok ((.update name steps op value position opPosition, false), rest)
        | false, none => .ok ((.value e, false), rest)
      | _, _ => .ok ((.value e, false), rest)

end

/-! ## Functions and scripts -/

/-- The parameters of a function behind its opening parenthesis. -/
def parseParams : Nat → List Item → Except ParseFault (Rest (List String))
  | 0, items => unexpected stop items
  | room + 1, items =>
    if nextIs ")" items then .ok ([], items.tail)
    else do
      let (name, items) ← expectName stop "a parameter" items
      if nextIs "," items then
        let (names, items) ← parseParams room items.tail
        .ok (name :: names, items)
      else
        let items ← expect stop ")" "to close the parameters list" items
        .ok ([name], items)

/-- A function behind its keyword. -/
def parseFunction (room : Nat) (items : List Item) : Except ParseFault (Rest Function) := do
  let (name, items) ← expectName stop "a function" items
  let (params, items) ←
    if nextIs "()" items then .ok ([], items.tail)
    else do
      let items ← expect stop "(" "to start the parameters list" items
      parseParams stop room items
  let (body, items) ← parseBlock stop room items
  .ok (⟨name, params, body⟩, items)

/-- What is told when a function is defined twice. -/
def duplicateMessage (f : Function) : String :=
  let count :=
    match f.params.length with
    | 0 => "no parameters"
    | 1 => "1 parameter"
    | n => Decimal.natText n ++ " parameters"
  "Function '" ++ f.name ++ "' with " ++ count ++ " already exists"

/-- Whether two functions are called in the same way. -/
def Function.clashes (f g : Function) : Bool :=
  f.name == g.name && f.params.length == g.params.length

/-- The rest of a script, behind the functions in `known`. -/
def parseTop : Nat → List Function → List Item → Except ParseFault Program
  | 0, _, items => unexpected stop items
  | _ + 1, known, [] => .ok ⟨known, []⟩
  | room + 1, known, ⟨lexeme, position⟩ :: rest =>
    if lexeme = .name "fn" then do
      let (f, rest) ← parseFunction stop room rest
      if known.any f.clashes then .error ⟨duplicateMessage f, position⟩
      else
        let rest := if nextIs ";" rest then rest.tail else rest
        parseTop room (f :: known) rest
    else if lexeme = .symbol ";" then parseTop room known rest
    else do
      let ((stmt, closed), rest) ← parseStmt stop room (⟨lexeme, position⟩ :: rest)
      let rest ←
        match rest with
        | [] => .ok []
        | item :: after =>
          if item.lexeme = .symbol ";" then .ok after
          else if closed then .ok rest
          else faultAt stop rest "Expecting ';' to terminate this statement"
      let program ← parseTop room known rest
      .ok { program with body := stmt :: program.body }

end Parsing

/-- **The script that code denotes**. Each lexeme is looked at by a bounded
number of nested steps. -/
def Program.parse (code : List Char) : Except ParseFault Program :=
  let (items, stop) := lex code
  parseTop stop (16 * items.length + 16) [] items

end SoundSheet.Script
