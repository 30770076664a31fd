import DeskPlan.Script.Lexer
import DeskPlan.Script.Syntax

/-!
# `DeskPlan.Script.Parser`: from lexemes to programs

`compile` reads a script. The reader climbs operator precedences, so every operator is one row
of a table. While it reads it keeps the names declared in the current function, which decide
what a closure captures and which assignments meet a constant.

Nesting is limited: a script nests at most `topDepth` levels, a function body `bodyDepth`. A
parenthesis costs three levels and an operator of a chain one.

Scripts that span several files are not read: `import`, `export`, private functions and names
qualified by a module are refused, and so is the access that stops at the unit value.
-/

set_option autoImplicit false

namespace DeskPlan.Script

/-- The levels available to the expressions of a script. -/
def topDepth : Nat := 128

/-- The levels available to the body of a function or closure. -/
def bodyDepth : Nat := 64

/-! ### The reader's state -/

/-- What is left to read, the names declared in the current function (newest first, with their
constness), the names it uses without declaring them (latest first), and the functions met. -/
structure ParserState where
  rest : List Lexeme
  locals : List (String × Bool) := []
  free : List String := []
  functions : List FunctionDef := []

/-- Where in a script the reader is. -/
structure Place where
  depth : Nat
  inLoop : Bool := false
  isGlobal : Bool := false

abbrev Parse (α : Type) := StateT ParserState (Except CompileError) α

namespace Parse

/-- Stops reading. -/
def fail {α : Type} (e : CompileError) : Parse α := fun _ => .error e

/-- The next token, which stays unread. -/
def peek : Parse (Option Token) := fun s => .ok (s.rest.head?.map (·.token), s)

/-- The token after the next one. -/
def peekSecond : Parse (Option Token) := fun s => .ok ((s.rest.drop 1).head?.map (·.token), s)

/-- The place of the next token. -/
def position : Parse Position :=
  fun s => .ok ((s.rest.head?.map (·.position)).getD .start, s)

/-- Passes over the next token. -/
def advance : Parse Unit := fun s => .ok ((), { s with rest := s.rest.drop 1 })

/-- Reports the next token as out of place. -/
def unexpectedNext {α : Type} : Parse α := do
  match ← peek with
  | some t => fail (.unexpected t.describe)
  | none => fail (.missing "more")

/-- Whether the next token is the mark. -/
def atMark (m : String) : Parse Bool := do
  match ← peek with
  | some (.mark m') => return m' = m
  | _ => return false

/-- Whether the next token is the keyword. -/
def atKeyword (w : String) : Parse Bool := do
  match ← peek with
  | some (.keyword w') => return w' = w
  | _ => return false

/-- Passes over the mark if it is next, and tells whether it was. -/
def acceptMark (m : String) : Parse Bool := do
  if ← atMark m then
    advance
    return true
  else return false

/-- Passes over the keyword if it is next, and tells whether it was. -/
def acceptKeyword (w : String) : Parse Bool := do
  if ← atKeyword w then
    advance
    return true
  else return false

/-- Passes over the mark, which must be next. -/
def expectMark (m : String) : Parse Unit := do
  unless ← acceptMark m do fail (.missing m)

/-- Passes over the keyword, which must be next. -/
def expectKeyword (w : String) : Parse Unit := do
  unless ← acceptKeyword w do fail (.missing w)

/-- Passes over a name, which must be next. -/
def expectName : Parse String := do
  match ← peek with
  | some (.name n) =>
    advance
    return n
  | _ => fail (.missing "a name")

/-- Declares a name in the current function. -/
def declareName (name : String) (constant : Bool) : Parse Unit :=
  fun s => .ok ((), { s with locals := (name, constant) :: s.locals })

/-- Whether the name is a constant declared in the current function. -/
def isConstant (name : String) : Parse Bool :=
  fun s => .ok (((s.locals.lookup name)).getD false, s)

/-- Notes the use of a name. -/
def useName (name : String) : Parse Unit := fun s =>
  .ok ((), if name = receiverName || (s.locals.lookup name).isSome || s.free.contains name then s
    else { s with free := name :: s.free })

/-- Reads with the declarations of the inside forgotten afterwards. -/
def inScope {α : Type} (inside : Parse α) : Parse α := fun s => do
  let (a, s') ← inside s
  return (a, { s' with locals := s.locals })

/-- Reads the inside of a function with the given parameters, and returns the names it uses
without declaring them, in the order of first use. -/
def inFunction {α : Type} (params : List String) (inside : Parse α) : Parse (α × List String) :=
  fun s => do
    let (a, s') ← inside { s with locals := (params.reverse.map fun p => (p, false)), free := [] }
    return ((a, s'.free.reverse), { s' with locals := s.locals, free := s.free })

end Parse

namespace Place

/-- One level deeper. -/
def deeper (p : Place) : Parse Place :=
  if p.depth = 0 then .fail .tooDeep else return { p with depth := p.depth - 1 }

end Place

/-! ### Operators -/

/-- What an infix token builds. -/
inductive Infix where
  | operator (op : Operator)
  | both
  | either
  | orElse
  | member (negated : Bool)
  | range (inclusive : Bool)

/-- The infix operators with their precedences. -/
def infixMarks : List (String × Nat × Infix) :=
  [("||", 30, .either), ("|", 30, .operator .bitOr), ("^", 30, .operator .bitXor),
    ("&&", 60, .both), ("&", 60, .operator .bitAnd),
    ("==", 90, .operator .eq), ("!=", 90, .operator .ne),
    ("<", 130, .operator .lt), ("<=", 130, .operator .le), (">", 130, .operator .gt),
    (">=", 130, .operator .ge), ("??", 135, .orElse), ("..", 140, .range false),
    ("..=", 140, .range true), ("+", 150, .operator .add), ("-", 150, .operator .sub),
    ("*", 180, .operator .mul), ("/", 180, .operator .div), ("%", 180, .operator .rem),
    ("**", 190, .operator .pow), ("<<", 210, .operator .shl), (">>", 210, .operator .shr)]

/-- The precedence of the tests for membership. -/
def memberPrecedence : Nat := 110

/-- The precedence of the operator that groups to the right. -/
def rightPrecedence : Nat := 190

/-- The operators that combine with an assignment. -/
def assignMarks : List (String × Operator) :=
  [("+=", .add), ("-=", .sub), ("*=", .mul), ("/=", .div), ("%=", .rem), ("**=", .pow),
    ("<<=", .shl), (">>=", .shr), ("&=", .bitAnd), ("|=", .bitOr), ("^=", .bitXor)]

/-- The infix operator that comes next: its precedence, what it builds, and its tokens. -/
def nextInfix : Parse (Option (Nat × Infix × Nat)) := do
  match ← Parse.peek with
  | some (.keyword "in") => return some (memberPrecedence, .member false, 1)
  | some (.mark "!") =>
    match ← Parse.peekSecond with
    | some (.keyword "in") => return some (memberPrecedence, .member true, 2)
    | _ => return none
  | some (.mark m) => return (infixMarks.lookup m).map fun (p, i) => (p, i, 1)
  | _ => return none

/-- Whether an expression is written as a value that is no boolean. -/
def Expr.isOtherLiteral : Expr → Bool
  | .lit (.bool _) => false
  | .lit _ | .template _ | .array _ | .map _ _ => true
  | _ => false

/-- An expression that may stand where a boolean is asked for. -/
def asCondition (e : Expr) : Parse Expr :=
  if e.isOtherLiteral then .fail .conditionNotBoolean else return e

/-- An expression that may stand where a loop takes its items from. -/
def asIterable (e : Expr) : Parse Expr :=
  match e with
  | .lit (.bool _) | .lit (.int _) | .lit (.float _) | .lit (.char _) => .fail .notIterable
  | e => return e

/-- The expression that an infix operator builds. -/
def Infix.build (i : Infix) (l r : Expr) : Parse Expr := do
  match i with
  | .operator op => return .binary op l r
  | .both => return .both (← asCondition l) (← asCondition r)
  | .either => return .either (← asCondition l) (← asCondition r)
  | .orElse => return .orElse l r
  | .member negated => return .member negated l r
  | .range inclusive => return .range inclusive l r

/-- A sign in front of an operand. A sign in front of a number belongs to it. -/
def signed (sign : Sign) (operand : Expr) : Expr :=
  match sign, operand with
  | .minus, .lit (.int n) =>
    .lit (if fitsInt (-n) then .int (-n) else .float (-(Float.ofInt n)))
  | .minus, .lit (.float x) => .lit (.float (-x))
  | .plus, .lit (.int n) => .lit (.int n)
  | .plus, .lit (.float x) => .lit (.float x)
  | sign, operand => .unary sign operand

/-- The sign written by a mark. -/
def signMark? (m : String) : Option Sign :=
  if m = "-" then some .minus else if m = "+" then some .plus
  else if m = "!" then some .not else none

/-- A value and a step into it. -/
def Expr.follow (root : Expr) (link : Link) : Expr :=
  match root with
  | .chain root links => .chain root (links ++ [link])
  | root => .chain root [link]

/-- Whether a statement ends without a semicolon. -/
def Expr.endsItself : Expr → Bool
  | .block _ | .cond _ _ _ | .select _ _ | .whileLoop _ _ | .forLoop _ _ _ _ | .attempt _ _ _ =>
    true
  | _ => false

/-- An assignment to an expression, which must be a variable or lead into one. -/
def assignTo (op : Option Operator) (target value : Expr) : Parse Expr := do
  let checked (name : String) (links : List Link) : Parse Expr := do
    if ← Parse.isConstant name then .fail (.constantAssigned name)
    else return .assign op name links value
  match target with
  | .var name => checked name []
  | .chain (.var name) links =>
    match links.getLast? with
    -- The result of a call is no place that could hold a value.
    | some (.method _ _ _) => .fail .notAssignable
    | _ => checked name links
  | _ => .fail .notAssignable

/-! ### Lists between delimiters -/

/-- The literal at the head, with the integers of a range counting as one. -/
def readLiteral : Parse Literal := do
  let negative ← Parse.acceptMark "-"
  match ← Parse.peek with
  | some (.int n) =>
    Parse.advance
    return .int (if negative then -n else n)
  | some (.float x) =>
    Parse.advance
    return .float (if negative then -x else x)
  | some (.text s) => if negative then Parse.unexpectedNext else do
    Parse.advance
    return .text s
  | some (.char c) => if negative then Parse.unexpectedNext else do
    Parse.advance
    return .char c
  | some (.keyword "true") => if negative then Parse.unexpectedNext else do
    Parse.advance
    return .bool true
  | some (.keyword "false") => if negative then Parse.unexpectedNext else do
    Parse.advance
    return .bool false
  | some (.mark "(") => if negative then Parse.unexpectedNext else do
    Parse.advance
    Parse.expectMark ")"
    return .unit
  | _ => Parse.unexpectedNext

/-- A label of a case. -/
def readLabel : Parse Label := do
  let first ← readLiteral
  let range (inclusive : Bool) : Parse Label := do
    match first, ← readLiteral with
    | .int a, .int b => return .range a b inclusive
    | _, _ => .fail (.unexpected "range")
  if ← Parse.acceptMark ".." then range false
  else if ← Parse.acceptMark "..=" then range true
  else return .literal first

/-- The labels of a case. The fuel bounds their number. -/
def readLabels : Nat → Parse (List Label)
  | 0 => .fail .tooDeep
  | n + 1 => do
    let label ← readLabel
    if ← Parse.acceptMark "|" then return label :: (← readLabels n)
    else return [label]

/-- The parameters of a function up to the closing mark. The fuel bounds their number. -/
def readParams (close : String) : Nat → List String → Parse (List String)
  | 0, _ => .fail .tooDeep
  | n + 1, read => do
    if ← Parse.acceptMark close then return read.reverse
    let name ← Parse.expectName
    if read.contains name then .fail (.duplicateParameter name)
    if ← Parse.acceptMark close then return (name :: read).reverse
    Parse.expectMark ","
    readParams close n (name :: read)

/-! ### Expressions and statements -/

mutual

/-- An expression. -/
def readExpr : Nat → Place → Parse Expr
  | 0, _ => .fail .tooDeep
  | n + 1, place => do
    let place ← place.deeper
    let first ← readUnary n place
    readInfix n place 0 first

/-- The operators after an operand that bind at least as tightly as `least`. -/
def readInfix : Nat → Place → Nat → Expr → Parse Expr
  | 0, _, _, _ => .fail .tooDeep
  | n + 1, place, least, left => do
    match ← nextInfix with
    | none => return left
    | some (precedence, i, tokens) =>
      -- Operators of one precedence group to the left, powers to the right.
      if precedence < least || (precedence = least && precedence ≠ rightPrecedence) then
        return left
      Parse.advance
      if tokens = 2 then Parse.advance
      let right ← readUnary n place
      -- An operator that binds tighter takes the right operand first.
      let right ← do
        match ← nextInfix with
        | some (next, _) =>
          if precedence < next || (precedence = next && precedence = rightPrecedence) then
            readInfix n place precedence right
          else pure right
        | none => pure right
      readInfix n (← place.deeper) least (← i.build left right)

/-- An operand with the signs in front of it. -/
def readUnary : Nat → Place → Parse Expr
  | 0, _ => .fail .tooDeep
  | n + 1, place => do
    let place ← place.deeper
    match ← Parse.peek with
    | some (.mark m) =>
      match signMark? m with
      | some sign =>
        Parse.advance
        return signed sign (← readUnary n place)
      | none => readOperand n place
    | _ => readOperand n place

/-- An operand with the steps after it. -/
def readOperand : Nat → Place → Parse Expr
  | 0, _ => .fail .tooDeep
  | n + 1, place => do
    let place ← place.deeper
    let inner := { place with isGlobal := false }
    match ← Parse.peek with
    | some (.int v) =>
      Parse.advance
      readSteps n inner (.lit (.int v))
    | some (.float v) =>
      Parse.advance
      readSteps n inner (.lit (.float v))
    | some (.char v) =>
      Parse.advance
      readSteps n inner (.lit (.char v))
    | some (.text v) =>
      Parse.advance
      readSteps n inner (.lit (.text v))
    | some (.piece v true last) =>
      Parse.advance
      let rest ← if last then pure [] else readPieces n inner
      readSteps n inner (.template (.lit (.text v) :: rest))
    | some (.keyword "true") =>
      Parse.advance
      return .lit (.bool true)
    | some (.keyword "false") =>
      Parse.advance
      return .lit (.bool false)
    | some (.mark "(") =>
      Parse.advance
      if ← Parse.acceptMark ")" then readSteps n inner .unit
      else do
        let e ← readExpr n inner
        Parse.expectMark ")"
        readSteps n inner e
    | some (.mark "[") =>
      Parse.advance
      readSteps n inner (.array (← readItems n inner "]" true))
    | some (.mark "#\x7b") =>
      Parse.advance
      let entries ← readEntries n inner []
      readSteps n inner (.map (entries.map Prod.fst) (entries.map Prod.snd))
    | some (.mark "\x7b") => readBlock n inner
    | some (.mark "|") =>
      Parse.advance
      readClosure n (← readParams "|" n [])
    | some (.mark "||") =>
      Parse.advance
      readClosure n []
    | some (.keyword "if") | some (.keyword "switch") | some (.keyword "while")
    | some (.keyword "loop") | some (.keyword "do") | some (.keyword "for") => readForm n inner
    | some (.name name) => do
      let position ← Parse.position
      Parse.advance
      if ← Parse.acceptMark "(" then
        readSteps n inner (.call position name (← readItems n inner ")" false))
      else do
        Parse.useName name
        readSteps n inner (.var name)
    | _ => Parse.unexpectedNext

/-- The steps after an operand: indices, properties and method calls. -/
def readSteps : Nat → Place → Expr → Parse Expr
  | 0, _, _ => .fail .tooDeep
  | n + 1, place, root => do
    if ← Parse.acceptMark "[" then
      let key ← readExpr n place
      Parse.expectMark "]"
      readSteps n place (root.follow (.index key))
    else if ← Parse.acceptMark "." then
      let position ← Parse.position
      let name ← Parse.expectName
      if ← Parse.acceptMark "(" then
        readSteps n place (root.follow (.method position name (← readItems n place ")" false)))
      else readSteps n place (root.follow (.field name))
    else return root

/-- The items up to the closing mark; a comma may follow the last one where that is allowed. -/
def readItems : Nat → Place → String → Bool → Parse (List Expr)
  | 0, _, _, _ => .fail .tooDeep
  | n + 1, place, close, trailing => do
    if ← Parse.acceptMark close then return []
    let item ← readExpr n place
    if ← Parse.acceptMark close then return [item]
    Parse.expectMark ","
    if !trailing && (← Parse.atMark close) then Parse.unexpectedNext
    return item :: (← readItems n place close trailing)

/-- The entries of a map up to its closing brace. -/
def readEntries : Nat → Place → List String → Parse (List (String × Expr))
  | 0, _, _ => .fail .tooDeep
  | n + 1, place, seen => do
    if ← Parse.acceptMark "\x7d" then return []
    let key ← do
      match ← Parse.peek with
      | some (.name k) | some (.text k) =>
        Parse.advance
        pure k
      | _ => .fail (.missing "a property name")
    if seen.contains key then .fail (.duplicateKey key)
    Parse.expectMark ":"
    let value ← readExpr n place
    if ← Parse.acceptMark "\x7d" then return [(key, value)]
    Parse.expectMark ","
    return (key, value) :: (← readEntries n place (key :: seen))

/-- The embedded scripts and pieces of a template after its first piece. -/
def readPieces : Nat → Place → Parse (List Expr)
  | 0, _ => .fail .tooDeep
  | n + 1, place => do
    let body ← Parse.inScope (readStatements n place)
    match ← Parse.peek with
    | some (.piece v false last) =>
      Parse.advance
      let rest ← if last then pure [] else readPieces n place
      return .block body :: .lit (.text v) :: rest
    | _ => Parse.unexpectedNext

/-- A closure with the given parameters. -/
def readClosure : Nat → List String → Parse Expr
  | 0, _ => .fail .tooDeep
  | n + 1, params => do
    let (body, captured) ← Parse.inFunction params (readStatement n { depth := bodyDepth })
    -- What an inner closure takes along, the one around it has to take along too.
    captured.forM Parse.useName
    return .closure params body captured

/-- A block between braces. -/
def readBlock : Nat → Place → Parse Expr
  | 0, _ => .fail .tooDeep
  | n + 1, place => return .block (← readBody n place)

/-- The statements of a block between braces. -/
def readBody : Nat → Place → Parse (List Expr)
  | 0, _ => .fail .tooDeep
  | n + 1, place => do
    let place ← place.deeper
    Parse.expectMark "\x7b"
    let body ← Parse.inScope (readStatements n { place with isGlobal := false })
    Parse.expectMark "\x7d"
    return body

/-- The statements up to a closing brace, the next piece of a template, or the end. -/
def readStatements : Nat → Place → Parse (List Expr)
  | 0, _ => .fail .tooDeep
  | n + 1, place => do
    match ← Parse.peek with
    | none | some (.mark "\x7d") | some (.piece _ false _) => return []
    | some (.mark ";") =>
      Parse.advance
      readStatements n place
    | some (.keyword "fn") =>
      readFunction n place
      readStatements n place
    | _ => readStatementThen n place

/-- A statement and those after it. -/
def readStatementThen : Nat → Place → Parse (List Expr)
  | 0, _ => .fail .tooDeep
  | n + 1, place => do
    let statement ← readStatement n place
    match ← Parse.peek with
    | none | some (.mark "\x7d") | some (.piece _ false _) => return [statement]
    | some (.mark ";") =>
      Parse.advance
      return statement :: (← readStatements n place)
    | _ =>
      -- Only a statement that ends in a brace may do without a semicolon.
      if statement.endsItself then return statement :: (← readStatements n place)
      else .fail (.missing ";")

/-- A function definition. -/
def readFunction : Nat → Place → Parse Unit
  | 0, _ => .fail .tooDeep
  | n + 1, place => do
    unless place.isGlobal do .fail .functionNotGlobal
    Parse.advance
    let name ← Parse.expectName
    Parse.expectMark "("
    let params ← readParams ")" n []
    let (body, _) ← Parse.inFunction params (readBlock n { depth := bodyDepth })
    let f : FunctionDef := ⟨name, params, body⟩
    let known ← get
    if known.functions.any f.sameSignature then .fail (.duplicateFunction name)
    set { known with functions := known.functions ++ [f] }

/-- A form that starts with a keyword and may stand for a value. -/
def readForm : Nat → Place → Parse Expr
  | 0, _ => .fail .tooDeep
  | n + 1, place => do
    let inner := { place with isGlobal := false }
    let looped := { inner with inLoop := true }
    if ← Parse.acceptKeyword "if" then
      let test ← asCondition (← readExpr n inner)
      let thenPart ← readBlock n inner
      if ← Parse.acceptKeyword "else" then
        if ← Parse.atKeyword "if" then return .cond test thenPart (← readForm n inner)
        else return .cond test thenPart (← readBlock n inner)
      else return .cond test thenPart .unit
    else if ← Parse.acceptKeyword "switch" then
      let scrutinee ← readExpr n inner
      Parse.expectMark "\x7b"
      return .select scrutinee (← readCases n inner)
    else if ← Parse.acceptKeyword "while" then
      let test ← asCondition (← readExpr n inner)
      return .whileLoop test (← readBody n looped)
    else if ← Parse.acceptKeyword "loop" then
      return .whileLoop (.lit (.bool true)) (← readBody n looped)
    else if ← Parse.acceptKeyword "do" then
      let body ← readBody n looped
      let stopWhen ← Parse.acceptKeyword "until"
      unless stopWhen do Parse.expectKeyword "while"
      return .doLoop body stopWhen (← asCondition (← readExpr n inner))
    else do
      Parse.expectKeyword "for"
      let bracketed ← Parse.acceptMark "("
      let item ← Parse.expectName
      let counter ← if bracketed then do
          Parse.expectMark ","
          let counter ← Parse.expectName
          if counter = item then .fail (.duplicateParameter counter)
          Parse.expectMark ")"
          pure (some counter)
        else pure none
      Parse.expectKeyword "in"
      let source ← asIterable (← readExpr n inner)
      let body ← Parse.inScope do
        match counter with
        | some counter => Parse.declareName counter false
        | none => pure ()
        Parse.declareName item false
        readBody n looped
      return .forLoop item counter source body

/-- The cases of a switch up to its closing brace. -/
def readCases : Nat → Place → Parse (List Case)
  | 0, _ => .fail .tooDeep
  | n + 1, place => do
    if ← Parse.acceptMark "\x7d" then return []
    let isDefault ← Parse.acceptKeyword "_"
    let labels ← if isDefault then pure [] else readLabels n
    let guard ← if ← Parse.acceptKeyword "if" then
        if isDefault then Parse.unexpectedNext
        else asCondition (← readExpr n place)
      else pure (.lit (.bool true))
    Parse.expectMark "=>"
    let body ← readStatement n place
    let case := Case.mk labels isDefault guard body
    let last (c : List Case) : Parse (List Case) :=
      -- Nothing may follow the default.
      if isDefault && !c.isEmpty then .fail .misplacedDefault else return case :: c
    if ← Parse.acceptMark "," then last (← readCases n place)
    else if body.endsItself then last (← readCases n place)
    else do
      Parse.expectMark "\x7d"
      return [case]

/-- A statement. -/
def readStatement : Nat → Place → Parse Expr
  | 0, _ => .fail .tooDeep
  | n + 1, place => do
    let place ← place.deeper
    let inner := { place with isGlobal := false }
    /- The value after a word that may stand alone. -/
    let optional : Parse Expr := do
      match ← Parse.peek with
      | none | some (.mark ";") | some (.mark "\x7d") | some (.mark ",")
      | some (.piece _ false _) => return .unit
      | _ => readExpr n inner
    let declaration (constant : Bool) : Parse Expr := do
      Parse.advance
      let name ← Parse.expectName
      let value ← if ← Parse.acceptMark "=" then readExpr n inner else pure .unit
      Parse.declareName name constant
      return .declare constant name value
    match ← Parse.peek with
    | some (.mark "\x7b") => readBlock n inner
    | some (.keyword "fn") => .fail .functionNotGlobal
    | some (.keyword "if") | some (.keyword "switch") | some (.keyword "while")
    | some (.keyword "loop") | some (.keyword "do") | some (.keyword "for") => readForm n inner
    | some (.keyword "let") => declaration false
    | some (.keyword "const") => declaration true
    | some (.keyword "break") =>
      unless place.inLoop do .fail (.outsideLoop "break")
      Parse.advance
      return .breakLoop (← optional)
    | some (.keyword "continue") =>
      unless place.inLoop do .fail (.outsideLoop "continue")
      Parse.advance
      return .continueLoop
    | some (.keyword "return") =>
      Parse.advance
      return .giveBack (← optional)
    | some (.keyword "throw") =>
      Parse.advance
      return .raise (← optional)
    | some (.keyword "try") =>
      Parse.advance
      let body ← readBlock n inner
      Parse.expectKeyword "catch"
      let caught ← if ← Parse.acceptMark "(" then do
          let name ← Parse.expectName
          Parse.expectMark ")"
          pure (some name)
        else pure none
      let handler ← Parse.inScope do
        match caught with
        | some name => Parse.declareName name false
        | none => pure ()
        readBlock n inner
      return .attempt body caught handler
    | _ =>
      let e ← readExpr n inner
      match ← Parse.peek with
      | some (.mark "=") =>
        Parse.advance
        assignTo none e (← readExpr n inner)
      | some (.mark m) =>
        match assignMarks.lookup m with
        | some op =>
          Parse.advance
          assignTo (some op) e (← readExpr n inner)
        | none => return e
      | _ => return e

end

/-- Reads a script. -/
def compile (source : String) : Except CompileError Program := do
  let lexemes ← lexemes source
  let place : Place := { depth := topDepth, isGlobal := true }
  let (body, state) ← readStatements (16 * lexemes.length + 64) place { rest := lexemes }
  match state.rest with
  | [] => return ⟨body, state.functions⟩
  | l :: _ => .error (.unexpected l.token.describe)

end DeskPlan.Script
