import DeskPlan.Script.Builtin
import DeskPlan.Script.Machine

/-!
# `DeskPlan.Script.Eval`: running scripts

`eval` gives every expression its action. It recurses on the expression; a call leaves it and
runs the body of the function through `Host.invoke`, which `invokeAt` supplies for each number of
calls that may still nest. So an evaluation needs no other bound than the number of turns granted
to each loop.

* A function sees its parameters, a closure also what it captured; neither sees the caller's
  variables.
* A function called as a method has its receiver under the name `this`, and what it makes of it is
  kept, whether it comes to an end or fails (`Receiver`). A constant stays one under that name.
* A statement whose value nobody asks for is left out when it is pure (`Expr.isPure`).
-/

set_option autoImplicit false

namespace DeskPlan.Script

/-- A function about to be called: its parameters, its body, what it captured, and how a fault
inside it is reported. -/
structure Callee where
  params : List String
  body : Expr
  captured : Scope
  wrap : EvalError → EvalError

/-- What an evaluation is given: the named functions, the turns granted to each loop, and the
means to call a function, which tells how the call ends and the scope it leaves. -/
structure Host where
  functions : List FunctionDef
  turns : Nat
  invoke : Callee → List Value → Action (Except Signal Value × Scope)

/-- What a method is called on: a value, and whether it belongs to a constant. -/
structure Receiver where
  value : Value
  constant : Bool

/-- How a call of a method ends, with the receiver as the method leaves it if it may change it. -/
abbrev Called := Except Signal Value × Option Value

/-- The receiver as a method sees it. -/
def Receiver.entry (r : Receiver) : Entry :=
  ⟨receiverName, if r.constant then .fixed r.value else .own r.value⟩

namespace Host

/-! ### Calls -/

/-- Calls a function. The receiver is the oldest entry of the scope the function runs in. -/
def callOn (h : Host) (f : Callee) (receiver : Option Receiver) (args : List Value) :
    Action Called := do
  let (result, left) ← h.invoke { f with
    captured := f.captured ++ (receiver.map Receiver.entry).toList } args
  return (result, receiver.bind fun _ => left.getLast?.bind fun e => e.slot.own?)

/-- The call of a named function. -/
def callNamed (h : Host) (f : FunctionDef) (receiver : Option Receiver) (args : List Value) :
    Action Called :=
  h.callOn ⟨f.params, f.body, [], .inFunction f.name⟩ receiver args

/-- The call of a function that is a value. -/
def callStored (h : Host) (f : Value) (receiver : Option Receiver) (args : List Value) :
    Action Called :=
  match f with
  | .closure params body constants cells =>
    if params.length = args.length then
      let captured := (constants.map fun c => (⟨c.1, .fixed c.2⟩ : Entry)) ++
        cells.map fun c => (⟨c.1, .shared c.2⟩ : Entry)
      h.callOn ⟨params, body, captured, .inClosure⟩ receiver args
    else .fail (.functionNotFound "Fn" (args.map Value.signatureName))
  | .function name =>
    match findFunction? h.functions name args.length with
    | some f => h.callNamed f receiver args
    | none => do
      let (v, _) ← .ofExcept (builtin name args)
      return (.ok v, none)
  | v => .fail (.functionNotFound "call" ((v :: args).map Value.signatureName))

/-- The call of a function that is a value, on no receiver. -/
def callValue (h : Host) (f : Value) (args : List Value) : Action Value := do
  let (result, _) ← h.callStored f none args
  .resume result

/-- Whether a function asks for the number of the item beside the item. -/
def asksIndex (h : Host) (f : Value) (arity : Nat) : Bool :=
  match f with
  | .closure params _ _ _ => params.length = arity + 1
  | .function name => (findFunction? h.functions name (arity + 1)).isSome &&
      (findFunction? h.functions name arity).isNone
  | _ => false

/-- The call of a function on the item with the given number. -/
def callOnItem (h : Host) (f : Value) (args : List Value) (i : Nat) : Action Value :=
  h.callValue f (if h.asksIndex f args.length then args ++ [.int i] else args)

/-- A value where a condition is asked for. -/
def asBool (v : Value) : Action Bool :=
  match v with
  | .bool b => return b
  | v => .fail (.typeMismatch v.typeName "bool")

/-- The images of the items. -/
def mapItems (h : Host) (f : Value) : Nat → List Value → Action (List Value)
  | _, [] => return []
  | i, v :: rest => do
    let w ← h.callOnItem f [v] i
    return w :: (← mapItems h f (i + 1) rest)

/-- The items for which the function holds; a result that is no boolean counts as false. -/
def filterItems (h : Host) (f : Value) : Nat → List Value → Action (List Value)
  | _, [] => return []
  | i, v :: rest => do
    match ← h.callOnItem f [v] i with
    | .bool true => return v :: (← filterItems h f (i + 1) rest)
    | _ => filterItems h f (i + 1) rest

/-- The items combined from the left. -/
def reduceItems (h : Host) (f : Value) : Nat → Value → List Value → Action Value
  | _, acc, [] => return acc
  | i, acc, v :: rest => do
    reduceItems h f (i + 1) (← h.callOnItem f [acc, v] i) rest

/-- A value put in its place among sorted ones, as a function that compares two values says. -/
def insertItem (h : Host) (f : Value) (v : Value) : List Value → Action (List Value)
  | [] => return [v]
  | w :: rest => do
    match ← h.callValue f [v, w] with
    | .int n => if n < 0 then return v :: w :: rest else return w :: (← insertItem h f v rest)
    | _ => return w :: (← insertItem h f v rest)

/-- The values in the order that a function says. -/
def sortItems (h : Host) (f : Value) : List Value → List Value → Action (List Value)
  | sorted, [] => return sorted
  | sorted, v :: rest => do sortItems h f (← h.insertItem f v sorted) rest

/-- Whether a value can be called. -/
def callable : Value → Bool
  | .closure _ _ _ _ | .function _ => true
  | _ => false

/-- A call of a function that every script can call. The second result is the changed first
argument. -/
def callBuiltin (h : Host) (position : Position) (name : String) (args : List Value) :
    Action (Value × Option Value) := do
  match name, args with
  | "print", [v] =>
    .say (.printed v.text)
    return (.unit, none)
  | "debug", [v] =>
    .say (.debugged v.inner position)
    return (.unit, none)
  | "call", f :: rest => return (← h.callValue f rest, none)
  | "map", [.array items, f] => return (.array (← h.mapItems f 0 items), none)
  | "filter", [.array items, f] => return (.array (← h.filterItems f 0 items), none)
  | "reduce", [.array items, f] => return (← h.reduceItems f 0 .unit items, none)
  | "reduce", [.array items, f, first] => return (← h.reduceItems f 0 first items, none)
  | "sort", [.array items, f] => return (.unit, some (.array (← h.sortItems f [] items)))
  | name, args => .ofExcept (builtin name args)

/-- A call of a method. -/
def callMethod (h : Host) (position : Position) (name : String) (receiver : Receiver)
    (args : List Value) : Action Called := do
  let stored := match receiver.value with
    | .map entries => (entries.lookup name).filter callable
    | _ => none
  match stored with
  | some f => h.callStored f (some receiver) args
  | none =>
    match findFunction? h.functions name args.length with
    | some f => h.callNamed f (some receiver) args
    | none =>
      let (result, changed) ← h.callBuiltin position name (receiver.value :: args)
      match changed with
      | some _ =>
        if receiver.constant then .fail (.constantReceiver name) else return (.ok result, changed)
      | none => return (.ok result, none)

/-! ### Steps into values -/

/-- Where the steps lead from a receiver, and the receiver afterwards if a method on the way may
have changed it. What lies behind a method is no part of its receiver. -/
def follow (h : Host) : List Key → Receiver → Action Called
  | [], r => return (.ok r.value, none)
  | .method position name args :: rest, r => do
    match ← h.callMethod position name r args with
    | (.error s, changed) => return (.error s, changed)
    | (.ok result, changed) =>
      match ← Action.attempt (follow h rest ⟨result, false⟩) with
      | .ok (final, _) => return (final, changed)
      | .error s => return (.error s, changed)
  | key :: rest, r => do
    let part ← .ofExcept (r.value.part key)
    let (final, changed) ← follow h rest ⟨part, r.constant⟩
    -- A part that cannot be written is left as it is.
    return (final, changed.bind fun part => (r.value.withPart key part).toOption)

/-- The start with the value that the steps lead to replaced by its image. -/
def update (h : Host) (f : Value → Action Value) : List Key → Value → Action Value
  | [], v => f v
  | .method position name args :: rest, v => do
    let (result, changed) ← h.callMethod position name ⟨v, false⟩ args
    let _ ← update h f rest (← .resume result)
    return changed.getD v
  | key :: rest, v => do
    let part ← .ofExcept (v.part key)
    .ofExcept (v.withPart key (← update h f rest part))

/-! ### Variables -/

/-- The value of a variable; a name that only a function has stands for the function. -/
def readVariable (h : Host) (name : String) : Action Value := do
  match ← .find? name with
  | some e => .read e.slot
  | none =>
    if h.functions.any fun f => f.name = name then return .function name
    else .fail (.variableNotFound name)

/-- Follows steps from a variable and keeps what changes on the way. -/
def followFrom (h : Host) (name : String) (keys : List Key) : Action Value := do
  let start ← h.readVariable name
  let constant ← do
    match ← .find? name with
    | some e => pure e.constant
    | none => pure true
  match ← h.follow keys ⟨start, constant⟩ with
  | (final, none) => .resume final
  | (final, some changed) =>
    .assign name changed
    .resume final

/-- A call whose first argument is a variable, which the function may change unless it is a
constant or shared with closures. -/
def callOnVariable (h : Host) (position : Position) (name variable_ : String) (rest : List Value) :
    Action Value := do
  let v ← h.readVariable variable_
  match findFunction? h.functions name (rest.length + 1) with
  | some f => .resume (← h.callNamed f none (v :: rest)).1
  | none =>
    match ← h.callBuiltin position name (v :: rest), ← .find? variable_ with
    | (result, some changed), some ⟨_, .own _⟩ =>
      .assign variable_ changed
      return result
    | (result, _), _ => return result

/-- A call by name. -/
def callByName (h : Host) (position : Position) (name : String) (args : List Value) :
    Action Value := do
  match findFunction? h.functions name args.length with
  | some f => .resume (← h.callNamed f none args).1
  | none =>
    let (result, _) ← h.callBuiltin position name args
    return result

/-- What a closure takes along: constants by value, variables by cell. -/
def captureAll : List String → Action (List (String × Value) × List (String × Nat))
  | [] => return ([], [])
  | name :: rest => do
    let taken ← .capture name
    let (constants, cells) ← captureAll rest
    match taken with
    | .inl v => return ((name, v) :: constants, cells)
    | .inr cell => return (constants, (name, cell) :: cells)

/-! ### Loops and cases -/

/-- How many items a loop goes through, and the item with a given number. -/
def items? : Value → Option (Nat × (Nat → Value))
  | .array items =>
    let items := items.toArray
    some (items.size, fun i => items[i]?.getD .unit)
  | .str s =>
    let cs := s.toList.toArray
    some (cs.size, fun i => (cs[i]?.map Value.char).getD .unit)
  | .range a b inclusive =>
    some ((if inclusive then b - a + 1 else b - a).toNat, fun i => .int (a + i))
  | .steps a b step =>
    let count := if 0 < step then (b - a + step - 1) / step
      else if step < 0 then (a - b - step - 1) / (-step) else 0
    some (count.toNat, fun i => .int (a + i * step))
  | _ => none

/-- Which cases a switch looks at: those with the literal, those with a range that holds the
value, or the default. -/
inductive Choice where
  | literal
  | range
  | otherwise

/-- Whether a label stands for the value. -/
def Label.holds (choice : Choice) (v : Value) : Label → Bool
  | .literal l =>
    match choice with
    | .literal => v.sameType (.ofLiteral l) && v.same (.ofLiteral l)
    | _ => false
  | .range a b inclusive =>
    match choice, v with
    | .range, .int n => a ≤ n && (n < b || (inclusive && n = b))
    | _, _ => false

/-- Whether a switch looks at a case with these labels. -/
def considers (choice : Choice) (v : Value) (labels : List Label) (isDefault : Bool) : Bool :=
  match choice with
  | .otherwise => isDefault
  | choice => labels.any (Label.holds choice v)

/-! ### Evaluation -/

/-- Whether a value is in a collection, or is not. -/
def evalMember (negated : Bool) (item collection : Value) : Action Value := do
  match ← Action.ofExcept (isMember item collection) with
  | .bool b => return .bool (b != negated)
  | v => return v

mutual

/-- The value of an expression. -/
def eval (h : Host) : Expr → Action Value
  | .lit l => return .ofLiteral l
  | .template parts => return .str (String.join ((← evalEach h parts).map Value.text))
  | .array items => return .array (← evalEach h items)
  | .map keys values => do
    let values ← evalEach h values
    return .map ((keys.zip values).foldl (fun m e => NameMap.insertEntry e.1 e.2 m) [])
  | .var name => h.readVariable name
  | .unary sign e => do .ofExcept (applySign sign (← eval h e))
  | .binary op l r => do
    let a ← eval h l
    let b ← eval h r
    .ofExcept (applyOperator op a b)
  | .both l r => do
    if ← asBool (← eval h l) then return .bool (← asBool (← eval h r)) else return .bool false
  | .either l r => do
    if ← asBool (← eval h l) then return .bool true else return .bool (← asBool (← eval h r))
  | .orElse l r => do
    match ← eval h l with
    | .unit => eval h r
    | v => return v
  | .member negated item (.var collection) => do
    let v ← eval h item
    evalMember negated v (← h.readVariable collection)
  | .member negated item collection => do
    let c ← eval h collection
    evalMember negated (← eval h item) c
  | .range inclusive l r => do
    let a ← eval h l
    let b ← eval h r
    match a, b with
    | .int m, .int n => return .range m n inclusive
    | a, b => .fail (.functionNotFound (if inclusive then "..=" else "..")
        [a.signatureName, b.signatureName])
  | .call position name (.var variable_ :: args) => do
    h.callOnVariable position name variable_ (← evalEach h args)
  | .call position name args => do h.callByName position name (← evalEach h args)
  | .chain (.var name) links => do h.followFrom name (← evalLinks h links)
  | .chain root links => do
    let keys ← evalLinks h links
    let (final, _) ← h.follow keys ⟨← eval h root, false⟩
    .resume final
  | .closure params body captured => do
    let (constants, cells) ← captureAll captured
    return .closure params body constants cells
  | .declare constant name value => do
    let v ← eval h value
    .declare name (if constant then .fixed v else .own v)
    return .unit
  | .assign op name links value => do
    -- The value comes first, then the steps, and the variable is looked up last.
    let v ← eval h value
    let keys ← evalLinks h links
    match ← .find? name with
    | none => .fail (.variableNotFound name)
    | some e =>
      if e.constant then .fail (.constantModified name)
      else
        let old ← .read e.slot
        let new ← h.update (fun w => match op with
          | some op => .ofExcept (applyAssignment op w v)
          | none => return v) keys old
        .assign name new
        return .unit
  | .block body => .inBlock (evalBody h body)
  | .cond test thenPart elsePart => do
    if ← asBool (← eval h test) then eval h thenPart else eval h elsePart
  | .select scrutinee cases => do
    let v ← eval h scrutinee
    -- A literal label wins over every range, wherever it stands.
    let choice := if cases.any fun | .mk labels _ _ _ => labels.any (Label.holds .literal v)
      then Choice.literal else .range
    match ← evalCases h choice v cases with
    | some result => return result
    | none => return (← evalCases h .otherwise v cases).getD .unit
  | .whileLoop test body =>
    .repeatTurns h.turns (.error .exhausted) fun _ => do
      if ← asBool (← eval h test) then .asTurn (.inBlock (evalAll h body))
      else return .done .unit
  | .doLoop body stopWhen test =>
    .repeatTurns h.turns (.error .exhausted) fun _ => do
      match ← Action.asTurn (.inBlock (evalAll h body)) with
      | .done v => return .done v
      | .again =>
        if (← asBool (← eval h test)) = stopWhen then return .done .unit else return .again
  | .forLoop item counter source body => do
    match items? (← eval h source) with
    | none => .fail .notIterable
    | some (count, itemAt) =>
      .repeatTurns count (.ok .unit) fun i =>
        .asTurn (.inBlock do
          match counter with
          | some counter => .declare counter (.own (.int i))
          | none => pure ()
          -- Every turn has a variable of its own, so a closure keeps the one of its turn.
          .declare item (.own (itemAt i))
          .inBlock (evalAll h body))
  | .breakLoop value => do .signal (.breakLoop (← eval h value))
  | .continueLoop => .signal .continueLoop
  | .giveBack value => do .signal (.returned (← eval h value))
  | .raise value => do .fail (.thrown (← eval h value))
  | .attempt body caught handler =>
    .handle (eval h body) fun s =>
      match s with
      | .fault e =>
        -- The body has left its block: of it the handler sees the fault alone.
        if e.catchable then
          .handle
            (.inBlock do
              match caught with
              | some name => .declare name (.own e.caught)
              | none => pure ()
              let _ ← eval h handler
              return .unit)
            fun s =>
              match s with
              | .fault again => .fail (e.handledBy again)
              | s => .signal s
        else .fail e
      | s => .signal s

/-- The values of expressions, from left to right. -/
def evalEach (h : Host) : List Expr → Action (List Value)
  | [] => return []
  | e :: rest => do
    let v ← eval h e
    return v :: (← evalEach h rest)

/-- The steps with their operands evaluated, from left to right. -/
def evalLinks (h : Host) : List Link → Action (List Key)
  | [] => return []
  | .index key :: rest => do
    let k ← eval h key
    return .index k :: (← evalLinks h rest)
  | .field name :: rest => return .field name :: (← evalLinks h rest)
  | .method position name args :: rest => do
    let vs ← evalEach h args
    return .method position name vs :: (← evalLinks h rest)

/-- The value of the last statement. -/
def evalBody (h : Host) : List Expr → Action Value
  | [] => return .unit
  | [e] => eval h e
  | e :: rest => do
    if e.isPure then evalBody h rest
    else
      let _ ← eval h e
      evalBody h rest

/-- Statements whose values nobody asks for. -/
def evalAll (h : Host) : List Expr → Action Value
  | [] => return .unit
  | e :: rest => do
    if e.isPure then evalAll h rest
    else
      let _ ← eval h e
      evalAll h rest

/-- The value of the first case that is considered and whose guard holds. -/
def evalCases (h : Host) (choice : Choice) (v : Value) : List Case → Action (Option Value)
  | [] => return none
  | .mk labels isDefault guard body :: rest => do
    if considers choice v labels isDefault then
      if ← asBool (← eval h guard) then return some (← eval h body)
      else evalCases h choice v rest
    else evalCases h choice v rest

end

end Host

/-! ### Programs -/

/-- The calls that may nest. -/
def callDepth : Nat := 64

/-- The turns granted to a loop: more than can be waited for. -/
def loopTurns : Nat := Nat.pow 2 62

/-- How a call ends, as its caller sees it. -/
def Callee.result (f : Callee) : Except Signal Value → Except Signal Value
  | .ok v | .error (.returned v) => .ok v
  | .error (.fault e) => .error (.fault (if e.catchable then f.wrap e else e))
  | .error s => .error s

/-- A call when `depth` calls may still nest. -/
def invokeAt (functions : List FunctionDef) (turns : Nat) : Nat → Callee → List Value →
    Action (Except Signal Value × Scope)
  | 0, _, _ => .fail .stackOverflow
  | depth + 1, f, args => do
    let host : Host := ⟨functions, turns, invokeAt functions turns depth⟩
    let entries := (f.params.zip args).map fun p => (⟨p.1, .own p.2⟩ : Entry)
    let (result, left) ← .inFrame (entries.reverse ++ f.captured) (host.eval f.body)
    return (f.result result, left)

/-- The host of a script. -/
def Host.of (functions : List FunctionDef) (turns : Nat) : Host :=
  ⟨functions, turns, invokeAt functions turns callDepth⟩

/-- How an evaluation ends. -/
inductive Outcome where
  | value (v : Value)
  | fault (e : EvalError)
  /-- A loop has used up the turns granted to it. -/
  | unfinished

/-- Runs statements with the functions. -/
def run (functions : List FunctionDef) (turns : Nat) (body : List Expr) (m : Machine) :
    Outcome × Machine :=
  match ((Host.of functions turns).evalBody body).run m with
  | (.ok v, m') | (.error (.returned v), m') => (.value v, m')
  | (.error (.fault e), m') => (.fault e, m')
  | (.error (.breakLoop _), m') | (.error .continueLoop, m') => (.value .unit, m')
  | (.error .exhausted, m') => (.unfinished, m')

end DeskPlan.Script
