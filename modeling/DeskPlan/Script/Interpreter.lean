import DeskPlan.Script.Eval
import DeskPlan.Script.Parser
import DeskPlan.Script.Session

/-!
# `DeskPlan.Script.Interpreter`: the language of this program's scripts

`interpreter` is an `Engine`: it reads programs with `compile` and runs them with `Script.run` on a
`Machine`. It covers the part of the language that blueprints use. A `Context` is a session of it.
-/

set_option autoImplicit false

namespace DeskPlan.Script

/-! ### Windows as values -/

mutual

/-- A document as a value. An integer that scripts cannot hold becomes a float. -/
def Value.ofJson : Json → Value
  | .null => .unit
  | .bool b => .bool b
  | .int n => if fitsInt n then .int n else .float (Float.ofInt n)
  | .real x => .float x
  | .str s => .str s
  | .list items => .array (Value.ofItems items)
  | .obj fields => .map (Value.ofFields fields)

/-- The items of a list as values. -/
def Value.ofItems : List Json → List Value
  | [] => []
  | v :: rest => Value.ofJson v :: Value.ofItems rest

/-- The fields of an object as entries of a map. -/
def Value.ofFields : List (String × Json) → List (String × Value)
  | [] => []
  | (k, v) :: rest => NameMap.insertEntry k (Value.ofJson v) (Value.ofFields rest)

end

/-- The snapshot of all windows as scripts see it. -/
def windowsValue (windows : List Window) : Value :=
  .array (windows.map fun w => Value.ofJson w.toJson)

/-! ### Programs -/

namespace Program

/-- One program after the other, with the functions of both. -/
def merge (p q : Program) : Program := ⟨p.body ++ q.body, mergeFunctions p.functions q.functions⟩

/-- The functions without the statements. -/
def functionsOnly (p : Program) : Program := { p with body := [] }

/-- Runs a program on a machine. -/
def finish (p : Program) (m : Machine) : Finished Value Machine :=
  match Script.run p.functions loopTurns p.body { m with output := [] } with
  | (outcome, m) =>
    { result := match outcome with
        | .value v => .ok v
        | .fault e => .error e.message
        | .unfinished => .error "Script terminated"
      scope := { m with output := [] }
      said := m.output.reverse }

end Program

/-! ### Scopes -/

namespace Machine

/-- The present value of an entry. -/
def valueOf (m : Machine) (e : Entry) : Value :=
  match e.slot with
  | .fixed v | .own v => v
  | .shared cell => m.cells[cell]?.getD .unit

/-- The variables of the scope, oldest first. -/
def vars (m : Machine) : List (Variable Value) :=
  m.scope.reverse.map fun e => ⟨e.name, e.constant, m.valueOf e⟩

end Machine

/-- The engine. -/
def interpreter : Engine where
  Value := Value
  Program := Program
  Scope := Machine
  Function := FunctionDef
  integer := .int
  windows windows := .ok (windowsValue windows)
  integer?
    | .int n => some n
    | _ => none
  float?
    | .float x => some x
    | _ => none
  typeName := Value.typeName
  text := Value.text
  emptyScope := {}
  vars := Machine.vars
  length m := m.scope.length
  pushConstant m name v := { m with scope := ⟨name, .fixed v⟩ :: m.scope }
  rewind m count := { m with scope := m.scope.oldest count }
  compile source := (compile source).mapError CompileError.message
  emptyProgram := ⟨[], []⟩
  merge := Program.merge
  functionsOnly := Program.functionsOnly
  function? p := findFunction? p.functions
  run := Program.finish

/-- The scripts of a run of this program. -/
abbrev Context := Session interpreter

namespace Context

/-- A context that has run no script. -/
def new (windows : List Window) : Context where
  scope := { scope := [⟨windowsName, .fixed (windowsValue windows)⟩] }
  functions := ⟨[], []⟩
  baseLength := 1

/-- The interpreter takes any windows. -/
theorem session_new (windows : List Window) :
    (Session.new windows : Except ScriptFailure Context) = .ok (new windows) := rfl

end Context

end DeskPlan.Script
