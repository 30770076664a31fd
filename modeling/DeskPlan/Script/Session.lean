import DeskPlan.Script.Engine

/-!
# `DeskPlan.Script.Session`: the scripts of one run

A `Session` lives for a whole run. Init scripts leave variables and functions in it. Before a
window's formulas are evaluated, `Session.bind` drops what earlier formulas declared and adds the
constants of the window's monitor. The oldest variable of the scope is the constant with the
snapshot of all windows.

* `Session.runInit` runs an init script, `Session.evalCoordinate` evaluates a formula to a
  coordinate;
* a script that does not compile changes nothing.
-/

set_option autoImplicit false

namespace DeskPlan.Script

/-! ### Errors -/

/-- What went wrong with a script. -/
inductive Fault where
  | compile (message : String)
  | runtime (message : String)
  | notNumeric (typeName : String)
  | outOfRange (value : String)
deriving DecidableEq, Repr

/-- An error of a script, with what the script is for. -/
structure ScriptFailure where
  what : String
  fault : Fault
deriving DecidableEq, Repr

namespace ScriptFailure

/-- The wording of the error. -/
def message (e : ScriptFailure) : String :=
  match e.fault with
  | .compile message => e.what ++ " does not compile: " ++ message
  | .runtime message => e.what ++ " failed: " ++ message
  | .notNumeric typeName => e.what ++ " evaluated to " ++ typeName ++ ", expected a number"
  | .outOfRange value =>
    e.what ++ " evaluated to " ++ value ++ ", which is not a usable coordinate"

/-- Whether the script does not compile. -/
def isCompile (e : ScriptFailure) : Bool :=
  match e.fault with
  | .compile _ => true
  | _ => false

end ScriptFailure

/-! ### What scripts see -/

/-- The name of the constant that holds the snapshot of all windows. -/
def windowsName : String := "programWindows"

/-- The numbers of a monitor that formulas can refer to. -/
structure MonitorConstants where
  dpiX : Int
  dpiY : Int
  width : Int
  height : Int
  workAreaWidth : Int
  workAreaHeight : Int
deriving DecidableEq, Repr

namespace MonitorConstants

/-- The numbers of a monitor. -/
def of? (m : Monitor) : Checked MonitorConstants := do
  let screen ← m.monitorRect.box?
  let workArea ← m.workAreaRect.box?
  return ⟨m.dpiX.val, m.dpiY.val, screen.width.val, screen.height.val, workArea.width.val,
    workArea.height.val⟩

/-- The names and numbers in the order in which they are bound. -/
def bindings (v : MonitorConstants) : List (String × Int) :=
  [("monitorDpiX", v.dpiX), ("monitorDpiY", v.dpiY), ("monitorWidth", v.width),
    ("monitorHeight", v.height), ("workAreaWidth", v.workAreaWidth),
    ("workAreaHeight", v.workAreaHeight)]

end MonitorConstants

/-! ### Sessions -/

/-- The state of the scripts of one run. The `baseLength` oldest variables of the scope stay from
window to window. -/
structure Session (E : Engine) where
  scope : E.Scope
  functions : E.Program
  baseLength : Nat
  /-- What scripts have said that the host has not heard yet. -/
  said : List Output := []

namespace Session

variable {E : Engine}

/-- A session that has run no script, unless the windows cannot be a value. -/
def new (windows : List Window) : Except ScriptFailure (Session E) :=
  match E.windows windows with
  | .error message => .error ⟨windowsName, .runtime message⟩
  | .ok value =>
    let scope := E.pushConstant E.emptyScope windowsName value
    .ok { scope := scope, functions := E.emptyProgram, baseLength := E.length scope }

/-- The session without what was declared since the last init script. -/
def rewind (c : Session E) : Session E := { c with scope := E.rewind c.scope c.baseLength }

/-- Reads a script. -/
def read (E : Engine) (what source : String) : Except ScriptFailure E.Program :=
  (E.compile source).mapError fun message => ⟨what, .compile message⟩

/-- Runs a program together with the functions of the session. -/
def execute (c : Session E) (p : E.Program) : Except String E.Value × Session E :=
  let f := E.run (E.merge c.functions p) c.scope
  (f.result, { c with scope := f.scope, said := c.said ++ f.said })

/-- What an init script is called in messages. -/
def initName (index : Nat) : String := s!"engine init script #{index + 1}"

/-- Runs the init script with the given number. What it declares and defines stays, unless it
fails. -/
def runInit (c : Session E) (index : Nat) (source : String) :
    Except ScriptFailure Unit × Session E :=
  let what := initName index
  match read E what source with
  | .error e => (.error e, c)
  | .ok p =>
    match c.rewind.execute p with
    | (.ok _, c) =>
      (.ok (), { c with
        functions := E.merge c.functions (E.functionsOnly p)
        baseLength := E.length c.scope })
    | (.error message, c) => (.error ⟨what, .runtime message⟩, c)

/-- Adds the constants of a monitor to a scope. -/
def pushBindings (s : E.Scope) (v : MonitorConstants) : E.Scope :=
  v.bindings.foldl (fun s b => E.pushConstant s b.1 (E.integer b.2)) s

/-- Replaces what was declared since the last init script by the constants of a monitor. -/
def bind (c : Session E) (v : MonitorConstants) : Session E :=
  { c.rewind with scope := pushBindings c.rewind.scope v }

/-- A float without its fraction. -/
def dropFraction (x : Float) : Float := if x < 0.0 then x.ceil else x.floor

/-- A value as a coordinate; the fraction of a float is cut off. -/
def coordinateOf (v : E.Value) : Except Fault Coordinate :=
  match E.integer? v with
  | some n =>
    match Ranged.ofInt? n with
    | some c => .ok c
    | none => .error (.outOfRange (E.text v))
  | none =>
    match E.float? v with
    | some x =>
      let t := dropFraction x
      if t.isFinite && -2147483648.0 ≤ t && t ≤ 2147483647.0 then
        match Ranged.ofInt? t.toInt64.toInt with
        | some c => .ok c
        | none => .error (.outOfRange (E.text v))
      else .error (.outOfRange (E.text v))
    | none => .error (.notNumeric (E.typeName v))

/-- Evaluates a formula to a coordinate. What it declares stays until the next `bind`. -/
def evalCoordinate (c : Session E) (what source : String) :
    Except ScriptFailure Coordinate × Session E :=
  match read E what source with
  | .error e => (.error e, c)
  | .ok p =>
    match c.execute p with
    | (.ok v, c) => ((coordinateOf v).mapError fun f => ⟨what, f⟩, c)
    | (.error message, c) => (.error ⟨what, .runtime message⟩, c)

/-- What the scripts have said since the last call, in order. -/
def drain (c : Session E) : List Output × Session E := (c.said, { c with said := [] })

end Session

end DeskPlan.Script
