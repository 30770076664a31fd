import DeskPlan.Monitor.Basic

/-!
# `DeskPlan.Blueprint.Basic`: blueprints and their documents

A `Blueprint` names the monitors it is made for and lists rules. A `Rule` says which windows it
is for (`Filters`) and where they go (`TargetBox`, a monitor name and a `ShowState`).

* `Blueprint.decode` reads a blueprint out of a document, `Blueprint.toJson` writes one;
* `Blueprint.parse` also asks that at least one monitor is named.
-/

set_option autoImplicit false

namespace DeskPlan

/-- An attribute of a window that a pattern applies to, in the order of evaluation. -/
inductive Attribute where
  | windowTitle
  | windowClass
  | programPath
  | taskbarAppId
  | taskbarIndex
  | taskbarSubIndex
deriving DecidableEq, Repr

namespace Attribute

/-- The name of the attribute in documents and messages. -/
def name : Attribute → String
  | windowTitle => "windowTitle"
  | windowClass => "windowClass"
  | programPath => "programPath"
  | taskbarAppId => "taskbarAppId"
  | taskbarIndex => "taskbarIndex"
  | taskbarSubIndex => "taskbarSubIndex"

end Attribute

/-- What a rule asks of a window; an absent filter asks nothing. -/
structure Filters where
  windowTitle : Option String := none
  windowClass : Option String := none
  programPath : Option String := none
  taskbarAppId : Option String := none
  taskbarIndex : Option String := none
  taskbarSubIndex : Option String := none
  isToolWindow : Option Bool := none
deriving DecidableEq, Repr

namespace Filters

/-- Whether a filter needs taskbar attributes. -/
def needsTaskbar (f : Filters) : Bool :=
  f.taskbarAppId.isSome || f.taskbarIndex.isSome || f.taskbarSubIndex.isSome

/-- The pattern for an attribute. -/
def pattern? (f : Filters) : Attribute → Option String
  | .windowTitle => f.windowTitle
  | .windowClass => f.windowClass
  | .programPath => f.programPath
  | .taskbarAppId => f.taskbarAppId
  | .taskbarIndex => f.taskbarIndex
  | .taskbarSubIndex => f.taskbarSubIndex

/-- The attributes in the order of evaluation. -/
def attributes : List Attribute :=
  [.windowTitle, .windowClass, .programPath, .taskbarAppId, .taskbarIndex, .taskbarSubIndex]

/-- The patterns that are present, in the order of evaluation. -/
def patterns (f : Filters) : List (Attribute × String) :=
  attributes.filterMap fun a => (f.pattern? a).map fun p => (a, p)

/-- The fields of filters in a document. A taskbar index may be written as a number. -/
def schema : Json.Schema
    (Option String × Option String × Option String × Option String × Option String ×
      Option String × Option Bool × Unit) :=
  .optional "windowTitle" .string <| .optional "windowClass" .string <|
  .optional "programPath" .string <| .optional "taskbarAppId" .string <|
  .optional "taskbarIndex" (.textOrNumber "Raw") <|
  .optional "taskbarSubIndex" (.textOrNumber "Raw") <| .optional "isToolWindow" .bool .done

/-- Reads filters out of a document. -/
def decode : Json.Decoder Filters := fun v => do
  let (windowTitle, windowClass, programPath, taskbarAppId, taskbarIndex, taskbarSubIndex,
    isToolWindow, ()) ← schema.record "WindowFilters" v
  return ⟨windowTitle, windowClass, programPath, taskbarAppId, taskbarIndex, taskbarSubIndex,
    isToolWindow⟩

/-- Filters as a document. -/
def toJson (f : Filters) : Json :=
  .obj (Json.fieldIf "windowTitle" .str f.windowTitle ++
    Json.fieldIf "windowClass" .str f.windowClass ++
    Json.fieldIf "programPath" .str f.programPath ++
    Json.fieldIf "taskbarAppId" .str f.taskbarAppId ++
    Json.fieldIf "taskbarIndex" .str f.taskbarIndex ++
    Json.fieldIf "taskbarSubIndex" .str f.taskbarSubIndex ++
    Json.fieldIf "isToolWindow" .bool f.isToolWindow)

end Filters

/-- A number of the target box that may be given by a formula. -/
inductive BoxField where
  | posX
  | posY
  | width
  | height
deriving DecidableEq, Repr

namespace BoxField

/-- The name of the number in documents and messages. -/
def name : BoxField → String
  | posX => "posX"
  | posY => "posY"
  | width => "width"
  | height => "height"

end BoxField

/-- The box a rule asks for: formulas for position and extent, and whether the window is centred
where no position is given. Without a formula the current value is kept. -/
structure TargetBox where
  posX : Option String := none
  posY : Option String := none
  width : Option String := none
  height : Option String := none
  center : Bool := false
deriving DecidableEq, Repr

namespace TargetBox

/-- The formulas that are present, in the order of evaluation. -/
def formulas (b : TargetBox) : List (BoxField × String) :=
  [(BoxField.width, b.width), (.height, b.height), (.posX, b.posX), (.posY, b.posY)].filterMap
    fun f => f.2.map fun e => (f.1, e)

/-- The fields of a target box in a document. -/
def schema : Json.Schema
    (Option String × Option String × Option String × Option String × Bool × Unit) :=
  .optional "posX" .string <| .optional "posY" .string <| .optional "width" .string <|
  .optional "height" .string <| .withDefault "center" .bool false .done

/-- Reads a target box out of a document. -/
def decode : Json.Decoder TargetBox := fun v => do
  let (posX, posY, width, height, center, ()) ← schema.record "WindowRect" v
  return ⟨posX, posY, width, height, center⟩

/-- A target box as a document. -/
def toJson (b : TargetBox) : Json :=
  .obj (Json.fieldIf "posX" .str b.posX ++ Json.fieldIf "posY" .str b.posY ++
    Json.fieldIf "width" .str b.width ++ Json.fieldIf "height" .str b.height ++
    [("center", .bool b.center)])

end TargetBox

/-- The state a window is put into. -/
inductive ShowState where
  | restored
  | minimized
  | maximized
deriving DecidableEq, Repr

namespace ShowState

/-- The name of the state. -/
def name : ShowState → String
  | restored => "Restored"
  | minimized => "Minimized"
  | maximized => "Maximized"

/-- The names by which documents refer to the states. -/
def known : List (String × ShowState) :=
  [("Restored", restored), ("restored", restored), ("Minimized", minimized),
    ("minimized", minimized), ("Maximized", maximized), ("maximized", maximized)]

/-- Reads a state out of a document. -/
def decode : Json.Decoder ShowState := .variant known

/-- A state as a document. -/
def toJson (s : ShowState) : Json := .str s.name

end ShowState

/-- A rule: which windows it is for and where they go. -/
structure Rule where
  enabled : Bool := false
  name : String := ""
  comment : Option String := none
  filters : Filters := {}
  targetMonitor : Option String := none
  targetBox : TargetBox := {}
  targetState : ShowState := .restored
deriving DecidableEq, Repr

namespace Rule

/-- The fields of a rule in a document. -/
def schema : Json.Schema
    (Bool × String × Option String × Filters × Option String × TargetBox × ShowState × Unit) :=
  .withDefault "enabled" .bool false <| .withDefault "name" .string "" <|
  .optional "comment" .string <| .withDefault "filters" Filters.decode {} <|
  .optional "targetMonitor" .string <| .withDefault "targetRect" TargetBox.decode {} <|
  .withDefault "targetState" ShowState.decode .restored .done

/-- Reads a rule out of a document. -/
def decode : Json.Decoder Rule := fun v => do
  let (enabled, name, comment, filters, targetMonitor, targetBox, targetState, ()) ←
    schema.record "LayoutRule" v
  return ⟨enabled, name, comment, filters, targetMonitor, targetBox, targetState⟩

/-- A rule as a document. -/
def toJson (r : Rule) : Json :=
  .obj ([("enabled", .bool r.enabled), ("name", .str r.name)] ++
    Json.fieldIf "comment" .str r.comment ++ [("filters", r.filters.toJson)] ++
    Json.fieldIf "targetMonitor" .str r.targetMonitor ++
    [("targetRect", r.targetBox.toJson), ("targetState", r.targetState.toJson)])

/-- The names of the enabled rules that need taskbar attributes. -/
def taskbarDependent (rules : List Rule) : List String :=
  (rules.filter fun r => r.enabled && r.filters.needsTaskbar).map (·.name)

end Rule

/-- A blueprint: the monitors it is made for and the rules that place windows on them. -/
structure Blueprint where
  name : String
  comment : Option String
  monitorMatch : NameMap Fingerprint
  engineInitScripts : List String
  rules : List Rule
deriving DecidableEq

namespace Blueprint

/-- The fields of a blueprint in a document. -/
def schema : Json.Schema
    (String × Option String × NameMap Fingerprint × List String × List Rule × Unit) :=
  .withDefault "name" .string "" <| .optional "comment" .string <|
  .required "monitorMatch" (fun v => (Json.Decoder.entries Fingerprint.decode v).map .ofList) <|
  .withDefault "engineInitScripts" (.list .string) [] <|
  .withDefault "rules" (.list Rule.decode) [] .done

/-- Reads a blueprint out of a document; no monitor need be named. -/
def decode : Json.Decoder Blueprint := fun v => do
  let (name, comment, monitorMatch, engineInitScripts, rules, ()) ← schema.record "Blueprint" v
  return ⟨name, comment, monitorMatch, engineInitScripts, rules⟩

/-- A blueprint as a document. -/
def toJson (b : Blueprint) : Json :=
  .obj ([("name", .str b.name)] ++ Json.fieldIf "comment" .str b.comment ++
    [("monitorMatch", .obj (b.monitorMatch.entries.map fun e => (e.1, e.2.toJson)))] ++
    (if b.engineInitScripts.isEmpty then []
      else [("engineInitScripts", .strings b.engineInitScripts)]) ++
    [("rules", .list (b.rules.map Rule.toJson))])

/-- Why a text is no usable blueprint. -/
inductive ParseError where
  | document (e : Json.DecodeError)
  | noMonitors

/-- The wording of the error. -/
def ParseError.message : ParseError → String
  | document e => e.message
  | noMonitors => "monitorMatch must declare at least one monitor"

/-- Reads a blueprint that names at least one monitor. -/
def parse (text : String) : Except ParseError Blueprint :=
  match Json.decodeText decode text with
  | .error e => .error (.document e)
  | .ok b => if b.monitorMatch.isEmpty then .error .noMonitors else .ok b

end Blueprint

end DeskPlan
