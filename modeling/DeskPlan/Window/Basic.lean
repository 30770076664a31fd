import DeskPlan.Monitor.Basic

/-!
# `DeskPlan.Window.Basic`: windows

A `Window` is the snapshot of one visible top-level window. Hosts without taskbar introspection
report no taskbar attributes; `Window.hidingTaskbar` drops them.
-/

set_option autoImplicit false

namespace DeskPlan

/-- The snapshot of a window. The program is absent when its process could not be queried. -/
structure Window where
  handle : Word64
  rect : Rect
  title : String
  className : String
  programPath : Option String
  taskbarAppId : Option String
  taskbarIndex : Option Word32
  taskbarSubIndex : Option Word32
  isToolWindow : Bool
deriving DecidableEq, Repr

namespace Window

/-- Whether a character separates the parts of a program path, on any host. -/
def isSeparator (c : Char) : Bool := c = '\\' || c = '/'

/-- The longest suffix of a text without a separator. -/
def lastPart (s : List Char) : List Char := (s.reverse.takeWhile (!isSeparator ·)).reverse

/-- The file name of the program, empty when the program is unknown. -/
def fileName (w : Window) : String :=
  match w.programPath with
  | some path => String.ofList (lastPart path.toList)
  | none => ""

/-- The window without its taskbar attributes. -/
def hidingTaskbar (w : Window) : Window :=
  { w with taskbarAppId := none, taskbarIndex := none, taskbarSubIndex := none }

/-- The handle and the title. -/
def describe (w : Window) : String := handleText w.handle ++ " (" ++ w.title ++ ")"

/-- The fields of a window in a document. -/
def schema : Json.Schema
    (Word64 × Rect × String × String × Option String × Option String × Option Word32 ×
      Option Word32 × Bool × Unit) :=
  .required "handle" .word64 <| .required "windowRect" Rect.decode <|
  .withDefault "windowTitle" .string "" <| .withDefault "windowClass" .string "" <|
  .optional "programPath" .string <| .optional "taskbarAppId" .string <|
  .optional "taskbarIndex" .word32 <| .optional "taskbarSubIndex" .word32 <|
  .withDefault "isToolWindow" .bool false .done

/-- Reads a window out of a document. -/
def decode : Json.Decoder Window := fun v => do
  let (handle, rect, title, className, programPath, taskbarAppId, taskbarIndex, taskbarSubIndex,
    isToolWindow, ()) ← schema.record "ProgramWindow" v
  return ⟨handle, rect, title, className, programPath, taskbarAppId, taskbarIndex,
    taskbarSubIndex, isToolWindow⟩

/-- The fields of a window as a document. -/
def fields (w : Window) : List (String × Json) :=
  [("handle", .int w.handle.val), ("windowRect", w.rect.toJson), ("windowTitle", .str w.title),
    ("windowClass", .str w.className), ("programPath", .optStr w.programPath),
    ("taskbarAppId", .optStr w.taskbarAppId),
    ("taskbarIndex", .optInt (w.taskbarIndex.map (·.val))),
    ("taskbarSubIndex", .optInt (w.taskbarSubIndex.map (·.val))),
    ("isToolWindow", .bool w.isToolWindow)]

/-- A window as a document. -/
def toJson (w : Window) : Json := .obj w.fields

end Window

end DeskPlan
