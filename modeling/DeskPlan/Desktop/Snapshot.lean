import DeskPlan.Monitor.Location
import DeskPlan.Window.Basic

/-!
# `DeskPlan.Desktop.Snapshot`: a desktop written down

A `Desktop` is the state of a desktop as a document gives it: its monitors, its windows, and
whether the host can report taskbar attributes. If it cannot, `Desktop.liveWindows` drops them.
-/

set_option autoImplicit false

namespace DeskPlan

/-- The monitors and windows of a host. -/
structure Desktop where
  taskbarAvailable : Bool := false
  monitors : List Monitor := []
  windows : List Window := []
deriving DecidableEq

namespace Desktop

/-- The windows, without taskbar attributes if the host cannot report them. -/
def liveWindows (d : Desktop) : List Window :=
  if d.taskbarAvailable then d.windows else d.windows.map Window.hidingTaskbar

/-- The fields of a desktop in a document. -/
def schema : Json.Schema (Bool × List Monitor × List Window × Unit) :=
  .withDefault "taskbarAvailable" .bool false <|
  .withDefault "monitors" (.list Monitor.decode) [] <|
  .withDefault "windows" (.list Window.decode) [] .done

/-- Reads a desktop out of a document. -/
def decode : Json.Decoder Desktop := fun v => do
  let (taskbarAvailable, monitors, windows, ()) ← schema.record "SnapshotDesktop" v
  return ⟨taskbarAvailable, monitors, windows⟩

/-- A desktop as a document. -/
def toJson (d : Desktop) : Json :=
  .obj [("taskbarAvailable", .bool d.taskbarAvailable),
    ("monitors", .list (d.monitors.map Monitor.toJson)),
    ("windows", .list (d.windows.map Window.toJson))]

end Desktop

end DeskPlan
